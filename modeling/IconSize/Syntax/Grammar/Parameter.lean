import IconSize.Syntax.Grammar.Basic

/-!
Patterns and parameter lists.
-/

namespace IconSize.Syntax.Grammar
open IconSize.Syntax.Parser Lexer

variable [Grammar]

/-- The type after a colon, if there is one. -/
def typeAfterColon : Parser (Option Node) := do
  if ← typed then
    if ← eat ":" then return some (← parse .type)
  return none

/-- A pattern and the value that stands in for a missing one. -/
def patternWithDefault : Parser Pattern := do
  let target ← parse .pattern
  if ← eat "=" then return .withDefault target (← assignmentWithIn)
  else return target

/-- The last entry of a pattern, `...target`; nothing follows it, not even a comma. -/
def restPattern : Parser Pattern := do
  expect "..."
  let target ← parse .pattern
  failIf (← at? ",") .misplacedRest
  return .rest target

/-- A property of an object pattern. -/
def patternProperty : Parser Pattern := do
  if ← at? "..." then
    let rest ← restPattern
    match rest with
    | .rest (.name _) => return rest
    | _ => fail .misplacedRest
  else
    let key ← propertyKey
    if ← eat ":" then return .keyed key.node (← patternWithDefault)
    match key.word with
    | none => fail .unexpected
    | some word =>
      let binder ← identifierOf word
      if ← eat "=" then
        return .keyed plainKey (.withDefault (.name binder) (← assignmentWithIn))
      else return .keyed plainKey (.name binder)

/-- A pattern: a name, an object pattern or an array pattern. -/
def pattern : Parser Pattern := do
  if ← eat openBrace then
    let properties ← commaList closeBrace patternProperty
    expect closeBrace
    return .object properties
  else if ← eat "[" then
    let elements ← commaList "]" do
      if ← at? "," then return .hole
      else if ← at? "..." then restPattern
      else patternWithDefault
    expect "]"
    return .array elements
  else return .name (← identifier)

/-- Where a parameter list stands. -/
inductive ParameterPlace where
  | function
  | arrow
  | objectMethod
  | method
  | constructor
  | type
deriving DecidableEq

/-- The words that make a property of a parameter. -/
def parameterModifiers : List String :=
  ["public", "private", "protected", "override", "readonly"]

def parameter (place : ParameterPlace) : Parser Parameter := do
  let found ← decorators
  failIf (!found.isEmpty && place != .method && place != .constructor) .misplacedDecorator
  let words ← whenTyped [] (modifiers parameterModifiers)
  failIf (!words.isEmpty && place != .constructor) .misplacedModifier
  if ← at? "..." then
    expect "..."
    let target ← parse .pattern
    let ascription ← typeAfterColon
    failIf (← atAny [",", "="]) .misplacedRest
    return .mk found (.rest target) ascription none
  else
    let target ← parse .pattern
    let _ ← whenTyped false (eat "?")
    let ascription ← typeAfterColon
    if ← eat "=" then return .mk found target ascription (some (← assignmentWithIn))
    else return .mk found target ascription none

/-- A parameter list in parentheses. The type of `this` may stand before the first parameter. -/
def parameterList (place : ParameterPlace) : Parser (Option Node × List Parameter) := do
  expect "("
  let receiver ← do
    if ← (do if ← typed then atWord "this" else return false) then
      failIf (place == .arrow) .misplacedReceiver
      advance
      let ascription ← typeAfterColon
      if !(← at? ")") then expect ","
      pure (some (ascription.getD (.group .keywordType [])))
    else pure none
  let parameters ← commaList ")" (parameter place)
  expect ")"
  return (receiver, parameters)

end IconSize.Syntax.Grammar
