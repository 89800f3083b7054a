import IconSize.Syntax.Grammar.TypeSyntax

/-!
Functions: declarations, expressions, methods, accessors and arrow functions. A function sets the
words that are keywords inside it: `await` in an asynchronous one, `yield` in a generator.
-/

namespace IconSize.Syntax.Grammar
open IconSize.Syntax.Parser Lexer

variable [Grammar]

def statementsInBraces : Parser (List Node) := do
  expect openBrace
  let statements ← many (do return !(← at? closeBrace) && !(← atKind .endOfInput))
    (parse (.statement false))
  expect closeBrace
  return statements

def functionBody : Parser (List Node) :=
  within ({ · with
    allowIn := true, inFunction := true, inDecorator := false, allowConditional := true })
    statementsInBraces

/-- What the words before a function say about it. -/
structure FunctionKind where
  asynchronous : Bool
  generator : Bool

/-- The words `await` and `yield` as a function of this kind has them. -/
def FunctionKind.inside (kind : FunctionKind) (surroundings : Surroundings) : Surroundings :=
  { surroundings with inAsync := kind.asynchronous, inGenerator := kind.generator }

/-- A function from its type parameters on. Without a body it is a declaration, which only typed
dialects have and no method of an object is. Where only types are described a function has no body,
except for a generator. -/
def functionRest (kind : FunctionKind) (role : FunctionRole) (name : Option Identifier)
    (place : ParameterPlace) : Parser Node := within kind.inside do
  let generics ← typeParameters
  let (receiver, parameters) ← within ({ · with allowIn := true }) (parameterList place)
  let result ← resultAfterColon
  if ← at? openBrace then
    let body ← functionBody
    failIf ((← surroundings).ambient && !kind.generator) .misplacedBody
    return .function role name generics receiver parameters result body
  else
    failIf (!(← typed) || place == .objectMethod) .unexpected
    endStatement
    return .function .declaration name generics receiver parameters result []

/-- A method from its type parameters on. -/
def method (kind : FunctionKind) (place : ParameterPlace) : Parser Node :=
  functionRest kind .expression none place

/-- Does the function have this many parameters, none of them a rest? -/
def hasParameters (count : Nat) : Node → Bool
  | .function _ _ _ _ parameters _ _ =>
    parameters.length == count && parameters.all fun parameter =>
      match parameter.pattern with
      | .rest _ => false
      | _ => true
  | _ => false

/-- The function of an accessor: a getter has no parameters, a setter has one. -/
def accessor (getter : Bool) (place : ParameterPlace) : Parser Node := do
  let function ← method ⟨false, false⟩ place
  failIf (!hasParameters (if getter then 0 else 1) function) .accessorParameters
  return function

/-- Is a function ahead, possibly with `async` before its keyword? -/
def functionAhead : Parser Bool := do
  if ← atWord "function" then return true
  else if ← atWord "async" then next do
    return (← atWord "function") && !(← onNewLine)
  else return false

/-- A function from its keyword on. Declarations have a name, except as the default export. -/
def functionSyntax (role : FunctionRole) (named : Bool) : Parser Node := do
  let asynchronous ← eatWord "async"
  expectWord "function"
  let generator ← eat "*"
  let kind : FunctionKind := ⟨asynchronous, generator⟩
  let binder ←
    if ← atIdentifier then
      match role with
      | .declaration => some <$> identifier
      | .expression => some <$> within kind.inside identifier
    else pure none
  failIf (named && binder.isNone) .reservedName
  functionRest kind role binder .function

/-! ## Arrow functions -/

/-- An arrow function: a function without a name. -/
def arrowNode (generics : List Node) (parameters : List Parameter) (result : Option Node)
    (body : List Node) : Node :=
  .function .expression none generics none parameters result body

/-- What follows the arrow: a body, or an expression. -/
def arrowBody (asynchronous mayHaveResultType : Bool) : Parser (List Node) :=
  within (FunctionKind.inside ⟨asynchronous, false⟩) do
    if ← at? openBrace then functionBody
    else return [← parse (.assignment mayHaveResultType)]

/-- The arrow, which stands on one line with what comes before it. -/
def expectArrow : Parser Unit := do
  if (← at? "=>") && (← onNewLine) then fail .lineBreak
  expect "=>"

/-- What stands before the body of an arrow function. -/
structure ArrowHead where
  asynchronous : Bool
  generics : List Node
  parameters : List Parameter
  result : Option Node

/-- The head of an arrow function with parentheses, and its arrow. -/
def arrowHead : Parser ArrowHead := do
  let asynchronous ← eatWord "async"
  within (fun surroundings =>
      { surroundings with inAsync := surroundings.inAsync || asynchronous }) do
    let generics ← typeParameters
    let (_, parameters) ← within ({ · with allowIn := true }) (parameterList .arrow)
    let result ← resultAfterColon
    expectArrow
    return ⟨asynchronous, generics, parameters, result⟩

/-- How sure it is that an arrow function with parentheses is ahead. -/
inductive Likelihood where
  | certain
  | possible
  | excluded
deriving DecidableEq

/-- Judge by the second token after an opening parenthesis. -/
def likelihoodInParentheses : Parser Likelihood := do
  let second ← token
  if second.isPunctuator ")" then
    advance
    if ← atAny ["=>", openBrace] then return .certain
    else if (← at? ":") && (← typed) then return .possible
    else return .excluded
  else if second.isPunctuator "[" || second.isPunctuator openBrace then return .possible
  else if second.isPunctuator "..." then
    advance
    if ← atIdentifier then return .certain else return .possible
  else if second.kind == .word then
    advance
    let third ← token
    if !second.isIdentifier && !(second.isKeyword "this") then return .excluded
    else if third.isPunctuator ":" then return .certain
    else if third.isPunctuator "?" then
      advance
      if ← atAny [":", ",", "=", ")"] then return .certain else return .excluded
    else if third.isPunctuator "," || third.isPunctuator "=" || third.isPunctuator ")" then
      return .possible
    else return .excluded
  else return .excluded

/-- Judge by what follows an opening angle. Where markup is read, the angle must be marked as the
beginning of type parameters by a comma, a default or a constraint. -/
def likelihoodInAngles : Parser Likelihood := do
  if !(← atIdentifier) && !(← atWord "const") then return .excluded
  else if (← dialect).jsx then
    advance
    if ← atAny [",", "="] then return .certain
    else if ← atWord "extends" then
      advance
      if ← atAny ["=", ">", "/"] then return .excluded else return .possible
    else return .excluded
  else return .possible

/-- Is an arrow function with parentheses ahead? -/
def arrowLikelihood : Parser Likelihood := foreseeOr .excluded do
  if ← atWord "async" then
    advance
    if ← onNewLine then return .excluded
  if ← eat "(" then likelihoodInParentheses
  else if (← at? "<") && (← typed) then
    advance
    likelihoodInAngles
  else return .excluded

/-- The arrow function with the given head. -/
def arrowAfter (head : ArrowHead) (mayHaveResultType : Bool) : Parser Node := do
  let body ← arrowBody head.asynchronous mayHaveResultType
  return arrowNode head.generics head.parameters head.result body

/-- An arrow function with parentheses, if one is ahead. Where a colon may follow, what looks like
a return type belongs to the arrow function only if a colon comes after the body. -/
def arrowInParentheses? (mayHaveResultType : Bool) : Parser (Option Node) := do
  match ← arrowLikelihood with
  | .excluded => return none
  | .certain => return some (← arrowAfter (← arrowHead) mayHaveResultType)
  | .possible =>
    unlessNone do
      match ← attempt arrowHead with
      | none => return none
      | some head =>
        let arrow ← arrowAfter head mayHaveResultType
        if !mayHaveResultType && head.result.isSome && !(← at? ":") then return none
        else return some arrow

/-- `async a => b`, if it is ahead. -/
def asyncArrow? (mayHaveResultType : Bool) : Parser (Option Node) := do
  let isAhead ← do
    if ← atWord "async" then next do
      if !(← atIdentifier) || (← onNewLine) then pure false
      else next (do return (← at? "=>"))
    else pure false
  if !isAhead then return none
  advance
  let binder ← within ({ · with inAsync := true }) identifier
  expectArrow
  let body ← arrowBody true mayHaveResultType
  return some (arrowNode [] [.mk [] (.name binder) none none] none body)

end IconSize.Syntax.Grammar
