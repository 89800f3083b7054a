import IconSize.Syntax.Grammar.Function

/-!
Classes and interfaces: heritage and members.
-/

namespace IconSize.Syntax.Grammar
open IconSize.Syntax.Parser Lexer

variable [Grammar]

/-- An expression with type arguments, as the heritage of a class or interface names it. -/
def heritage : Parser Node := do
  let base ← parse .leftHandSide
  let arguments ← if ← typed then typeArgumentsOnLine else pure []
  return .group .heritage (base :: arguments)

/-- A named type in the list of what a class implements: its name, which refers to a value as much
as to a type, and its type arguments. -/
def implemented : Parser Node := do
  let binder ← name
  let _ ← dottedNames
  return .group .heritage (.reference binder :: (← typeArgumentsOnLine))

/-- What a class extends and implements, in this order. -/
def classHeritage : Parser (List Node) := do
  let base ← if ← eatWord "extends" then
      let base ← heritage
      failIf (← at? ",") .unexpected
      pure [base]
    else pure []
  let interfaces ←
    if ← (do if ← typed then eatWord "implements" else return false) then
      commaSeparated implemented
    else pure []
  return base ++ interfaces

def memberModifiers : Parser (List String) := do
  if ← typed then
    return ["public", "private", "protected", "static", "readonly", "abstract", "override",
      "declare", "accessor", "async"]
  else return ["static", "accessor", "async"]

def staticBlock : Parser Node := do
  expectWord "static"
  within ({ · with
      inFunction := false, inAsync := true, inGenerator := false, inDecorator := false,
      allowIn := true }) do
    return .staticBlock (← statementsInBraces)

/-- A field from what follows its key: type and initializer. -/
def field (decorators : List Node) (key : Key) : Parser Node := do
  if ← typed then
    if !(← onNewLine) then
      let _ ← eat "!"
  let ascription ← typeAfterColon
  let value ← within ({ · with
      inAsync := false, inGenerator := false, allowIn := true, inDecorator := false }) do
    if ← eat "=" then return some (← assignment) else return none
  endStatement
  return .group .classMember (decorators ++ key.node :: (ascription.toList ++ value.toList))

def classMember : Parser Node := do
  let found ← decorators
  if ← (do if ← atWord "static" then next (at? openBrace) else return false) then
    failIf (!found.isEmpty) .misplacedDecorator
    staticBlock
  else
    let words ← modifiers (← memberModifiers)
    let ambient := words.contains "declare"
    within (fun surroundings =>
        { surroundings with ambient := surroundings.ambient || ambient }) do
      let member (key : Key) (function : Node) : Node :=
        .group .classMember (found ++ [key.node, function])
      if ← eatAccessor "get" then
        let key ← memberKey
        return member key (← accessor true .method)
      if ← eatAccessor "set" then
        let key ← memberKey
        return member key (← accessor false .method)
      if (← typed) && (← indexSignatureAhead) then indexSignature
      else
        let generator ← eat "*"
        let key ← memberKey
        let _ ← whenTyped false (eat "?")
        if generator || (← at? "(") || (← at? "<") then
          let isConstructor := key.text == "constructor" && !words.contains "static"
          let place := if isConstructor then .constructor else .method
          return member key (← method ⟨words.contains "async", generator⟩ place)
        else
          failIf (words.contains "async") .misplacedModifier
          field found key

def classMembers : Parser (List Node) := do
  expect openBrace
  let members ← within ({ · with inDecorator := false, allowConditional := true })
    (loop [] fun members => do
      if ← eat ";" then return .inl members
      else if ← at? closeBrace then return .inr members.reverse
      else return .inl ((← classMember) :: members))
  expect closeBrace
  return members

/-- A class from its keyword on. -/
def classSyntax (role : ClassRole) (decorators : List Node) : Parser Node := do
  expectWord "class"
  let binder ←
    if (← atIdentifier) && !(← atWord "implements") then some <$> identifier else pure none
  let generics ← typeParameters
  let bases ← classHeritage
  let members ← classMembers
  return .classNode role decorators binder (generics ++ bases ++ members)

/-- An interface from its keyword on. -/
def interfaceSyntax : Parser Node := do
  expectWord "interface"
  let binder ← identifier
  let generics ← typeParameters
  let bases ← if ← eatWord "extends" then commaSeparated heritage else pure []
  let members ← typeMembers
  return .interface binder (generics ++ bases ++ members)

end IconSize.Syntax.Grammar
