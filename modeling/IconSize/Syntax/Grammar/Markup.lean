import IconSize.Syntax.Grammar.TypeSyntax

/-!
Markup: elements and fragments, their attributes and what stands between their tags.
-/

namespace IconSize.Syntax.Grammar
open IconSize.Syntax.Parser Lexer

variable [Grammar]

/-- Does a plain tag name refer to a component? Names of built-in elements begin with a small
letter or hold a hyphen. -/
def isComponentName (name : String) : Bool :=
  match name.toList with
  | [] => false
  | first :: rest =>
    (first.isUpper || first == '_' || first == '$' || first.toNat ≥ 0x80) && !rest.contains '-'

/-- The name in a tag, and its spelling without gaps and escapes. -/
def tagName : Parser (TagName × String) := do
  let plain := !(← token).escaped
  let first ← markupName
  if ← eat ":" then
    let second ← markupName
    return (.intrinsic, first.name ++ ":" ++ second.name)
  else if ← at? "." then
    failIf (first.name.toList.contains '-') .unexpected
    let spelling ← loop first.name fun spelling => do
      if ← eat "." then
        let next ← markupName
        failIf (next.name.toList.contains '-') .unexpected
        return .inl (spelling ++ "." ++ next.name)
      else return .inr spelling
    if plain && first.name == "this" then return (.intrinsic, spelling)
    else return (.member first, spelling)
  else if isComponentName first.name then return (.reference first, first.name)
  else return (.intrinsic, first.name)

/-- An expression in braces, of which the closing one is followed by what the reader finds. -/
def bracedExpression (reader : Reader) : Parser Node := do
  expect openBrace
  let value ← assignmentWithIn
  expectBy reader closeBrace
  return value

/-- The value of an attribute, after the equals sign. -/
def attributeContent : Parser Node := do
  if ← atKind .attributeString then
    advance
    return .group .literal []
  else if ← at? openBrace then bracedExpression .next
  else parse (.element false)

/-- An attribute, or an object whose members become attributes. -/
def markupAttribute : Parser Node := do
  if ← eat openBrace then
    expect "..."
    let value ← assignmentWithIn
    expect closeBrace
    return .group .tagAttribute [value]
  else
    let _ ← markupName
    if ← eat ":" then
      let _ ← markupName
    if ← at? "=" then
      advanceBy .attributeValue
      return .group .tagAttribute [← attributeContent]
    else return .group .tagAttribute []

/-- What stands between tags: text, elements, and expressions in braces. -/
def markupChildren : Parser (List Node) :=
  many (do
    if ← at? "<" then return !(← next (at? "/")) else return true) do
    if ← atKind .markupText then
      advanceBy .markupChild
      return .group .text []
    else if ← at? "<" then parse (.element true)
    else
      expect openBrace
      if ← at? closeBrace then
        advanceBy .markupChild
        return .group .empty []
      let spread ← eat "..."
      let value ← assignmentWithIn
      expectBy .markupChild closeBrace
      if spread then return .group .spread [value] else return value

/-- The last angle of an element. -/
def lastAngle (nested : Bool) : Parser Unit :=
  expectBy (if nested then .markupChild else .next) ">"

/-- An element or a fragment. The name in the closing tag is the one in the opening tag. -/
def element (nested : Bool) : Parser Node := do
  expect "<"
  if ← at? ">" then
    advanceBy .markupChild
    let children ← markupChildren
    expect "<"
    expect "/"
    lastAngle nested
    return .group .fragment children
  else
    let (name, spelling) ← tagName
    let arguments ← if (← typed) && (← atAngle) then typeArguments else pure []
    let attributesAt := (← cursor).lastStop
    let attributes ← many (do return !(← atAny [">", "/"])) markupAttribute
    if ← eat "/" then
      lastAngle nested
      return .element name arguments attributesAt attributes [] none
    else
      expectBy .markupChild ">"
      let children ← markupChildren
      expect "<"
      expect "/"
      let (closing, closingSpelling) ← tagName
      failIf (spelling != closingSpelling) .mismatchedTag
      lastAngle nested
      return .element name arguments attributesAt attributes children (some closing)

end IconSize.Syntax.Grammar
