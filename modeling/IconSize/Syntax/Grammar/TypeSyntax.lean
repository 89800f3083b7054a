import IconSize.Syntax.Grammar.Parameter

/-!
Types: what follows a colon, `as`, or the name of an alias. Parameters of function types bind
nothing; the operands of a conditional type before its question mark stand in surroundings where
`extends` begins no conditional type of its own.
-/

namespace IconSize.Syntax.Grammar
open IconSize.Syntax.Parser Lexer

variable [Grammar]

/-! ## Lists in angles -/

/-- Take an opening angle, also where two are written together. -/
def expectAngle : Parser Unit := do
  if ← at? "<<" then reread .openingAngle
  expect "<"

/-- Is a list of type arguments ahead? -/
def atAngle : Parser Bool := atAny ["<", "<<"]

def typeArguments : Parser (List Node) := do
  expectAngle
  let arguments ← within ({ · with allowConditional := true }) (commaList ">" (parse .type))
  failIf arguments.isEmpty .emptyList
  expect ">"
  return arguments

/-- Type arguments, if they are ahead on the same line. -/
def typeArgumentsOnLine : Parser (List Node) := do
  if (← atAngle) && !(← onNewLine) then typeArguments else return []

/-- A type parameter with its constraint and default. -/
def typeParameter : Parser Node := do
  let _ ← many (do
    if ← atAnyWord ["const", "in", "out"] then next atIdentifier else return false) advance
  let binder ← identifier
  let bound ← if ← eatWord "extends" then some <$> parse .type else pure none
  let default ← if ← eat "=" then some <$> parse .type else pure none
  return .typeParameter binder (bound.toList ++ default.toList)

/-- Type parameters in angles, if they are ahead. -/
def typeParameters : Parser (List Node) := do
  if (← typed) && (← at? "<") then
    expect "<"
    let parameters ← commaList ">" typeParameter
    failIf parameters.isEmpty .emptyList
    expect ">"
    return parameters
  else return []

/-! ## Results of functions -/

/-- The type of a result: a type, or a statement about a parameter, as in `x is T`. -/
def resultType : Parser Node := do
  let isPredicate ← next do
    return (← atWord "is") && !(← onNewLine)
  let isPredicate := isPredicate && (← atIdentifier)
  if isPredicate then
    advance
    advance
    return .group .predicate [← parse .type]
  else parse .type

/-- The type of the result after a colon, if there is one. -/
def resultAfterColon : Parser (Option Node) := do
  if ← typed then
    if ← eat ":" then return some (← resultType)
  return none

/-! ## Function types -/

/-- Do the parentheses ahead hold parameters? -/
def parametersAhead : Parser Bool := foresee do
  expect "("
  if ← at? ")" then return true
  if ← at? "..." then return true
  let _ ← many (atModifier parameterModifiers) advance
  if (← atIdentifier) || (← atWord "this") then advance
  else if (← at? "[") || (← at? openBrace) then
    let _ ← parse .pattern
  else fail .unexpected
  if ← atAny [":", ",", "?", "="] then return true
  expect ")"
  at? "=>"

def functionTypeAhead : Parser Bool := do
  if ← at? "<" then return true
  if ← at? "(" then parametersAhead
  else if ← atWord "new" then return true
  else if ← atWord "abstract" then next (atWord "new")
  else return false

def functionType : Parser Node := do
  let _ ← eatWord "abstract"
  let _ ← eatWord "new"
  let generics ← typeParameters
  let (receiver, parameters) ← parameterList .type
  expect "=>"
  return .signature (generics ++ receiver.toList) parameters (some (← resultType))

/-! ## Members of object types -/

/-- The end of a member of an object type. -/
def endMember : Parser Unit := do
  if ← eat "," then return () else endStatement

/-- A call: type parameters, parameters and result, after what stands before them. -/
def callSignature (head : List Node) : Parser Node := do
  let generics ← typeParameters
  let (receiver, parameters) ← parameterList .type
  return .signature (head ++ generics ++ receiver.toList) parameters (← resultAfterColon)

/-- Is an index signature ahead, rather than a key in brackets? -/
def indexSignatureAhead : Parser Bool := do
  if ← at? "[" then next do
    if ← atAny ["...", "]"] then return true
    let _ ← many (atModifier parameterModifiers) advance
    let _ ← identifier
    if ← atAny [":", ","] then return true
    expect "?"
    atAny [":", ",", "]"]
  else return false

/-- An index signature: the type of the index and the type of the member. -/
def indexSignature : Parser Node := do
  expect "["
  let _ ← identifier
  expect ":"
  let index ← parse .type
  expect "]"
  expect ":"
  let member ← parse .type
  endMember
  return .group .indexSignature [index, member]

def typeMember : Parser Node := do
  if (← at? "(") || (← at? "<") then
    let signature ← callSignature []
    endMember
    return signature
  if ← (do if ← atWord "new" then next (atAny ["(", "<"]) else return false) then
    advance
    let signature ← callSignature []
    endMember
    return signature
  let _ ← many (atModifier ["readonly"]) advance
  if (← eatAccessor "get") || (← eatAccessor "set") then
    let key ← propertyKey
    let signature ← callSignature [key.node]
    endMember
    return signature
  if ← indexSignatureAhead then indexSignature
  else
    let key ← propertyKey
    let _ ← eat "?"
    if (← at? "(") || (← at? "<") then
      let signature ← callSignature [key.node]
      endMember
      return signature
    else
      let ascription ← typeAfterColon
      endMember
      return .group .typeSignature (key.node :: ascription.toList)

def typeMembers : Parser (List Node) := do
  expect openBrace
  let members ← within ({ · with allowConditional := true })
    (many (do return !(← at? closeBrace)) typeMember)
  expect closeBrace
  return members

def mappedTypeAhead : Parser Bool := next do
  if ← atAny ["+", "-"] then next (atWord "readonly")
  else
    let _ ← eatWord "readonly"
    expect "["
    let _ ← identifier
    atWord "in"

/-- A mapped type: its key with the type that it runs through, the type that renames the key, and
the type of the members. -/
def mappedType : Parser Node := do
  expect openBrace
  if ← atAny ["+", "-"] then
    advance
    expectWord "readonly"
  else
    let _ ← eatWord "readonly"
  expect "["
  let key ← identifier
  expectWord "in"
  let range ← parse .type
  let renamed ← if ← eatWord "as" then some <$> parse .type else pure none
  expect "]"
  if ← atAny ["+", "-"] then
    advance
    expect "?"
  else
    let _ ← eat "?"
  let member ← typeAfterColon
  let _ ← eat ";"
  expect closeBrace
  return .block .mappedType
    (.typeParameter key [range] :: (renamed.toList ++ member.toList))

/-! ## Single types -/

/-- The words that stand for a type of their own unless a dot follows. -/
def keywordTypes : List String :=
  ["any", "unknown", "string", "number", "bigint", "symbol", "boolean", "undefined", "never",
   "object"]

/-- The names after the dots of a dotted name. -/
def dottedNames : Parser Bool :=
  loop false fun dotted => do
    if ← eat "." then
      if ← atKind .privateName then advance
      else
        let _ ← name
      return .inl true
    else return .inr dotted

/-- A type named by a word or a dotted name, with its type arguments. Any word names a type here,
as `const` does in `x as const`. -/
def namedType : Parser Node := do
  let binder ← name
  let dotted ← dottedNames
  let arguments ← typeArgumentsOnLine
  if dotted then return .group .qualifiedName (.reference binder :: arguments)
  else return .typeReference binder arguments

/-- `import('m').A<T>`, after its first word. -/
def importedType : Parser Node := do
  expectWord "import"
  expect "("
  if ← atKind .string then advance else fail .unexpected
  let options ← do
    if (← eat ",") && !(← at? ")") then
      failIf (!(← at? openBrace)) .unexpected
      let options ← assignmentWithIn
      let _ ← eat ","
      pure [options]
    else pure []
  expect ")"
  let _ ← dottedNames
  return .group .importType (options ++ (← typeArgumentsOnLine))

/-- `typeof a.b` -/
def typeQuery : Parser Node := do
  expectWord "typeof"
  if ← atWord "import" then importedType
  else if ← atWord "this" then
    advance
    let _ ← dottedNames
    return .group .typeQuery (← typeArgumentsOnLine)
  else
    let start ← name
    let _ ← dottedNames
    return .group .typeQuery (.reference start :: (← typeArgumentsOnLine))

def labelAhead : Parser Bool := foresee do
  let _ ← eat "..."
  let _ ← name
  if ← at? ":" then return true
  expect "?"
  at? ":"

def tupleElement : Parser Node := do
  if ← labelAhead then
    let _ ← eat "..."
    advance
    let _ ← eat "?"
    expect ":"
    return .group .tupleElement [← parse .type]
  else
    let _ ← eat "..."
    return .group .tupleElement [← parse .type]

/-- The types and text parts of a template type after its head. -/
def templateTypes : Parser (List Node) :=
  loop [] fun types => do
    let type ← parse .type
    if !(← at? closeBrace) then fail .unexpected
    reread .templateContinuation
    let part ← token
    if part.kind == .templateMiddle then
      advance
      return .inl (type :: types)
    else if part.kind == .templateTail then
      advance
      return .inr (type :: types).reverse
    else fail .unexpected

/-- A type that is written out: a literal or a keyword. -/
def keywordType : Node := .group .keywordType []

def singleType : Parser Node := do
  let token ← token
  match token.kind with
  | .string | .number | .bigint | .templateWhole =>
    advance
    return keywordType
  | .templateHead =>
    advance
    return .group .templateType (← templateTypes)
  | .punctuator =>
    match token.text with
    | "-" =>
      advance
      if (← atKind .number) || (← atKind .bigint) then
        advance
        return keywordType
      else fail .unexpected
    | "[" =>
      advance
      let elements ← within ({ · with allowConditional := true }) (commaList "]" tupleElement)
      expect "]"
      return .group .tuple elements
    | "(" =>
      advance
      let inner ← within ({ · with allowConditional := true }) (parse .type)
      expect ")"
      return .parenthesized inner
    | "?" | "!" =>
      advance
      return .group .typeOperator [← parse .operandType]
    | text =>
      if text == openBrace then
        if ← mappedTypeAhead then
          within ({ · with allowConditional := true }) mappedType
        else return .group .typeLiteral (← typeMembers)
      else fail .unexpected
  | .word =>
    if token.escaped then namedType
    else match token.text with
    | "true" | "false" | "null" | "void" =>
      advance
      return keywordType
    | "this" =>
      advance
      if (← atWord "is") && !(← onNewLine) then
        advance
        return .group .predicate [← parse .type]
      else return keywordType
    | "typeof" => typeQuery
    | "import" => importedType
    | "asserts" =>
      let isPredicate ← next do
        return ((← atIdentifier) || (← atWord "this")) && !(← onNewLine)
      if isPredicate then
        advance
        advance
        if ← eatWord "is" then return .group .predicate [← parse .type]
        else return .group .predicate []
      else namedType
    | text =>
      if keywordTypes.contains text && !(← next (at? ".")) then
        advance
        return keywordType
      else namedType
  | _ => fail .unexpected

def typeAhead : Parser Bool := do
  let token ← token
  match token.kind with
  | .string | .number | .bigint | .templateWhole | .templateHead => return true
  | .punctuator =>
    return [openBrace, "[", "<", "|", "&", "*", "?", "!", "...", "(", "-"].contains token.text
  | .word =>
    return token.isIdentifier
      || ["this", "typeof", "new", "true", "false", "null", "void", "import",
          "function"].contains token.text
  | _ => return false

/-- A type with what follows it: brackets for an array or an indexed type, and the marks of
nullable types. -/
def suffixedType : Parser Node := do
  let first ← singleType
  loop first fun type => do
    if ← onNewLine then return .inr type
    else if ← at? "!" then
      advance
      return .inl (.group .typeOperator [type])
    else if ← at? "?" then
      if ← next typeAhead then return .inr type
      advance
      return .inl (.group .typeOperator [type])
    else if ← eat "[" then
      if ← eat "]" then return .inl (.group .arrayType [type])
      let index ← within ({ · with allowConditional := true }) (parse .type)
      expect "]"
      return .inl (.group .indexedAccess [type, index])
    else return .inr type

/-- `infer A extends B`. The constraint belongs to it only if no question mark follows, or none can
begin a conditional type here. -/
def inferredType : Parser Node := do
  expectWord "infer"
  let binder ← identifier
  let conditional := (← surroundings).allowConditional
  let bound ← attempt do
    expectWord "extends"
    let bound ← within ({ · with allowConditional := false }) (parse .type)
    failIf (conditional && (← at? "?")) .unexpected
    return bound
  return .group .inferType [.typeParameter binder bound.toList]

/-- A type without operators between types. -/
def operandType : Parser Node := do
  if ← atAnyWord ["keyof", "unique", "readonly"] then
    advance
    return .group .typeOperator [← parse .operandType]
  else if ← atWord "infer" then inferredType
  else within ({ · with allowConditional := true }) suffixedType

/-- Types joined by an operator, which may also stand before the first one. -/
def joinedType (operator : String) (form : Form) (operand : Parser Node) : Parser Node := do
  let leading ← eat operator
  let first ← operand
  if !leading && !(← at? operator) then return first
  let rest ← many (at? operator) do
    advance
    operand
  return .group form (first :: rest)

def typeSyntax : Parser Node := do
  if ← functionTypeAhead then functionType
  else
    let checked ← joinedType "|" .union (joinedType "&" .intersection operandType)
    if (← surroundings).allowConditional && (← atWord "extends") && !(← onNewLine) then
      advance
      let bound ← within ({ · with allowConditional := false }) (parse .type)
      expect "?"
      let whenTrue ← parse .type
      expect ":"
      let whenFalse ← parse .type
      return .group .conditionalType
        [checked, .block .conditionalBranch [bound, whenTrue], whenFalse]
    else return checked

end IconSize.Syntax.Grammar
