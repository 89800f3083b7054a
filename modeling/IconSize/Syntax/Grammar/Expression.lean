import IconSize.Syntax.Grammar.ClassSyntax
import IconSize.Syntax.Grammar.Markup
import IconSize.Syntax.Target

/-!
Expressions, from single values over member and call chains to operators, conditional expressions,
assignments and arrow functions.
-/

namespace IconSize.Syntax.Grammar
open IconSize.Syntax.Parser Lexer

variable [Grammar]

/-! ## Targets -/

/-- Use an expression as the target of an assignment. Short names with a value that become part of
the target are legal there. -/
def target (convert : Node → Option Node) (node : Node) : Parser Node :=
  match convert node with
  | some target => do
    let closed := target.shortNames
    changeDefaults (·.filter fun offset => !closed.contains offset)
    return target
  | none => fail .invalidTarget

/-- A short name with a value stands at this offset. -/
def openDefault (offset : Nat) : Parser Unit := changeDefaults (offset :: ·)

/-! ## Literals -/

/-- A value that is written out. -/
def literal : Node := .group .literal []

/-- The substitutions of a template after its head. -/
def substitutions (tagged : Bool) : Parser (List Node) :=
  loop [] fun values => do
    let value ← expressionWithIn
    if !(← at? closeBrace) then fail .unexpected
    reread .templateContinuation
    let part ← token
    failIf (part.malformed && !tagged) .invalidEscape
    if part.kind == .templateMiddle then
      advance
      return .inl (value :: values)
    else if part.kind == .templateTail then
      advance
      return .inr (value :: values).reverse
    else fail .unexpected

def atTemplate : Parser Bool := sees fun token =>
  token.kind == .templateWhole || token.kind == .templateHead

/-- The substitutions of the template ahead. In a template with a tag any escape is legal. -/
def template (tagged : Bool) : Parser (List Node) := do
  let part ← token
  failIf (part.malformed && !tagged) .invalidEscape
  advance
  if part.kind == .templateWhole then return [] else substitutions tagged

/-- An element of an array literal or an argument of a call. -/
def spreadOrValue : Parser Node := do
  if ← eat "..." then return .group .spread [← assignmentWithIn] else assignmentWithIn

def arrayLiteral : Parser Node := do
  expect "["
  let (elements, comma) ← commaListFlagged "]" do
    if ← at? "," then return .group .hole [] else spreadOrValue
  expect "]"
  return .group (.array comma) elements

def objectMember : Parser Node := do
  if ← eat "..." then return .group .spread [← assignmentWithIn]
  let asynchronous ← atModifier ["async"]
  if asynchronous then advance
  else
    if ← eatAccessor "get" then
      let key ← propertyKey
      return .group .method [key.node, ← accessor true .objectMethod]
    if ← eatAccessor "set" then
      let key ← propertyKey
      return .group .method [key.node, ← accessor false .objectMethod]
  let generator ← eat "*"
  let key ← propertyKey
  if asynchronous || generator || (← at? "(") || (← at? "<") then
    return .group .method [key.node, ← method ⟨asynchronous, generator⟩ .objectMethod]
  if ← eat ":" then return .property key.node (← assignmentWithIn)
  match key.word with
  | none => fail .unexpected
  | some word =>
    let binder ← identifierOf word
    if ← eat "=" then
      openDefault binder.span.start
      return .shorthandDefault binder (← assignmentWithIn)
    else return .shorthand binder

def objectLiteral : Parser Node := do
  expect openBrace
  let (members, comma) ← commaListFlagged closeBrace objectMember
  expect closeBrace
  return .group (.object comma) members

/-! ## Type arguments in expressions -/

/-- The operators between two operands, by how strongly they bind. -/
def operatorLevels : List (List String × Nat) :=
  [(["??"], 1), (["||"], 2), (["&&"], 3), (["|"], 4), (["^"], 5), (["&"], 6),
   (["==", "!=", "===", "!=="], 7), (["<", ">", "<=", ">="], 8), (["<<", ">>", ">>>"], 9),
   (["+", "-"], 10), (["*", "/", "%"], 11), (["**"], 12)]

/-- The token ahead, with all that begins with `>` read as one. -/
def operatorToken : Parser Token := look fun _ cursor =>
  if cursor.token.isPunctuator ">" then
    .ok (closingAngle cursor.token.onNewLine cursor.here).token
  else .ok cursor.token

/-- How strongly the operator ahead binds, if an operator between two operands is ahead. -/
def operatorLevel? : Parser (Option Nat) := do
  let operator ← operatorToken
  let surroundings ← surroundings
  if operator.kind == .punctuator then
    return (operatorLevels.find? (·.1.contains operator.text)).map (·.2)
  else if operator.isKeyword "instanceof" then return some 8
  else if operator.isKeyword "in" && surroundings.allowIn then return some 8
  else if (operator.isKeyword "as" || operator.isKeyword "satisfies")
      && surroundings.dialect.typescript && !operator.onNewLine then return some 8
  else return none

def expressionAhead : Parser Bool := do
  let token ← token
  match token.kind with
  | .word =>
    return token.isIdentifier
      || ["this", "super", "null", "true", "false", "function", "class", "new", "delete", "typeof",
          "void", "import"].contains token.text
  | .punctuator =>
    return ["(", "[", openBrace, "/", "/=", "+", "-", "~", "!", "++", "--", "<", "@"].contains
      token.text
  | .endOfInput | .invalid | .markupText | .templateMiddle | .templateTail => return false
  | _ => return true

/-- Type arguments after an expression, if what follows them shows that the angles are no
operators. -/
def typeArgumentsInExpression? : Parser (Option (List Node)) := attempt do
  expectAngle
  let arguments ← within ({ · with allowConditional := true }) (commaList ">" (parse .type))
  failIf arguments.isEmpty .emptyList
  let closing ← operatorToken
  failIf (closing.text == ">=") .unexpected
  expect ">"
  if (← at? "(") || (← atTemplate) then return arguments
  failIf (← atAny ["<", ">", "+", "-"]) .unexpected
  if (← onNewLine) || (← operatorLevel?).isSome || !(← expressionAhead) then return arguments
  else fail .unexpected

/-! ## Members and calls -/

def callArguments : Parser (List Node) := do
  expect "("
  let arguments ← commaList ")" spreadOrValue
  expect ")"
  return arguments

def bracketed : Parser Node := do
  expect "["
  let index ← expressionWithIn
  expect "]"
  return index

/-- Take the name of a member. -/
def memberName : Parser Unit := do
  if ← atKind .privateName then advance
  else
    let _ ← name

/-- An expression as the head of a call: with type arguments it is taken apart. -/
def callHead : Node → List Node
  | .group .instantiation parts => parts
  | node => [node]

/-- The members and calls that follow an expression. After `new` calls do not belong to the chain,
and it cannot be optional. -/
def chain (calls : Bool) (start : Node) : Parser Node := do
  let (node, optional) ← loop (start, false) fun (node, optional) => do
    let token ← token
    if token.kind == .templateWhole || token.kind == .templateHead then
      failIf optional .optionalChain
      let values ← template true
      return .inl (.group .taggedTemplate (callHead node ++ values), optional)
    else if token.kind != .punctuator then return .inr (node, optional)
    else match token.text with
    | "." =>
      advance
      memberName
      return .inl (.group .member [node], optional)
    | "?." =>
      failIf (!calls) .optionalChain
      advance
      if ← at? "(" then
        return .inl (.group .call (callHead node ++ (← callArguments)), true)
      else if ← at? "[" then return .inl (.group .index [node, ← bracketed], true)
      else if (← typed) && (← atAngle) then
        let types ← typeArguments
        return .inl (.group .call (node :: types ++ (← callArguments)), true)
      else
        memberName
        return .inl (.group .member [node], true)
    | "[" =>
      if (← surroundings).inDecorator then return .inr (node, optional)
      return .inl (.group .index [node, ← bracketed], optional)
    | "!" =>
      if (← typed) && !token.onNewLine then
        advance
        return .inl (.group .nonNull [node], optional)
      else return .inr (node, optional)
    | "<" | "<<" =>
      if ← typed then
        match ← typeArgumentsInExpression? with
        | some types => return .inl (.group .instantiation (node :: types), optional)
        | none => return .inr (node, optional)
      else return .inr (node, optional)
    | "(" =>
      if calls then
        return .inl (.group .call (callHead node ++ (← callArguments)), optional)
      else return .inr (node, optional)
    | _ => return .inr (node, optional)
  if optional then return .group .optionalChain [node] else return node

/-- `import.meta`, or the import of a module when it is needed. -/
def importExpression : Parser Node := do
  expectWord "import"
  let isMeta ← do
    if ← eat "." then
      if ← eatWord "meta" then pure true
      else
        let phase := (← token).text
        failIf (phase != "source" && phase != "defer") .unexpected
        advance
        pure false
    else pure false
  if isMeta then return .group .metaProperty []
  expect "("
  let source ← assignmentWithIn
  let options ← do
    if (← eat ",") && !(← at? ")") then
      let options ← assignmentWithIn
      let _ ← eat ","
      pure [options]
    else pure []
  expect ")"
  return .group .importCall (source :: options)

def parenthesized : Parser Node := do
  expect "("
  let inner ← expressionWithIn
  expect ")"
  return .parenthesized inner

/-- A single value, without the operators around it. -/
def primary : Parser Node := do
  let token ← token
  match token.kind with
  | .number | .bigint | .string =>
    advance
    return literal
  | .templateWhole | .templateHead => return .group .template (← template false)
  | .punctuator =>
    match token.text with
    | "(" => parenthesized
    | "[" => arrayLiteral
    | "/" | "/=" =>
      reread .regex
      if ← atKind .regex then
        advance
        return literal
      else fail .unexpected
    | "@" => classSyntax .expression (← decorators)
    | text => if text == openBrace then objectLiteral else fail .unexpected
  | .word =>
    if token.escaped then return .reference (← identifier)
    else match token.text with
    | "this" =>
      advance
      return .group .this []
    | "null" | "true" | "false" =>
      advance
      return literal
    | "new" => parse .construction
    | "super" =>
      advance
      failIf (!(← atAny ["(", ".", "["])) .unexpected
      return .group .super []
    | "import" => importExpression
    | "class" => classSyntax .expression []
    | _ =>
      if ← functionAhead then functionSyntax .expression false
      else return .reference (← identifier)
  | _ => fail .unexpected

/-- `new` with the class to construct and possibly arguments. -/
def construction : Parser Node := do
  expectWord "new"
  if ← eat "." then
    expectWord "target"
    return .group .metaProperty []
  failIf ((← atWord "import") && !(← next (at? "."))) .unexpected
  let callee ← chain false (← primary)
  let arguments ← if ← at? "(" then callArguments else pure []
  return .group .construct (callHead callee ++ arguments)

/-- What may stand on the left of an assignment. -/
def leftHandSide : Parser Node := do chain true (← primary)

/-! ## Operators -/

/-- Is a word, number or string ahead on the same line? Then a word before it was meant as an
operator. -/
def operandOnLine : Parser Bool := sees fun token =>
  !token.onNewLine && (token.kind == .word || token.kind == .number || token.kind == .bigint
    || token.kind == .string)

/-- An operand with the operators before and after it. -/
def unary : Parser Node := do
  let token ← token
  if token.kind == .punctuator && ["+", "-", "~", "!"].contains token.text then
    advance
    return .group .unary [← parse .unary]
  else if token.isPunctuator "++" || token.isPunctuator "--" then
    advance
    return .group .update [← target Node.toSimpleTarget? (← parse .unary)]
  else if token.isPunctuator "<" then
    let dialect ← dialect
    if dialect.jsx then parse (.element false)
    else if dialect.typescript then
      advance
      let type ← within ({ · with allowConditional := true }) (parse .type)
      expect ">"
      return .group .cast [type, ← parse .unary]
    else fail .unexpected
  else if token.isKeyword "delete" || token.isKeyword "void" || token.isKeyword "typeof" then
    advance
    return .group .unary [← parse .unary]
  else if token.isKeyword "await" && ((← surroundings).inAsync || (← next operandOnLine)) then
    failIf (!(← surroundings).inAsync) .reservedName
    advance
    return .group .await [← parse .unary]
  else
    let node ← leftHandSide
    if (← atAny ["++", "--"]) && !(← onNewLine) then
      let operand ← target Node.toSimpleTarget? node
      advance
      return .group .update [operand]
    else return node

/-- Does this form join two conditions? -/
def isLogical : Node → Bool
  | .group .logical _ => true
  | _ => false

/-- May this expression not stand on the left of `**`? -/
def isPrefixed : Node → Bool
  | .group .unary _ => true
  | .group .await _ => true
  | _ => false

/-- The expression made by an operator of a level. -/
def joined (level : Nat) (left right : Node) : Parser Node := do
  if level == 1 then
    failIf (isLogical left || isLogical right) .mixedCoalesce
    return .group .coalesce [left, right]
  else if level == 2 || level == 3 then return .group .logical [left, right]
  else
    failIf (level == 12 && isPrefixed left) .unaryPower
    return .group .binary [left, right]

/-- An expression of operators that bind more strongly than the level. Only `**` takes an operator
of its own level on its right. -/
def binary (level : Nat) : Parser Node := do
  let first ← do
    if (← atKind .privateName) && (← surroundings).allowIn then
      advance
      failIf (!(← atWord "in")) .unexpected
      advance
      let right ← parse (.binary 8)
      pure (.group .privateIn [right])
    else unary
  loop first fun left => do
    match ← operatorLevel? with
    | none => return .inr left
    | some found =>
      if found < level || (found == level && found != 12) then return .inr left
      if (← atWord "as") || (← atWord "satisfies") then
        let form : Form := if ← atWord "as" then .asType else .satisfies
        advance
        let type ← within ({ · with allowConditional := true }) (parse .type)
        return .inl (.group form [left, type])
      if ← at? ">" then reread .closingAngle
      advance
      return .inl (← joined found left (← parse (.binary found)))

/-! ## Assignments -/

/-- The operators that assign, other than the equals sign. -/
def compoundAssignments : List String :=
  ["+=", "-=", "*=", "/=", "%=", "**=", "<<=", ">>=", ">>>=", "&=", "|=", "^=", "&&=", "||=",
   "??="]

/-- `yield`, with or without a value. -/
def yieldExpression : Parser Node := do
  failIf (!(← surroundings).inGenerator) .reservedName
  expectWord "yield"
  if ← onNewLine then return .group .yield []
  if ← eat "*" then return .group .yield [← assignment]
  let isEnd ← sees fun token =>
    token.kind == .endOfInput || token.isKeyword "in" || token.isKeyword "of"
      || (token.kind == .punctuator
        && [closeBrace, ")", "]", ":", ",", ";"].contains token.text)
  if isEnd then return .group .yield []
  return .group .yield [← assignment]

/-- A conditional expression after its condition, if a question mark is ahead. -/
def conditional (mayHaveResultType : Bool) (condition : Node) : Parser Node := do
  if ← eat "?" then
    let whenTrue ← within ({ · with allowIn := true, inDecorator := false })
      (parse (.assignment false))
    expect ":"
    let whenFalse ← parse (.assignment mayHaveResultType)
    return .group .conditional [condition, whenTrue, whenFalse]
  else return condition

def assignmentExpression (mayHaveResultType : Bool) : Parser Node := do
  if (← atWord "yield") && ((← surroundings).inGenerator || (← next operandOnLine)) then
    return ← yieldExpression
  if let some arrow ← arrowInParentheses? mayHaveResultType then return arrow
  if let some arrow ← asyncArrow? mayHaveResultType then return arrow
  let left ← binary 0
  match left with
  | .reference binder =>
    if ← at? "=>" then
      expectArrow
      let body ← arrowBody false mayHaveResultType
      return arrowNode [] [.mk [] (.name binder) none none] none body
  | _ => pure ()
  let operator ← operatorToken
  if operator.isPunctuator "=" then
    let left ← target Node.toTarget? left
    advance
    return .group .assignment [left, ← parse (.assignment mayHaveResultType)]
  else if operator.kind == .punctuator && compoundAssignments.contains operator.text then
    let left ← target Node.toSimpleTarget? left
    if ← at? ">" then reread .closingAngle
    advance
    return .group .compoundAssignment [left, ← parse (.assignment mayHaveResultType)]
  else conditional mayHaveResultType left

def expressionSyntax : Parser Node := do
  match ← commaSeparated (assignmentExpression true) with
  | [single] => return single
  | several => return .group .sequence several

end IconSize.Syntax.Grammar
