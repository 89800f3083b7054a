import IconSize.Syntax.Grammar.Module

/-!
Statements.
-/

namespace IconSize.Syntax.Grammar
open IconSize.Syntax.Parser Lexer

variable [Grammar]

/-- The statement that a condition or the head of a loop governs. -/
def single : Parser Node := parse (.statement true)

def block : Parser Node := do return .block .block (← statementsInBraces)

/-- An expression in parentheses, as the head of a statement. -/
def condition : Parser Node := do
  expect "("
  let value ← expressionWithIn
  expect ")"
  return value

/-- A statement that is an expression, or a label with the statement after it. -/
def expressionStatement : Parser Node := do
  let value ← expressionWithIn
  match value with
  | .reference _ =>
    if ← eat ":" then return .group .labelled [← single]
  | _ => pure ()
  endStatement
  return .group .expressionStatement [value]

def ifStatement : Parser Node := do
  expectWord "if"
  let test ← condition
  let whenTrue ← single
  if ← eatWord "else" then return .group .ifStatement [test, whenTrue, ← single]
  else return .group .ifStatement [test, whenTrue]

/-- `do … while`; the semicolon after it may always be left out. -/
def doStatement : Parser Node := do
  expectWord "do"
  let body ← single
  expectWord "while"
  let test ← condition
  let _ ← eat ";"
  return .group .doStatement [body, test]

def whileStatement : Parser Node := do
  expectWord "while"
  let test ← condition
  return .group .whileStatement [test, ← single]

/-- The rest of a loop with three parts, from its first semicolon on. -/
def forLoop (start : List Node) : Parser Node := do
  expect ";"
  let test ← if ← at? ";" then pure [] else List.singleton <$> expressionWithIn
  expect ";"
  let update ← if ← at? ")" then pure [] else List.singleton <$> expressionWithIn
  expect ")"
  return .block .forLoop (start ++ test ++ update ++ [← single])

/-- The rest of a loop over keys or values, from `in` or `of` on. -/
def forEach (asynchronous : Bool) (binder : Node) : Parser Node := do
  if !asynchronous && (← eatWord "in") then
    let object ← expressionWithIn
    expect ")"
    return .block .forIn [binder, object, ← single]
  else
    expectWord "of"
    let values ← assignmentWithIn
    expect ")"
    return .block .forOf [binder, values, ← single]

def forStatement : Parser Node := do
  expectWord "for"
  let asynchronous ← eatWord "await"
  failIf (asynchronous && !(← surroundings).inAsync) .reservedName
  expect "("
  let declares ← do
    if (← atWord "var") || (← atWord "const") then pure true
    else if ← atWord "let" then next do
      return ((← atIdentifier) && !(← atWord "of")) || (← atAny ["[", openBrace])
    else usingAhead
  if declares then
    let kind ← variableKeyword
    let declarators ← within ({ · with allowIn := false }) (commaSeparated declarator)
    let declaration : Node := .variables kind declarators
    if ← atAnyWord ["in", "of"] then forEach asynchronous declaration
    else
      failIf asynchronous .unexpected
      requireInitializers kind declarators
      forLoop [declaration]
  else if ← at? ";" then
    failIf asynchronous .unexpected
    forLoop []
  else
    let isLet ← atWord "let"
    let isAsync ← atWord "async"
    let isPlain ← next (atWord "of")
    let value ← within ({ · with allowIn := false }) (parse .expression)
    if ← atAnyWord ["in", "of"] then
      failIf (isPlain && (isLet || (isAsync && !asynchronous))) .invalidTarget
      forEach asynchronous (← target Node.toTarget? value)
    else
      failIf asynchronous .unexpected
      forLoop [value]

/-- `break` and `continue`, with or without a label. -/
def jump : Parser Node := do
  advance
  if !(← mayEnd) then
    let _ ← identifier
  endStatement
  return .group .jump []

def returnStatement : Parser Node := do
  failIf (!(← surroundings).inFunction) .misplacedReturn
  advance
  if ← mayEnd then
    endStatement
    return .group .returnStatement []
  else
    let value ← expressionWithIn
    endStatement
    return .group .returnStatement [value]

/-- `throw`, with its value on the same line. -/
def throwStatement : Parser Node := do
  advance
  failIf (← onNewLine) .lineBreak
  let value ← expressionWithIn
  endStatement
  return .group .throwStatement [value]

def switchCase : Parser Node := do
  let test ← if ← eatWord "default" then pure [] else do
    expectWord "case"
    List.singleton <$> expressionWithIn
  expect ":"
  let body ← many (do
    return !(← atAnyWord ["case", "default"]) && !(← at? closeBrace)
      && !(← atKind .endOfInput)) (parse (.statement false))
  return .group .switchCase (test ++ body)

def switchStatement : Parser Node := do
  expectWord "switch"
  let value ← condition
  expect openBrace
  let cases ← many (do return !(← at? closeBrace)) switchCase
  expect closeBrace
  return .group .switchStatement [value, .block .cases cases]

def withStatement : Parser Node := do
  expectWord "with"
  let object ← condition
  return .group .withStatement [object, .block .withBody [← single]]

/-- The clause that handles an exception. -/
def catchClause : Parser Node := do
  expectWord "catch"
  if ← eat "(" then
    let binder ← parse .pattern
    let ascription ← typeAfterColon
    expect ")"
    return .catchClause (.mk [] binder ascription none) (← block)
  else return .block .catchBody [← block]

def tryStatement : Parser Node := do
  expectWord "try"
  let body ← block
  let handler ← if ← atWord "catch" then List.singleton <$> catchClause else pure []
  let finalizer ← if ← eatWord "finally" then List.singleton <$> block else pure []
  failIf (handler.isEmpty && finalizer.isEmpty) .unexpected
  return .group .tryStatement (body :: (handler ++ finalizer))

/-- A statement that begins with `let`: a declaration, or an expression in which it is a name. -/
def letStatement (isSingle : Bool) : Parser Node := do
  let isExpression ← next do
    if ← atAny ["(", ".", ";", "=>"] then return true
    let operator ← token
    if operator.isPunctuator "[" then return false
    if (← operatorLevel?).isSome || operator.isPunctuator "="
        || compoundAssignments.contains operator.text then return true
    return isSingle
  if isExpression then expressionStatement
  else
    failIf isSingle .misplacedDeclaration
    variableStatement

/-- A class, or an export of one, after its decorators. -/
def decorated : Parser Node := do
  let found ← decorators
  if ← atWord "export" then exportDeclaration found
  else
    let isClass ← do
      if ← atWord "class" then pure true
      else if ← typed then atAnyWord ["abstract", "declare"]
      else pure false
    if isClass then declaration found else fail .misplacedDecorator

/-- A statement. A single one is no lexical declaration, no class and no function of a special
kind. -/
def statement (isSingle : Bool) : Parser Node := do
  let token ← token
  if token.isPunctuator openBrace then block
  else if token.isPunctuator ";" then
    advance
    return .group .empty []
  else if token.isPunctuator "@" then decorated
  else if token.kind != .word || token.escaped then expressionStatement
  else match token.text with
  | "if" => ifStatement
  | "do" => doStatement
  | "while" => whileStatement
  | "for" => forStatement
  | "continue" | "break" => jump
  | "return" => returnStatement
  | "with" => withStatement
  | "switch" => switchStatement
  | "throw" => throwStatement
  | "try" => tryStatement
  | "debugger" =>
    advance
    endStatement
    return .group .empty []
  | "var" => variableStatement
  | "const" =>
    if (← typed) && (← next (atWord "enum")) then declaration []
    else
      failIf isSingle .misplacedDeclaration
      variableStatement
  | "let" => letStatement isSingle
  | "class" =>
    failIf isSingle .misplacedDeclaration
    classSyntax .declaration []
  | "export" => exportDeclaration []
  | "import" =>
    if ← next (atAny [".", "("]) then expressionStatement else importDeclaration
  | _ =>
    if ← functionAhead then
      let isGenerator ← if token.text == "async" then pure true else next (at? "*")
      failIf (isSingle && isGenerator) .misplacedDeclaration
      functionSyntax .declaration true
    else if ← usingAhead then
      failIf isSingle .misplacedDeclaration
      variableStatement
    else if (← typed) && (← typedDeclarationAhead) then declaration []
    else expressionStatement

end IconSize.Syntax.Grammar
