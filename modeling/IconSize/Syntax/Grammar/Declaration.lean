import IconSize.Syntax.Grammar.Expression

/-!
Declarations: variables, enumerations, type aliases, namespaces, and the declarations that words
such as `declare` and `abstract` may introduce.
-/

namespace IconSize.Syntax.Grammar
open IconSize.Syntax.Parser Lexer

variable [Grammar]

/-! ## Variables -/

def declarator : Parser Declarator := do
  let binder ← parse .pattern
  if (← typed) && (← at? "!") && !(← onNewLine) then
    match binder with
    | .name _ => advance
    | _ => fail .unexpected
  let ascription ← typeAfterColon
  if ← eat "=" then return .mk binder ascription (some (← assignment))
  else return .mk binder ascription none

/-- Every declarator that needs an initializer has one. Patterns need one, and so do the names of
all kinds of declaration but `var` and `let`. Where only types are described nothing does. -/
def requireInitializers (kind : VariableKind) (declarators : List Declarator) : Parser Unit := do
  let missing (declarator : Declarator) : Bool :=
    declarator.initializer.isNone &&
      match declarator.pattern with
      | .name _ => kind != .var && kind != .lexical
      | _ => true
  failIf (!(← surroundings).ambient && declarators.any missing) .missingInitializer

def variableKeyword : Parser VariableKind := do
  if ← eatWord "var" then return .var
  else if ← eatWord "let" then return .lexical
  else if ← eatWord "const" then return .const
  else if ← eatWord "using" then return .using
  else
    expectWord "await"
    expectWord "using"
    return .awaitUsing

/-- Does a declaration that begins with `using` stand ahead? -/
def usingAhead : Parser Bool := do
  let binderAhead : Parser Bool := next do
    return (← atIdentifier) && !(← onNewLine) && !(← atAnyWord ["of", "as", "satisfies"])
  if ← atWord "using" then binderAhead
  else if ← atWord "await" then next do
    if (← atWord "using") && !(← onNewLine) then binderAhead else return false
  else return false

def variableStatement : Parser Node := do
  let kind ← variableKeyword
  let declarators ← within ({ · with allowIn := true }) (commaSeparated declarator)
  requireInitializers kind declarators
  endStatement
  return .variables kind declarators

/-! ## Declarations of types and namespaces -/

/-- `type A = B` -/
def typeAliasSyntax : Parser Node := do
  expectWord "type"
  let binder ← identifier
  let generics ← typeParameters
  expect "="
  let type ← parse .type
  endStatement
  return .typeAlias binder (generics ++ [type])

/-- A member of an enumeration. Its name is a word or a string, possibly in brackets. -/
def enumMember : Parser Node := do
  let bracketed ← eat "["
  let token ← token
  let isName := token.kind == .string || token.kind == .templateWhole
    || (token.kind == .word && !bracketed)
  failIf (!isName) .unexpected
  advance
  if bracketed then expect "]"
  if ← eat "=" then return .enumMember token.text (some (← assignmentWithIn))
  else return .enumMember token.text none

def enumSyntax : Parser Node := do
  let _ ← eatWord "const"
  expectWord "enum"
  let binder ← identifier
  expect openBrace
  let members ← commaList closeBrace enumMember
  expect closeBrace
  return .enumeration binder members

/-- A namespace or module. Only a module may have a string for its name. The namespaces of a dotted
name lie in each other. -/
def namespaceSyntax : Parser Node := do
  let isModule ← atWord "module"
  advance
  if isModule && (← atKind .string) then
    advance
    if ← at? openBrace then return .namespaceBlock none (← statementsInBraces)
    else
      endStatement
      return .namespaceBlock none []
  else
    let first ← identifier
    let inner ← many (at? ".") do
      advance
      identifier
    let body ← statementsInBraces
    let nested := inner.foldr (fun binder body => [.namespaceBlock (some binder) body]) body
    return .namespaceBlock (some first) nested

/-- `global { … }` -/
def globalSyntax : Parser Node := do
  expectWord "global"
  return .namespaceBlock none (← statementsInBraces)

/-! ## Imports of namespaces -/

/-- `a = require('m')` or `a = b.c`, after the word `import`. -/
def importEqualsRest (binder : Identifier) : Parser Node := do
  expect "="
  if (← atWord "require") && (← next (at? "(")) then
    advance
    expect "("
    if ← atKind .string then advance else fail .unexpected
    expect ")"
    endStatement
    return .importEquals binder []
  else
    let start ← name
    let _ ← dottedNames
    endStatement
    return .importEquals binder [.reference start]

/-! ## Declarations with modifiers -/

/-- The words that may stand before a declaration in this dialect. -/
def declarationModifiers : List String :=
  ["declare", "abstract", "public", "private", "protected", "static", "readonly", "accessor"]

/-- Does a declaration that begins with a word of type syntax stand ahead? -/
def typedDeclarationAhead : Parser Bool := foresee do
  loop () fun _ => do
    let token ← token
    if token.kind != .word || token.escaped then return .inr false
    else match token.text with
    | "var" | "let" | "const" | "function" | "class" | "enum" => return .inr true
    | "interface" | "type" =>
      advance
      return .inr ((← atIdentifier) && !(← onNewLine))
    | "module" | "namespace" =>
      advance
      return .inr (!(← onNewLine) && ((← atIdentifier) || (← atKind .string)))
    | "abstract" | "accessor" | "async" | "declare" | "private" | "protected" | "public"
    | "readonly" =>
      advance
      if ← onNewLine then return .inr false else return .inl ()
    | "static" =>
      advance
      return .inl ()
    | "global" =>
      advance
      return .inr (← at? openBrace)
    | "import" =>
      advance
      return .inr ((← atAny [openBrace, "*"]) || (← atKind .string) || (← atIdentifier))
    | _ => return .inr false

/-- A declaration from its own keyword on. -/
def plainDeclaration (decorators : List Node) (abstracts : Bool) : Parser Node := do
  let token ← token
  if token.kind != .word || token.escaped then fail .unexpected
  else if token.text == "class" then classSyntax .declaration decorators
  else
    failIf (!decorators.isEmpty) .misplacedDecorator
    failIf abstracts .misplacedModifier
    if ← functionAhead then functionSyntax .declaration true
    else match token.text with
    | "var" | "let" => variableStatement
    | "const" =>
      if (← typed) && (← next (atWord "enum")) then enumSyntax else variableStatement
    | _ =>
      if !(← typed) then fail .unexpected
      else match token.text with
      | "enum" => enumSyntax
      | "interface" => interfaceSyntax
      | "type" => typeAliasSyntax
      | "module" | "namespace" => namespaceSyntax
      | "global" => globalSyntax
      | "import" =>
        advance
        let _ ← do
          if ← atWord "type" then
            if ← next atIdentifier then advance
        importEqualsRest (← identifier)
      | _ => fail .unexpected

/-- A declaration with the words before it. What is declared and not defined has no bodies. -/
def declaration (decorators : List Node) : Parser Node := do
  let words ← whenTyped [] (modifiers declarationModifiers)
  failIf (words.any fun word => word != "declare" && word != "abstract") .misplacedModifier
  let ambient := words.contains "declare"
  within (fun surroundings =>
      { surroundings with ambient := surroundings.ambient || ambient }) do
    plainDeclaration decorators (words.contains "abstract")

end IconSize.Syntax.Grammar
