import IconSize.Syntax.Grammar.Declaration

/-!
Imports and exports.
-/

namespace IconSize.Syntax.Grammar
open IconSize.Syntax.Parser Lexer

variable [Grammar]

/-! ## Module specifiers -/

/-- The string that names a module: its value and its span. -/
def moduleSpecifier : Parser (String × Span) := do
  let token ← token
  if token.kind == .string then
    advance
    return (token.text, token.span)
  else fail .unexpected

def importAttribute : Parser Unit := do
  if (← atName) || (← atKind .string) then advance else fail .unexpected
  expect ":"
  if ← atKind .string then advance else fail .unexpected

def importAttributes : Parser Unit := do
  if (← atWord "with") || ((← atWord "assert") && !(← onNewLine)) then
    advance
    expect openBrace
    let _ ← commaList closeBrace importAttribute
    expect closeBrace

/-! ## Entries in braces -/

def atModuleName : Parser Bool := sees fun token => token.isWord || token.kind == .string

/-- The name of an export: a word or a string. -/
def moduleName : Parser ModuleName := do
  let token ← token
  if token.isWord then
    advance
    return ⟨token.text, token.span, false⟩
  else if token.kind == .string then
    failIf token.malformed .unexpected
    advance
    return ⟨token.text, token.span, true⟩
  else fail .unexpected

/-- An entry in the braces of an import or export: both names, and whether it is marked as a
type. -/
structure Entry where
  first : ModuleName
  second : ModuleName
  typeOnly : Bool
  span : Span

/-- An entry in the braces. The word `type` may mark it or be one of its names, and so may `as`:
`{ type as }` marks an entry called `as`, `{ type as as }` renames one called `type`, and
`{ type as as as }` does both to one called `as`. -/
def entry : Parser Entry := do
  let start ← startOffset
  let finish (first second : ModuleName) (typeOnly : Bool) : Parser Entry := do
    return ⟨first, second, typeOnly, ← spanFrom start⟩
  let mark := (← atWord "type") && (← typed)
  let first ← moduleName
  if mark && (← atWord "as") then
    let second ← moduleName
    if ← atWord "as" then
      let third ← moduleName
      if ← atModuleName then finish second (← moduleName) true
      else finish first third false
    else if ← atModuleName then finish first (← moduleName) false
    else finish second second true
  else
    let marked := mark && (← atModuleName)
    let first ← if marked then moduleName else pure first
    if ← eatWord "as" then finish first (← moduleName) marked
    else finish first first marked

/-- The words that bind nothing in an import: the reserved ones, `await` and `yield`. -/
def isImportBinder (name : ModuleName) : Bool :=
  !name.quoted && !(Token.reservedWords ++ ["await", "yield"]).contains name.name

/-- The words that an export without a module cannot refer to. -/
def isExportable (name : ModuleName) : Bool :=
  isImportBinder name
    && !(["implements", "interface", "let", "package", "private", "protected", "public",
      "static"].contains name.name)

def importSpecifier : Parser ImportClause := do
  let entry ← entry
  failIf (!isImportBinder entry.second) .reservedName
  let binder : Identifier := ⟨entry.second.name, entry.second.span⟩
  return .named ⟨entry.first, binder, entry.typeOnly, entry.span⟩

/-- A name that an import binds as a whole. -/
def importBinder : Parser Identifier := do
  let binder ← identifier
  failIf (["await", "yield"].contains binder.name) .reservedName
  return binder

/-! ## Import declarations -/

/-- The part of an import in braces, or the one with an asterisk. -/
def importClauses : Parser (List ImportClause) := do
  if ← eat "*" then
    expectWord "as"
    return [.everything (← importBinder)]
  else
    expect openBrace
    let clauses ← commaList closeBrace importSpecifier
    expect closeBrace
    return clauses

/-- The module of an import and the end of the declaration. -/
def importRest (clauses : List ImportClause) : Parser Node := do
  let (module, literal) ← moduleSpecifier
  importAttributes
  endStatement
  return .importing ⟨clauses, module, literal⟩

/-- An import declaration after its keyword, if it does not name a module at once. -/
def importAfterKeyword : Parser Node := do
  let leading ← do
    if ← (do if ← atWord "type" then typed else return false) then
      -- `type` marks the declaration unless it is itself the name that is imported
      let marks ← next do
        if ← atAny [openBrace, "*"] then return true
        else if ← atWord "from" then next do
          return (← atWord "from") || (← at? "=")
        else atIdentifier
      if marks then advance
    if ← (do if ← atWord "defer" then next (at? "*") else return false) then advance
    if ← (do
        if ← atWord "source" then next do
          if ← atIdentifier then next (atWord "from") else return false
        else return false) then advance
    if ← atIdentifier then some <$> importBinder else pure none
  match leading with
  | none =>
    let clauses ← importClauses
    expectWord "from"
    importRest clauses
  | some binder =>
    if (← at? "=") && (← typed) then importEqualsRest binder
    else
      let clauses ← if ← eat "," then importClauses else pure []
      expectWord "from"
      importRest (.defaultName binder :: clauses)

def importDeclaration : Parser Node := do
  expectWord "import"
  if ← atKind .string then importRest [] else importAfterKeyword

/-! ## Exports -/

/-- An entry in the braces of an export. -/
def exportEntries : Parser (List Entry) := do
  expect openBrace
  let entries ← commaList closeBrace entry
  expect closeBrace
  return entries

/-- An export list, possibly of another module. -/
def exportList : Parser Node := do
  let entries ← exportEntries
  let fromModule ← eatWord "from"
  if fromModule then
    let _ ← moduleSpecifier
    importAttributes
  else failIf (!entries.all (isExportable ·.first)) .reservedName
  endStatement
  return .group .exporting
    (entries.map fun entry => .exportSpecifier ⟨entry.first, entry.second, fromModule⟩)

/-- The export of all that another module exports. -/
def exportEverything : Parser Node := do
  expect "*"
  if ← eatWord "as" then
    let _ ← moduleName
  expectWord "from"
  let _ ← moduleSpecifier
  importAttributes
  endStatement
  return .group .exportAll []

def defaultExport (found : List Node) : Parser Node := do
  expectWord "default"
  let isTyped ← typed
  let found := found ++ (← decorators)
  if (← atWord "class") then return .group .exporting [← classSyntax .declaration found]
  let isAbstract ← do
    if isTyped && (← atWord "abstract") then next (atWord "class") else pure false
  if isAbstract then
    advance
    return .group .exporting [← classSyntax .declaration found]
  failIf (!found.isEmpty) .misplacedDecorator
  let isInterface ← do
    if isTyped && (← atWord "interface") then next do
      return (← atIdentifier) && !(← onNewLine)
    else pure false
  if isInterface then return .group .exporting [← interfaceSyntax]
  if ← functionAhead then return .group .exporting [← functionSyntax .declaration false]
  let value ← assignmentWithIn
  endStatement
  return .group .exporting [value]

/-- An export declaration; decorators of a class may stand before it or after its keyword. -/
def exportDeclaration (found : List Node) : Parser Node := do
  expectWord "export"
  if ← atWord "default" then defaultExport found
  else
    let isTyped ← typed
    let asNamespace ← do
      if isTyped && (← atWord "as") then next (atWord "namespace") else pure false
    let typeList ← do
      if isTyped && (← atWord "type") then next (atAny [openBrace, "*"]) else pure false
    if ← at? "*" then exportEverything
    else if ← at? openBrace then exportList
    else if isTyped && (← at? "=") then
      advance
      let value ← expressionWithIn
      endStatement
      return .group .exporting [value]
    else if asNamespace then
      advance
      advance
      let _ ← name
      endStatement
      return .group .exportNamespace []
    else if typeList then
      advance
      if ← at? "*" then exportEverything else exportList
    else
      let found := found ++ (← decorators)
      return .group .exporting [← declaration found]

end IconSize.Syntax.Grammar
