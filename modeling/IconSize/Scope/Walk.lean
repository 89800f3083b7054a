import IconSize.Scope.BoundNames
import IconSize.Scope.Reference

/-!
The walk over a syntax tree that enters every scope, declares every name and records every
reference.

A name that belongs to a scope not yet entered (a parameter, the name of a function expression) is
held until the next scope is entered, whichever that is. A form that knows how its child is used
leaves a mark at the span of the child; the reference at that span takes it up.
-/

namespace IconSize
open Syntax

/-- What the walk has gathered, and where it stands. -/
structure Walk where
  table : ScopeTable
  /-- The scopes around the current place, innermost first. -/
  stack : List ScopeHandle
  /-- The names that the next scope to be entered declares. -/
  pending : List String
  /-- The usages of references that are still to come. -/
  usages : List (Span × Usage)
  /-- The spans of references to types that are still to come. -/
  typeSpans : List Span
  references : Array Reference
deriving Inhabited

namespace Walk

def start : Walk := ⟨.empty, [], [], [], [], #[]⟩

def current (walk : Walk) : Option ScopeHandle := walk.stack.head?

/-- Enter a scope, which declares the names that are held. -/
def enter (kind : ScopeKind) (walk : Walk) : Walk :=
  let (handle, table) := walk.table.push ⟨walk.current, kind, walk.pending, []⟩
  { walk with table, stack := handle :: walk.stack, pending := [] }

def leave (walk : Walk) : Walk := { walk with stack := walk.stack.tail }

/-- Hold a name for the next scope. -/
def hold (name : String) (walk : Walk) : Walk :=
  { walk with pending := walk.pending.insert name }

def holdAll (names : List String) (walk : Walk) : Walk :=
  names.foldl (fun walk name => walk.hold name) walk

/-- Declare a name in the innermost scope. -/
def declare (name : String) (walk : Walk) : Walk :=
  match walk.current with
  | some handle => { walk with table := walk.table.declare handle name }
  | none => walk

def declareAll (names : List String) (walk : Walk) : Walk :=
  names.foldl (fun walk name => walk.declare name) walk

def declareType (name : String) (walk : Walk) : Walk :=
  match walk.current with
  | some handle => { walk with table := walk.table.declareType handle name }
  | none => walk

/-- The nearest scope that is no block. -/
def hoistingScope (walk : Walk) : Option ScopeHandle :=
  walk.stack.find? fun handle => (walk.table.get? handle).any (·.kind != .block)

/-- Declare a variable in the nearest scope that is no block. -/
def declareVar (name : String) (walk : Walk) : Walk :=
  match walk.hoistingScope with
  | some handle => { walk with table := walk.table.declare handle name }
  | none => walk

def declareVariables (kind : VariableKind) (names : List String) (walk : Walk) : Walk :=
  match kind with
  | .var => names.foldl (fun walk name => walk.declareVar name) walk
  | _ => walk.declareAll names

/-- Mark how the reference at a span will be used. -/
def mark (span : Span) (usage : Usage) (walk : Walk) : Walk :=
  { walk with usages := (span, usage) :: walk.usages.filter (·.1 != span) }

/-- Mark that the reference at a span will be one to a type. -/
def markType (span : Span) (walk : Walk) : Walk :=
  { walk with typeSpans := walk.typeSpans.insert span }

/-- Record a reference. It takes up the marks at its span. -/
def refer (name : Identifier) (walk : Walk) : Walk :=
  let usage := (walk.usages.lookup name.span).getD .plain
  let space : Namespace := if walk.typeSpans.contains name.span then .type else .value
  { walk with
    usages := walk.usages.filter (·.1 != name.span)
    typeSpans := walk.typeSpans.erase name.span
    references := walk.references.push ⟨name.name, name.span, walk.current, usage, space⟩ }

/-- Bind the name of a function: a declaration in the scope around it, an expression in its own. -/
def nameFunction (role : FunctionRole) (name : Option Identifier) (walk : Walk) : Walk :=
  match role, name with
  | .declaration, some name => walk.declare name.name
  | .expression, some name => walk.hold name.name
  | _, none => walk

/-- Bind the name of a class: a declaration in the scope around it, an expression in its own. -/
def nameClass (role : ClassRole) (name : Option Identifier) (walk : Walk) : Walk :=
  match role, name with
  | .declaration, some name => walk.declare name.name
  | .expression, some name => walk.hold name.name
  | _, none => walk

/-- Mark the value of a property if it is a reference. -/
def markValue (value : Node) (walk : Walk) : Walk :=
  match value.withoutParentheses with
  | .reference name => walk.mark name.span (.value false)
  | _ => walk

def openTag (attributesAt : Nat) (name : TagName) (walk : Walk) : Walk :=
  match name with
  | .reference name => (walk.mark name.span (.tag attributesAt)).refer name
  | .member object => walk.refer object
  | .intrinsic => walk

def closeTag (name : Option TagName) (walk : Walk) : Walk :=
  match name with
  | some (.reference name) => walk.refer name
  | some (.member object) => walk.refer object
  | _ => walk

def visitExport (specifier : ExportSpecifier) (walk : Walk) : Walk :=
  let marked :=
    if specifier.name.span = specifier.exported.span then
      walk.mark specifier.name.span (.other true)
    else walk
  if specifier.fromModule then marked
  else marked.refer ⟨specifier.name.name, specifier.name.span⟩

mutual

def visit : Node → Walk → Walk
  | .reference name, walk => walk.refer name
  | .typeReference name arguments, walk =>
    visitAll arguments ((walk.markType name.span).refer name)
  | .typeParameter _ bounds, walk => visitAll bounds walk
  | .group _ parts, walk => visitAll parts walk
  | .parenthesized inner, walk => visit inner walk
  | .property key value, walk => visit value (visit key (walk.markValue value))
  | .shorthand name, walk => (walk.mark name.span (.value true)).refer name
  | .shorthandDefault name value, walk =>
    visit value ((walk.mark name.span (.value true)).refer name)
  | .targetShorthand name, walk => walk.refer name
  | .block _ parts, walk => (visitAll parts (walk.enter .block)).leave
  | .staticBlock body, walk => (visitAll body (walk.enter .function)).leave
  | .variables kind declarators, walk =>
    visitDeclarators declarators
      (walk.declareVariables kind (Declarator.boundNames declarators))
  | .function role name typeParameters receiver parameters result body, walk =>
    let inside :=
      ((walk.nameFunction role name).holdAll (Parameter.boundNames parameters)).enter .function
    let inside := visitParameters parameters
      (visitOption receiver (visitAll typeParameters inside))
    (visitAll body (visitOption result inside)).leave
  | .signature head parameters result, walk =>
    (visitOption result (visitParameters parameters (visitAll head (walk.enter .block)))).leave
  | .classNode role decorators name inside, walk =>
    (visitAll inside ((visitAll decorators (walk.nameClass role name)).enter .block)).leave
  | .catchClause parameter body, walk =>
    let inside := (walk.holdAll parameter.pattern.boundNames).enter .block
    (visit body (visitParameter parameter inside)).leave
  | .enumeration name members, walk =>
    (visitAll members ((walk.declare name.name).enter .block)).leave
  | .enumMember _ value, walk => visitOption value walk
  | .namespaceBlock name body, walk =>
    let named := match name with
      | some name => walk.declare name.name
      | none => walk
    (visitAll body (named.enter .function)).leave
  | .interface name inside, walk =>
    (visitAll inside ((walk.declareType name.name).enter .block)).leave
  | .typeAlias name inside, walk =>
    (visitAll inside ((walk.declareType name.name).enter .block)).leave
  | .importing declaration, walk =>
    walk.declareAll (declaration.clauses.map (·.bound.name))
  | .importEquals _ target, walk => visitAll target walk
  | .exportSpecifier specifier, walk => walk.visitExport specifier
  | .element name typeArguments attributesAt attributes children closing, walk =>
    let opened := visitAll attributes (visitAll typeArguments (walk.openTag attributesAt name))
    (visitAll children opened).closeTag closing

def visitAll : List Node → Walk → Walk
  | [], walk => walk
  | node :: rest, walk => visitAll rest (visit node walk)

def visitOption : Option Node → Walk → Walk
  | none, walk => walk
  | some node, walk => visit node walk

/-- Visit the keys and default values of a pattern. -/
def visitPattern : Pattern → Walk → Walk
  | .name _, walk => walk
  | .object properties, walk => visitPatterns properties walk
  | .array elements, walk => visitPatterns elements walk
  | .hole, walk => walk
  | .keyed key value, walk => visitPattern value (visit key walk)
  | .withDefault target value, walk => visit value (visitPattern target walk)
  | .rest target, walk => visitPattern target walk

def visitPatterns : List Pattern → Walk → Walk
  | [], walk => walk
  | pattern :: rest, walk => visitPatterns rest (visitPattern pattern walk)

/-- Visit a parameter: decorators, pattern, type, default value. -/
def visitParameter : Parameter → Walk → Walk
  | .mk decorators pattern ascription default, walk =>
    visitOption default (visitOption ascription
      (visitPattern pattern (visitAll decorators walk)))

def visitParameters : List Parameter → Walk → Walk
  | [], walk => walk
  | parameter :: rest, walk => visitParameters rest (visitParameter parameter walk)

/-- Visit a declarator: pattern, type, initializer. -/
def visitDeclarator : Declarator → Walk → Walk
  | .mk pattern ascription initializer, walk =>
    visitOption initializer (visitOption ascription (visitPattern pattern walk))

def visitDeclarators : List Declarator → Walk → Walk
  | [], walk => walk
  | declarator :: rest, walk => visitDeclarators rest (visitDeclarator declarator walk)

end

def visitProgram (program : Program) (walk : Walk) : Walk :=
  (visitAll program.body (walk.enter .module)).leave

end Walk

/-! ## The result of the walk -/

/-- The scopes of a module and its references in the order of the walk. -/
structure ScopeAnalysis where
  scopes : ScopeTable
  references : List Reference
deriving Inhabited

namespace ScopeAnalysis

def ofProgram (program : Program) : ScopeAnalysis :=
  let walk := Walk.start.visitProgram program
  ⟨walk.table, walk.references.toList⟩

def referencesTo (analysis : ScopeAnalysis) (name : String) : List Reference :=
  analysis.references.filter (·.name == name)

end ScopeAnalysis
end IconSize
