import IconSize.Edits.Renaming
import IconSize.Syntax.Program

/-!
The transform of one source: find the imports of the target module, choose the new names, plan the
edits, splice them in, and read the result once more so that no text that is not a module is ever
given out.
-/

namespace IconSize
open Syntax Text Files

/-! ## Imports -/

namespace Syntax

/-- The entries in the braces of an import. -/
def ImportDeclaration.specifiers (declaration : ImportDeclaration) : List ImportSpecifier :=
  declaration.clauses.filterMap fun
    | .named specifier => some specifier
    | _ => none

/-- The import declarations at the top level whose module is exactly the given one. -/
def Program.importsOf (program : Program) (target : String) : List ImportDeclaration :=
  program.body.filterMap fun
    | .importing declaration => if declaration.module = target then some declaration else none
    | _ => none

end Syntax

/-- A module specifier in quotes. The quote and the backslash are escaped. -/
def moduleLiteral (quote : Char) (module : List Char) : List Char :=
  quote :: module.flatMap (fun character =>
    if character = quote ∨ character = '\\' then ['\\', character] else [character]) ++ [quote]

/-- The edit that makes an import name another module. -/
def moduleEdit (source : List Char) (options : Options) (module : String)
    (declaration : ImportDeclaration) : Edit :=
  let raw := ((splitAt? declaration.literal.start source).map (·.2)).getD []
  let quote := options.printOptions.quote.resolve raw
  ⟨declaration.literal.start, declaration.literal.stop,
    String.ofList (moduleLiteral quote module.toList)⟩

/-! ## Errors -/

/-- Why a source cannot be transformed. Nothing is changed then. -/
inductive TransformError where
  /-- The source is no module. -/
  | parse (path : String) (error : SyntaxError)
  /-- An imported name does not follow the naming convention. -/
  | naming (error : NamingError)
  /-- The edits cannot be applied together. -/
  | plan (fault : PlanFault)
  /-- The edited source is no module. -/
  | invalidOutput (error : SyntaxError)
deriving DecidableEq, Repr, Inhabited

namespace TransformError

def code : TransformError → String
  | parse _ _ => "CM-ERR-PARSE-001"
  | naming _ => "CM-ERR-NAMING-001"
  | plan _ => "CM-ERR-EDIT-001"
  | invalidOutput _ => "CM-ERR-OUTPUT-001"

def message : TransformError → String
  | parse path error => "Failed to parse " ++ path ++ ": " ++ error.fault.message
  | naming error => "Invalid icon binding '" ++ error.binding ++ "': " ++ error.fault.message
  | plan (.overlap start stop) =>
    "Rewrite edits overlap at " ++ toString start ++ ".." ++ toString stop
  | plan .insideCharacter => "A rewrite edit divides a character"
  | invalidOutput error => "Rewritten source no longer parses: " ++ error.fault.message

end TransformError

/-! ## The transform -/

structure TransformOutput where
  code : String
  changed : Bool
  bindings : List BindingReport
deriving DecidableEq, Repr, Inhabited

/-- A source that is left as it is. -/
def TransformOutput.unchanged (source : String) : TransformOutput := ⟨source, false, []⟩

/-- The plan for the imports of the target module and the bindings that they make: first the
module specifiers, then each binding with its entry and its references. -/
def planEdits (source : List Char) (analysis : ScopeAnalysis) (options : Options)
    (imports : List ImportDeclaration) (bindings : List ImportBinding) : Plan :=
  let modules := match options.newModule with
    | some module => imports.map (moduleEdit source options module)
    | none => []
  let renamings := bindings.flatMap fun binding =>
    ⟨binding.span.start, binding.span.stop, binding.specifierText⟩
      :: binding.edits source analysis options
  ⟨modules ++ renamings⟩

/-- Transform a module that has been read. -/
def transformProgram (dialect : Dialect) (source : String) (program : Program)
    (options : Options) : Except TransformError TransformOutput :=
  match program.importsOf options.targetModule with
  | [] => .ok (.unchanged source)
  | imports =>
    let analysis := ScopeAnalysis.ofProgram program
    let choice := NameChoice.start analysis.scopes options
    match choice.bindAll (imports.flatMap (·.specifiers)) with
    | .error error => .error (.naming error)
    | .ok bindings =>
      match (planEdits source.toList analysis options imports bindings).apply source with
      | .error fault => .error (.plan fault)
      | .ok code =>
        match Program.parse dialect code with
        | .error error => .error (.invalidOutput error)
        | .ok _ => .ok ⟨code, code != source, bindings.map (·.report analysis)⟩

/-- Transform a source in a dialect; `path` is what errors call it. -/
def transformAs (dialect : Dialect) (path : String) (source : String) (options : Options) :
    Except TransformError TransformOutput :=
  match Program.parse dialect source with
  | .error error => .error (.parse path error)
  | .ok program => transformProgram dialect source program options

/-- Transform a source that has no path. -/
def transformSource (source : String) (options : Options) :
    Except TransformError TransformOutput :=
  transformAs .standard "<input>" source options

/-- Transform the text of a file. -/
def transformFile (path : Path) (source : String) (options : Options) :
    Except TransformError TransformOutput :=
  transformAs (.ofPath path) path.spelling source options

end IconSize
