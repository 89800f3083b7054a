import IconSize.Icon.Binding
import IconSize.Icon.Wrapper
import IconSize.Edits.Plan

/-!
Renaming: the edits that give the references of an import binding its new name, and that put the
size where the old name told it.
-/

namespace IconSize
open Syntax Text

/-- What became of the references of a binding. -/
structure BindingReport where
  imported : String
  replacement : String
  size : Nat
  /-- References that got the new name. -/
  renamed : Nat
  /-- References that a nested declaration binds. -/
  skipped : Nat
  /-- References that got the new name where a nested declaration binds that name. -/
  captured : Nat
deriving DecidableEq, Repr, Inhabited

namespace ImportBinding

/-- The attribute that gives the size of an element. -/
def sizeAttribute (binding : ImportBinding) : String :=
  " size=\x7b" ++ toString binding.size ++ "\x7d"

/-- What stands in the place of the binding where it is used as a plain value at an offset. -/
def valueText (binding : ImportBinding) (source : List Char) (options : Options)
    (offset : Nat) : String :=
  if binding.needsSize options.defaultSize then
    let indent := String.ofList ((lineIndent? source offset).getD [])
    Wrapper.text binding.replacement binding.size indent options.printOptions
  else binding.replacement

/-- What stands in the place of a reference to the binding. Where the name is a key or a public
name as well, that stays. -/
def referenceText (binding : ImportBinding) (source : List Char) (options : Options)
    (reference : Reference) : String :=
  match reference.usage with
  | .tag _ => binding.replacement
  | .value shorthand =>
    let value := binding.valueText source options reference.span.start
    if shorthand && value != binding.localName then binding.localName ++ ": " ++ value else value
  | .other exportShorthand =>
    if exportShorthand && binding.replacement != binding.localName then
      binding.replacement ++ " as " ++ binding.localName
    else binding.replacement

/-- The edits for one reference to the binding: its new text, and the size of an element. -/
def referenceEdits (binding : ImportBinding) (source : List Char) (options : Options)
    (reference : Reference) : List Edit :=
  let renamed : Edit :=
    ⟨reference.span.start, reference.span.stop,
      binding.referenceText source options reference⟩
  match reference.usage with
  | .tag insertAt =>
    if binding.needsSize options.defaultSize then
      [renamed, ⟨insertAt, insertAt, binding.sizeAttribute⟩]
    else [renamed]
  | _ => [renamed]

/-- Does this reference, which has the local name, refer to the import? -/
def isReferredBy (binding : ImportBinding) (scopes : ScopeTable) (reference : Reference) : Bool :=
  reference.resolve scopes binding.localName == .root

/-- Will a nested declaration of the new name bind this reference instead of the import? -/
def isCaptured (binding : ImportBinding) (scopes : ScopeTable) (reference : Reference) : Bool :=
  binding.replacement != binding.localName &&
    match reference.resolve scopes binding.replacement with
    | .shadowed _ => true
    | _ => false

/-- The references that get the new name. -/
def renamedReferences (binding : ImportBinding) (analysis : ScopeAnalysis) : List Reference :=
  (analysis.referencesTo binding.localName).filter (binding.isReferredBy analysis.scopes)

/-- The edits for all references to the binding, in the order of the walk. -/
def edits (binding : ImportBinding) (source : List Char) (analysis : ScopeAnalysis)
    (options : Options) : List Edit :=
  (binding.renamedReferences analysis).flatMap (binding.referenceEdits source options)

/-- What becomes of the references of the binding. -/
def report (binding : ImportBinding) (analysis : ScopeAnalysis) : BindingReport :=
  let renamed := binding.renamedReferences analysis
  { imported := binding.imported
    replacement := binding.replacement
    size := binding.size
    renamed := renamed.length
    skipped := (analysis.referencesTo binding.localName).length - renamed.length
    captured := renamed.countP (binding.isCaptured analysis.scopes) }

end ImportBinding
end IconSize
