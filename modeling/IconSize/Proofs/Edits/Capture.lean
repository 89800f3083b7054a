import IconSize.Proofs.Edits.Outcome
import IconSize.Proofs.Edits.Splicing
import IconSize.Proofs.Scope.ModuleScopes
import IconSize.Proofs.Scope.RenamedWalk
import IconSize.Proofs.Scope.TypeShadowing

/-!
What a renamed reference means in the transformed module. The new name stands in a context that the
transform inserts, and that can bind the name just as the scopes around the reference can: a wrapper
puts it inside arrow functions. What the scopes around it show to the reference is reported; members
of enumerations and type parameters, which the scope table does not have, and the arrow functions
are not.
-/

namespace IconSize
open Syntax

/-! ## Inserted contexts -/

/-- A text with a place for a name. -/
inductive NameContext where
  | place
  | surrounded (before : String) (inside : NameContext) (after : String)
  /-- The body of an arrow function. -/
  | arrow (parameters : List String) (body : NameContext)

namespace NameContext

/-- The text with the name in its place. -/
def text (name : String) : NameContext → String
  | place => name
  | surrounded before inside after => before ++ inside.text name ++ after
  | arrow parameters body =>
    "(" ++ String.intercalate ", " parameters ++ ") => " ++ body.text name

/-- The parameters of the arrow functions around the place. -/
def binders : NameContext → List String
  | place => []
  | surrounded _ inside _ => inside.binders
  | arrow parameters body => parameters ++ body.binders

end NameContext

namespace Wrapper

def context (kind : WrapperKind) (size : Nat) (indent : String) (print : PrintOptions) :
    NameContext :=
  match kind with
  | .tag =>
    .surrounded "React.forwardRef("
      (.arrow ["props", "ref"] (.surrounded "<" .place
        (" ref=\x7bref\x7d size=\x7b" ++ toString size ++ "\x7d \x7b...props\x7d />")))
      ")"
  | .callable =>
    let inner := indent ++ "  "
    let comma := if print.trailingComma then "," else ""
    .arrow ["props"] (.surrounded "React.forwardRef("
      (.arrow ["props", "ref"] (.surrounded "React.createElement(" .place
        (", \x7b\n" ++ inner ++ "ref,\n" ++ inner ++ "size: " ++ toString size ++ ",\n"
          ++ inner ++ "...props" ++ comma ++ "\n" ++ indent ++ "\x7d)")))
      ")")

theorem text_context (name : String) (size : Nat) (indent : String) (print : PrintOptions) :
    (context (.ofName name) size indent print).text name = text name size indent print := by
  have parameters : String.intercalate ", " ["props", "ref"] = "props, ref" := by decide +kernel
  have single : String.intercalate ", " ["props"] = "props" := by decide +kernel
  unfold text
  cases WrapperKind.ofName name with
  | tag =>
      have opening : "React.forwardRef((props, ref) => <" =
          "React.forwardRef(" ++ ("(" ++ ("props, ref" ++ (") => " ++ "<"))) := by
        decide +kernel
      have closing : "\x7d \x7b...props\x7d />)" = "\x7d \x7b...props\x7d />" ++ ")" := by
        decide +kernel
      -- The equation of `tagText` takes the literals apart, which is slow.
      delta tagText
      simp only [context, NameContext.text, parameters, opening, closing, String.append_assoc]
  | callable =>
      have opening : "(props) => React.forwardRef((props, ref) => React.createElement(" =
          "(" ++ ("props" ++ (") => " ++ ("React.forwardRef(" ++ ("(" ++ ("props, ref" ++
            (") => " ++ "React.createElement(")))))) := by
        decide +kernel
      have closing : "\x7d))" = "\x7d)" ++ ")" := by decide +kernel
      delta callText
      simp only [context, NameContext.text, parameters, single, opening, closing,
        String.append_assoc]

theorem binders_context (kind : WrapperKind) (size : Nat) (indent : String)
    (print : PrintOptions) (name : String) :
    name ∈ (context kind size indent print).binders ↔ name = "props" ∨ name = "ref" := by
  cases kind <;> simp [context, NameContext.binders]

end Wrapper

namespace ImportBinding

variable (binding : ImportBinding) (source : List Char) (options : Options)
  (reference : Reference)

/-- What surrounds the name where the binding is used as a plain value at an offset. -/
def valueContext (offset : Nat) : NameContext :=
  if binding.needsSize options.defaultSize then
    Wrapper.context (.ofName binding.replacement) binding.size
      (String.ofList ((Text.lineIndent? source offset).getD [])) options.printOptions
  else .place

/-- What the transform puts around the new name of a reference. -/
def context : NameContext :=
  match reference.usage with
  | .tag _ => .place
  | .value shorthand =>
    let value := binding.valueContext source options reference.span.start
    if shorthand && value.text binding.replacement != binding.localName then
      .surrounded (binding.localName ++ ": ") value ""
    else value
  | .other exportShorthand =>
    if exportShorthand && binding.replacement != binding.localName then
      .surrounded "" .place (" as " ++ binding.localName)
    else .place

theorem text_valueContext (offset : Nat) :
    (binding.valueContext source options offset).text binding.replacement =
      binding.valueText source options offset := by
  unfold valueContext valueText
  split
  · exact Wrapper.text_context _ _ _ _
  · rfl

/-- With the new name in its place, the context is the text that is planned for the reference. -/
theorem text_context :
    (binding.context source options reference).text binding.replacement =
      binding.referenceText source options reference := by
  unfold context referenceText
  cases reference.usage with
  | tag insertAt => rfl
  | value shorthand =>
      simp only [text_valueContext]
      split
      · simp [NameContext.text, text_valueContext]
      · exact text_valueContext _ _ _ _
  | other exportShorthand =>
      simp only
      split
      · simp [NameContext.text, String.append_assoc]
      · rfl

/-- The context is a wrapper, and its parameters are called like the icon. -/
def IsBoundByWrapper : Prop :=
  (∃ shorthand, reference.usage = .value shorthand) ∧
    binding.needsSize options.defaultSize = true ∧
    (binding.replacement = "props" ∨ binding.replacement = "ref")

theorem mem_binders_context :
    binding.replacement ∈ (binding.context source options reference).binders ↔
      binding.IsBoundByWrapper options reference := by
  have value (offset : Nat) :
      binding.replacement ∈ (binding.valueContext source options offset).binders ↔
        binding.needsSize options.defaultSize = true ∧
          (binding.replacement = "props" ∨ binding.replacement = "ref") := by
    unfold valueContext
    split
    · rename_i sized
      rw [Wrapper.binders_context]
      simp [sized]
    · rename_i unsized
      simp [NameContext.binders, unsized]
  unfold context IsBoundByWrapper
  cases reference.usage with
  | tag insertAt => simp [NameContext.binders]
  | value shorthand =>
      simp only
      split
      · simpa [NameContext.binders] using value reference.span.start
      · simpa using value reference.span.start
  | other exportShorthand =>
      simp only
      split <;> simp [NameContext.binders]

end ImportBinding

/-! ## The transformed module -/

namespace Syntax

/-- The entry with the names that a binding of the same local name gives it. -/
def ImportSpecifier.transformed (bindings : List ImportBinding) (specifier : ImportSpecifier) :
    ImportSpecifier :=
  match bindings.find? (·.localName == specifier.binder.name) with
  | none => specifier
  | some binding =>
    { specifier with
      imported := { specifier.imported with name := binding.decomposed, quoted := false }
      binder := { specifier.binder with name := binding.replacement } }

def ImportClause.transformed (bindings : List ImportBinding) : ImportClause → ImportClause
  | .named specifier => .named (specifier.transformed bindings)
  | clause => clause

/-- An import of the target module names the new module and the new icons. -/
def ImportDeclaration.transformed (options : Options) (bindings : List ImportBinding)
    (declaration : ImportDeclaration) : ImportDeclaration :=
  if declaration.module = options.targetModule then
    { declaration with
      clauses := declaration.clauses.map (·.transformed bindings)
      module := options.newModule.getD declaration.module }
  else declaration

end Syntax

/-- The new names: a reference that means an import is called like the import. -/
def ScopeAnalysis.newNames (analysis : ScopeAnalysis) (bindings : List ImportBinding) : Renaming :=
  fun name =>
    match bindings.find? (·.localName == name.name) with
    | none => name.name
    | some binding =>
      if (binding.renamedReferences analysis).any (·.span == name.span) then binding.replacement
      else name.name

/-- The module after the transform, with each wrapper reduced to the name that it wraps: the tree
that the edits are meant to give, at the places of the source. -/
def Syntax.Program.transformed (program : Program) (options : Options)
    (bindings : List ImportBinding) : Program :=
  program.renamed ((ScopeAnalysis.ofProgram program).newNames bindings)
    (·.transformed options bindings)

/-- A name that stands in a context at a reference means something else than what the module
declares: a parameter of the context, or a declaration of a scope around the reference. -/
def NameContext.Rebinds (context : NameContext) (reference : Reference) (scopes : ScopeTable)
    (name : String) : Prop :=
  name ∈ context.binders ∨
    ∃ nested ∈ scopes.nestedScopes reference.scope,
      scopes.declaresIn nested name reference.space = true

namespace ImportBinding

variable {binding : ImportBinding} {analysis : ScopeAnalysis} {reference : Reference}

/-- A reference to an import is reported as captured exactly if a scope around it declares the new
name. -/
theorem isCaptured_iff (renamed : reference ∈ binding.renamedReferences analysis) :
    binding.isCaptured analysis.scopes reference = true ↔
      ∃ nested ∈ analysis.scopes.nestedScopes reference.scope,
        analysis.scopes.declaresIn nested binding.replacement reference.space = true := by
  rw [← ScopeTable.resolveIn_eq_shadowed_iff]
  rcases mem_renamedReferences.mp renamed with ⟨_, _, root⟩
  unfold isCaptured Reference.resolve
  by_cases same : binding.replacement = binding.localName
  · rw [← same, Reference.resolve] at root
    simp [root]
  · have different : (binding.replacement != binding.localName) = true := by simpa using same
    rw [different, Bool.true_and]
    cases analysis.scopes.resolveIn reference.scope binding.replacement reference.space <;> simp

/-- A reference to an import is reported as captured if a scope around its place in the tree shows
it what is bound there under the new name. -/
theorem isCaptured_of_shows {program : Program} {site : Site}
    (placed : Placed program.walkedRecords reference site)
    (renamed : reference ∈ binding.renamedReferences (ScopeAnalysis.ofProgram program))
    {enclosure : Enclosure} (member : enclosure ∈ site.around) {binder : Binder}
    (bound : binder ∈ enclosure.frame.binders) (named : binder.name = binding.replacement)
    (shown : enclosure.Shows site.space binder) :
    binding.isCaptured (ScopeAnalysis.ofProgram program).scopes reference = true := by
  rcases placed.exists_declaresIn member bound shown with ⟨nested, inside, declared⟩
  exact (isCaptured_iff renamed).mpr ⟨nested, inside, named ▸ declared⟩

/-- Of the references to an import, those are reported as captured that the scopes around their
places show a binder of the new name. -/
theorem captured_where_shown (binding : ImportBinding) (program : Program) :
    List.Forall₂ (fun reference site => site.IsOf reference ∧
        (reference ∈ binding.renamedReferences (ScopeAnalysis.ofProgram program) →
          ∀ enclosure ∈ site.around, ∀ binder ∈ enclosure.frame.binders,
            binder.name = binding.replacement → enclosure.Shows site.space binder →
              binding.isCaptured (ScopeAnalysis.ofProgram program).scopes reference = true))
      (ScopeAnalysis.ofProgram program).references program.sites :=
  (ScopeAnalysis.placed_references program).imp fun _ _ placed =>
    ⟨placed.isOf, fun renamed _ member _ bound named shown =>
      isCaptured_of_shows placed renamed member bound named shown⟩

end ImportBinding

section

variable {program : Program} {options : Options} {bindings : List ImportBinding}
  {binding : ImportBinding}

theorem find?_localName (member : binding ∈ bindings)
    (only : ∀ other ∈ bindings, other.localName = binding.localName → other = binding) :
    bindings.find? (·.localName == binding.localName) = some binding := by
  cases found : bindings.find? (·.localName == binding.localName) with
  | none => exact absurd (List.find?_eq_none.mp found binding member) (by simp)
  | some other =>
      have same : other.localName = binding.localName := by simpa using List.find?_some found
      rw [only other (List.mem_of_find?_eq_some found) same]

/-- The new name of a reference to an import, where no other import has the same local name. -/
theorem ScopeAnalysis.newNames_of_mem {analysis : ScopeAnalysis} {reference : Reference}
    (member : binding ∈ bindings)
    (only : ∀ other ∈ bindings, other.localName = binding.localName → other = binding)
    (renamed : reference ∈ binding.renamedReferences analysis) :
    analysis.newNames bindings ⟨reference.name, reference.span⟩ = binding.replacement := by
  rcases ImportBinding.mem_renamedReferences.mp renamed with ⟨_, named, _⟩
  simp only [newNames, named, find?_localName member only]
  rw [if_pos (List.any_eq_true.mpr ⟨reference, renamed, by simp⟩)]

/-- The transformed module declares the new name of an import, where no other import has the same
local name. -/
theorem Syntax.Program.declares_replacement (chosen : program.chosenBindings options = .ok bindings)
    (member : binding ∈ bindings)
    (only : ∀ other ∈ bindings, other.localName = binding.localName → other = binding) :
    (ScopeAnalysis.ofProgram (program.transformed options bindings)).scopes.declares .root
      binding.replacement = true := by
  rcases List.append_of_mem member with ⟨before, after, rfl⟩
  rcases NameChoice.bindAll_eq_ok_append chosen with ⟨specifier, specifierMember, bound⟩
  rcases NameChoice.bind_eq_ok bound with ⟨localName, _⟩
  rcases List.mem_flatMap.mp specifierMember with ⟨declaration, imported, entry⟩
  rcases Program.mem_importsOf.mp imported with ⟨top, target⟩
  have found := find?_localName member only
  have bound : ((ImportClause.named specifier).transformed
      (before ++ binding :: after)).bound.name = binding.replacement := by
    simp only [ImportClause.transformed, ImportSpecifier.transformed, ← localName, found]
    rfl
  have clause : (ImportClause.named specifier).transformed (before ++ binding :: after) ∈
      (declaration.transformed options (before ++ binding :: after)).clauses := by
    rw [ImportDeclaration.transformed, if_pos target]
    exact List.mem_map_of_mem (ImportDeclaration.mem_specifiers.mp entry)
  have inBody : Node.importing (declaration.transformed options (before ++ binding :: after)) ∈
      (program.transformed options (before ++ binding :: after)).body :=
    List.mem_map_of_mem top
  rw [← bound]
  exact ScopeAnalysis.declares_root_of_import inBody clause

end

/-- What the new name of a reference to an import means in the transformed module, where it stands
in the text that is planned for it. It means the import, which the module declares under that name,
unless a scope around the reference declares the name, which is reported, or the planned text binds
the name itself, which is not. -/
theorem renamed_reference_rebound_iff
    (program : Program) (source : List Char) (options : Options) (bindings : List ImportBinding)
    (binding : ImportBinding) (reference : Reference) (place : Nat)
    (chosen : program.chosenBindings options = .ok bindings)
    (member : binding ∈ bindings)
    (found : (ScopeAnalysis.ofProgram program).references[place]? = some reference)
    (renamed : reference ∈ binding.renamedReferences (ScopeAnalysis.ofProgram program)) :
    let analysis := ScopeAnalysis.ofProgram program
    let output := ScopeAnalysis.ofProgram (program.transformed options bindings)
    let context := binding.context source options reference
    context.text binding.replacement = binding.referenceText source options reference ∧
      ∃ result, output.references[place]? = some result ∧
        (result.span = reference.span ∧ result.scope = reference.scope ∧
          result.space = reference.space) ∧
        ((∀ other ∈ bindings, other.localName = binding.localName → other = binding) →
          result.name = binding.replacement ∧
            output.scopes.declares .root binding.replacement = true) ∧
        (result.resolve output.scopes binding.replacement = .root ↔
          binding.isCaptured analysis.scopes reference = false) ∧
        (context.Rebinds result output.scopes binding.replacement ↔
          binding.isCaptured analysis.scopes reference = true ∨
            binding.IsBoundByWrapper options reference) := by
  intro analysis output context
  refine ⟨binding.text_context source options reference, ?_⟩
  obtain ⟨agree, references⟩ : analysis.scopes.AgreeBelow output.scopes ∧ _ :=
    ScopeAnalysis.agree_renamed program (analysis.newNames bindings)
      (·.transformed options bindings)
  obtain ⟨result, resultFound, same⟩ : ∃ result, output.references[place]? = some result ∧
      result.erased = reference.renamed (analysis.newNames bindings) := by
    have atPlace := congrArg (·[place]?) references
    simp only [List.getElem?_map, found, Option.map_some] at atPlace
    exact Option.map_eq_some_iff.mp atPlace
  simp only [Reference.erased, Reference.renamed, Reference.mk.injEq] at same
  rcases same with ⟨name, span, scope, _, space⟩
  -- The tables differ at most in what the module declares, which no scope around `reference` is.
  have declared (handle : ScopeHandle)
      (nested : handle ∈ analysis.scopes.nestedScopes reference.scope) :
      output.scopes.declaresIn handle binding.replacement reference.space =
        analysis.scopes.declaresIn handle binding.replacement reference.space :=
    agree.declaresIn_eq (analysis.scopes.nestedScopes_ne_root nested) _ _
  have captured := ImportBinding.isCaptured_iff renamed
  refine ⟨result, resultFound, ⟨span, scope, space⟩, fun only => ⟨?_, ?_⟩, ?_, ?_⟩
  · rw [name, ScopeAnalysis.newNames_of_mem member only renamed]
  · exact Program.declares_replacement chosen member only
  · rcases ImportBinding.mem_renamedReferences.mp renamed with ⟨_, _, root⟩
    rcases (ScopeTable.resolveIn_eq_root_iff ..).mp root with ⟨inModule, _⟩
    rw [Reference.resolve, scope, space, ScopeTable.resolveIn_eq agree,
      ScopeTable.resolveIn_eq_root_iff, ← Bool.not_eq_true, captured]
    simp only [not_exists, not_and, Bool.not_eq_true]
    exact and_iff_right inModule
  · rw [NameContext.Rebinds, binding.mem_binders_context, scope, space, agree.nestedScopes_eq,
      captured, or_comm]
    refine or_congr_left (exists_congr fun handle => and_congr_right fun nested => ?_)
    rw [declared handle nested]

private def iconCalledPropsSource : String :=
  "import { Add16 as props } from 'icons'; (\x7b a: props \x7d)"

/-- A module that uses an icon as a plain value, under a name that the wrapper binds. -/
private def iconCalledProps : Program :=
  let specifier : ImportSpecifier :=
    ⟨⟨"Add16", ⟨9, 14⟩, false⟩, ⟨"props", ⟨18, 23⟩⟩, false, ⟨9, 23⟩⟩
  ⟨[.importing ⟨[.named specifier], "icons", ⟨31, 38⟩⟩,
    .group .expressionStatement [.parenthesized (.group (.object false)
      [.property (.group .plainKey []) (.reference ⟨"props", ⟨46, 51⟩⟩)])]]⟩

private def propsBinding : ImportBinding :=
  ⟨"Add16", "props", "Add", 16, "props", true, false, ⟨9, 23⟩⟩

private def propsReference : Reference := ⟨"props", ⟨46, 51⟩, some .root, .value false, .value⟩

/-- The wrapper rebinds the name, and nothing is reported. -/
theorem props_rebound_by_wrapper :
    let analysis := ScopeAnalysis.ofProgram iconCalledProps
    let output := ScopeAnalysis.ofProgram
      (iconCalledProps.transformed (.keeping "icons") [propsBinding])
    (∃ result, output.references[0]? = some result ∧ result.name = "props" ∧
      (propsBinding.context iconCalledPropsSource.toList (.keeping "icons")
        propsReference).Rebinds result output.scopes "props") ∧
    (propsBinding.report analysis).captured = 0 := by
  intro analysis output
  rcases renamed_reference_rebound_iff iconCalledProps
    iconCalledPropsSource.toList (.keeping "icons") [propsBinding] propsBinding propsReference 0
    rfl List.mem_cons_self rfl
    (ImportBinding.mem_renamedReferences.mpr ⟨List.mem_cons_self, rfl, by decide +kernel⟩)
      with ⟨_, result, found, _, name, _, rebound⟩
  have only : ∀ other ∈ [propsBinding], other.localName = propsBinding.localName →
      other = propsBinding :=
    fun other member _ => List.mem_singleton.mp member
  refine ⟨⟨result, found, (name only).1, rebound.mpr (.inr ⟨⟨false, rfl⟩, ?_, .inl rfl⟩)⟩, ?_⟩
  · decide +kernel
  · decide +kernel

private def iconCalledPropsOutput : String :=
  "import { Add as props } from 'icons'; (\x7b a: (props) => React.forwardRef((props, ref) => " ++
    "React.createElement(props, \x7b\n  ref,\n  size: 16,\n  ...props,\n\x7d)) \x7d)"

/-- After the transform no reference means the import any more, and none is reported as captured. -/
theorem import_shadowed_by_inserted_parameters :
    ∃ output result, transformSource iconCalledPropsSource (.keeping "icons") = .ok output ∧
      output.bindings = [⟨"Add16", "props", 16, 1, 0, 0⟩] ∧
      Program.parse .standard output.code = .ok result ∧
      ∀ reference ∈ (ScopeAnalysis.ofProgram result).references,
        reference.resolve (ScopeAnalysis.ofProgram result).scopes "props" ≠ .root := by
  have parsed : Program.parse .standard iconCalledPropsSource = .ok iconCalledProps := by
    decide +kernel
  have imports : iconCalledProps.importsOf (Options.keeping "icons").targetModule ≠ [] := by
    decide +kernel
  have chosen : iconCalledProps.chosenBindings (.keeping "icons") = .ok [propsBinding] := by rfl
  have applied : (iconCalledProps.plan iconCalledPropsSource.toList (.keeping "icons")
      [propsBinding]).apply iconCalledPropsSource = .ok iconCalledPropsOutput := by
    rw [Plan.apply_of_pairwise (by decide +kernel)]
    decide +kernel
  have shadowed : (Program.parse .standard iconCalledPropsOutput).toOption.any (fun result =>
      (ScopeAnalysis.ofProgram result).references.all fun reference =>
        reference.resolve (ScopeAnalysis.ofProgram result).scopes "props" != .root) = true := by
    decide +kernel
  cases reparsed : Program.parse .standard iconCalledPropsOutput with
  | error error => simp [reparsed, Except.toOption] at shadowed
  | ok result =>
      simp only [reparsed, Except.toOption, Option.any_some, List.all_eq_true, bne_iff_ne]
        at shadowed
      refine ⟨⟨iconCalledPropsOutput, true, _⟩, result, ?_, rfl, reparsed, shadowed⟩
      rw [transformSource, transformAs_of_parse parsed, transformProgram_eq_ok_iff imports]
      refine ⟨[propsBinding], result, chosen, applied, reparsed, ?_, ?_⟩
      · decide +kernel
      · decide +kernel

end IconSize
