import IconSize.Proofs.Edits.Confinement
import IconSize.Proofs.Scope.Mentions

/-!
When the edits of a transform overlap. In a module whose nodes nest, as those of every module that
was read do, what the transform owns does not overlap; so two edits collide only if two entries of
imports have the same local name and some reference means both of them.
-/

namespace IconSize
open Syntax

/-! ## Modules whose nodes nest -/

namespace Syntax

def ImportDeclaration.outline (declaration : ImportDeclaration) : Outline :=
  .parts (declaration.pieces.map .leaf)

def Node.pieces : Node → List Span
  | .importing declaration => declaration.pieces
  | _ => []

namespace Program

/-- The outline of a module, in which the imports keep the spans of their literals and entries. -/
def outline (program : Program) : Outline :=
  .parts (program.body.map fun
    | .importing declaration => declaration.outline
    | node => node.outline)

/-- The nodes of the module nest in the source without overlap between siblings, and the names that
refer to something are not empty. -/
structure IsWellSpanned (program : Program) (source : List Char) : Prop where
  fits : program.outline.Fits source ⟨0, Text.byteLength source⟩
  nonempty : ∀ reference ∈ (ScopeAnalysis.ofProgram program).references,
    reference.span.start < reference.span.stop

/-- All that an edit can cover: the literals and the entries of the imports of the target module,
and the references with the places that opening tags leave for attributes. -/
def editable (program : Program) (options : Options) : List Span :=
  (program.importsOf options.targetModule).map (·.literal)
    ++ (program.specifiers options).map (·.span)
    ++ (ScopeAnalysis.ofProgram program).references.flatMap Reference.stretches

end Program

theorem Program.stretches_outline (program : Program) :
    program.outline.stretches =
      program.body.flatMap fun node => node.pieces ++ node.outline.stretches := by
  rw [Program.outline, Outline.stretches]
  induction program.body with
  | nil => rfl
  | cons node others induction =>
      rw [List.map_cons, Outline.stretchesOfAll, induction, List.flatMap_cons]
      congr 1
      cases node with
      | importing declaration =>
          simp [ImportDeclaration.outline, Node.pieces, Node.outline, Outline.stretches,
            Outline.stretchesOfAll_leaves]
      | _ => rfl

theorem Program.sublist_pieces (program : Program) (target : String) :
    ((program.importsOf target).flatMap ImportDeclaration.pieces).Sublist
      (program.body.flatMap Node.pieces) := by
  rw [Program.importsOf]
  induction program.body with
  | nil => exact .slnil
  | cons node others induction =>
      rw [List.flatMap_cons]
      cases node with
      | importing declaration =>
          by_cases same : declaration.module = target
          · simp only [List.filterMap_cons, if_pos same, List.flatMap_cons]
            exact induction.append_left _
          · simp only [List.filterMap_cons, if_neg same]
            exact induction.trans (List.sublist_append_right _ _)
      | _ => exact induction

/-- What the transform can edit is a part of the stretches of the module. -/
theorem Program.subperm_editable (program : Program) (options : Options) :
    (program.editable options).Subperm program.outline.stretches := by
  have imports : ((program.importsOf options.targetModule).map (·.literal) ++
      (program.specifiers options).map (·.span)).Perm
      ((program.importsOf options.targetModule).flatMap ImportDeclaration.pieces) := by
    rw [Program.specifiers, List.map_flatMap, List.map_eq_flatMap]
    exact List.perm_append_comm.trans (List.flatMap_append_perm _ _ _)
  have all : (program.body.flatMap Node.pieces ++
      (ScopeAnalysis.ofProgram program).references.flatMap Reference.stretches).Perm
      program.outline.stretches := by
    rw [program.stretches_outline, ScopeAnalysis.stretches_references]
    exact List.flatMap_append_perm _ _ _
  refine .trans ?_ all.subperm
  refine .trans (imports.append_right _).subperm ?_
  exact ((program.sublist_pieces options.targetModule).append_right _).subperm

/-- The pieces of an import that stands at the top of a module are laid out as names are. -/
theorem Laid.of_asides {source : List Char} {low high : Nat} {spans : List Span}
    (laid : Laid source low (spans.map .aside) high) : Laid source low (spans.map .name) high := by
  induction spans generalizing low with
  | nil => exact laid
  | cons span spans induction =>
      rcases laid with ⟨stop, stands, laid⟩
      exact ⟨stop, stands, induction laid⟩

theorem Program.laid_outline {program : Program} {source : List Char} {low high : Nat}
    (laid : Laid source low program.marks high) :
    Laid source low program.outline.marks high := by
  rw [Program.outline, Outline.marks]
  rw [Program.marks] at laid
  generalize program.body = body at laid ⊢
  induction body generalizing low with
  | nil => exact laid
  | cons node others induction =>
      rcases Laid.append_iff.mp laid with ⟨middle, first, later⟩
      refine Laid.append ?_ (induction later)
      cases node with
      | importing declaration =>
          rw [Marked.marks_importing] at first
          have named : declaration.outline.marks = declaration.pieces.map .name :=
            Outline.marksOfAll_leaves _
          exact named ▸ first.of_asides
      | _ => exact first

/-- The nodes of a module that was read nest. -/
theorem Program.isWellSpanned_of_parse {program : Program} {dialect : Dialect} {source : String}
    (parsed : Program.parse dialect source = .ok program) :
    program.IsWellSpanned source.toList where
  fits := by
    have laid := Program.laid_outline (Program.laid_of_parse parsed)
    exact Outline.exists_fitAll_of_laid laid
  nonempty _ member := reference_filled_of_parse parsed member

namespace Program.IsWellSpanned

variable {program : Program} {source : List Char}

/-- What the transform can edit does not overlap. -/
theorem pairwise_editable (spanned : program.IsWellSpanned source) (options : Options) :
    (program.editable options).Pairwise Span.Apart := by
  rcases program.subperm_editable options with ⟨spans, same, part⟩
  exact (same.pairwise_iff Span.Apart.symm).mp
    ((Outline.pairwise_stretches spanned.fits).sublist part)

theorem liesIn_of_mem_editable (spanned : program.IsWellSpanned source) {options : Options}
    {span : Span} (member : span ∈ program.editable options) : span.LiesIn source :=
  (Outline.stretches_within spanned.fits span
    ((program.subperm_editable options).subset member)).1

end Program.IsWellSpanned
end Syntax

/-! ## The edits of a plan -/

section

variable {Element : Type}

theorem countP_le_one_iff {holds : Element → Bool} {elements : List Element} :
    elements.countP holds ≤ 1 ↔
      elements.Pairwise fun left right => holds left = true → holds right = false := by
  induction elements with
  | nil => simp
  | cons element others induction =>
      rw [List.countP_cons, List.pairwise_cons]
      cases first : holds element with
      | false => simpa using induction
      | true =>
          simp only [if_true, forall_const]
          constructor
          · intro single
            have none : others.countP holds = 0 := by omega
            have absent := List.countP_eq_zero.mp none
            exact ⟨fun other member => by simpa using absent other member,
              induction.mp (by omega)⟩
          · rintro ⟨absent, _⟩
            have none : others.countP holds = 0 :=
              List.countP_eq_zero.mpr fun other member => by simp [absent other member]
            omega

end

namespace ImportBinding

variable (binding : ImportBinding) (source : List Char) (options : Options)

theorem sublist_span_referenceEdits (reference : Reference) :
    ((binding.referenceEdits source options reference).map Edit.span).Sublist
      reference.stretches := by
  unfold referenceEdits Reference.stretches
  cases reference.usage with
  | tag insertAt =>
      simp only
      split
      · exact .refl _
      · exact .cons_cons _ (.cons _ .slnil)
  | _ => exact .refl _

theorem sublist_span_edits (analysis : ScopeAnalysis) :
    ((binding.edits source analysis options).map Edit.span).Sublist
      ((binding.renamedReferences analysis).flatMap Reference.stretches) := by
  rw [edits, List.map_flatMap]
  exact List.Sublist.flatMap_right _ fun reference _ =>
    binding.sublist_span_referenceEdits source options reference

theorem sublist_renamedReferences (analysis : ScopeAnalysis) :
    (binding.renamedReferences analysis).Sublist analysis.references :=
  List.filter_sublist.trans List.filter_sublist

end ImportBinding

namespace Syntax.Program

variable (program : Program) (source : List Char) (options : Options)

/-- Two entries of imports of the target module have the same local name, and some reference of
that name means an import. -/
def HasSharedReference : Prop :=
  let analysis := ScopeAnalysis.ofProgram program
  ∃ name, 2 ≤ (program.specifiers options).countP (·.binder.name == name) ∧
    ∃ reference ∈ analysis.references,
      reference.name = name ∧ reference.resolve analysis.scopes name = .root

variable {program source options} {bindings : List ImportBinding}

/-- An edit of a binding covers a stretch of a reference that means it. -/
theorem exists_reference_of_mem_edits {binding : ImportBinding} {edit : Edit}
    (member : edit ∈ binding.edits source (ScopeAnalysis.ofProgram program) options) :
    ∃ reference ∈ binding.renamedReferences (ScopeAnalysis.ofProgram program),
      edit.span ∈ reference.stretches :=
  List.mem_flatMap.mp
    ((binding.sublist_span_edits source options _).subset (List.mem_map_of_mem member))

theorem span_mem_stretches {binding : ImportBinding} {edit : Edit}
    (member : edit ∈ binding.edits source (ScopeAnalysis.ofProgram program) options) :
    edit.span ∈ (ScopeAnalysis.ofProgram program).references.flatMap Reference.stretches := by
  rcases exists_reference_of_mem_edits member with ⟨reference, refers, covered⟩
  exact List.mem_flatMap.mpr
    ⟨reference, (binding.sublist_renamedReferences _).subset refers, covered⟩

variable (program source options) in
theorem sublist_span_literalEdits :
    ((program.literalEdits source options).map Edit.span).Sublist
      ((program.importsOf options.targetModule).map (·.literal)) := by
  unfold literalEdits
  cases options.newModule with
  | none => exact List.nil_sublist _
  | some module => simp [Function.comp_def, moduleEdit, Edit.span]

/-- Edits of bindings that no reference means both do not overlap. -/
theorem apart_of_separate {left right : ImportBinding}
    (apart : ((ScopeAnalysis.ofProgram program).references.flatMap
      Reference.stretches).Pairwise Span.Apart)
    (separate : ∀ reference ∈ left.renamedReferences (ScopeAnalysis.ofProgram program),
      reference ∉ right.renamedReferences (ScopeAnalysis.ofProgram program))
    {first second : Edit}
    (firstMember : first ∈ left.edits source (ScopeAnalysis.ofProgram program) options)
    (secondMember : second ∈ right.edits source (ScopeAnalysis.ofProgram program) options) :
    first.Apart second := by
  rcases exists_reference_of_mem_edits firstMember with ⟨leftReference, leftRefers, leftCovered⟩
  rcases exists_reference_of_mem_edits secondMember with ⟨rightReference, rightRefers, rightCovered⟩
  have different : leftReference ≠ rightReference := by
    rintro rfl
    exact separate leftReference leftRefers rightRefers
  have symmetric : Std.Symm fun left right : Reference =>
      ∀ first ∈ left.stretches, ∀ second ∈ right.stretches, first.Apart second :=
    ⟨fun _ _ apart second secondMember first firstMember =>
      (apart first firstMember second secondMember).symm⟩
  exact (List.pairwise_flatMap.mp apart).2.forall
    ((left.sublist_renamedReferences _).subset leftRefers)
    ((right.sublist_renamedReferences _).subset rightRefers) different
    _ leftCovered _ rightCovered

section

variable (chosen : program.chosenBindings options = .ok bindings)

include chosen

theorem map_span_bindings :
    bindings.map (·.span) = (program.specifiers options).map (·.span) :=
  map_eq_of_forall₂ (forall₂_of_chosenBindings chosen) fun _ _ same => same.2

theorem countP_localName (name : String) :
    bindings.countP (·.localName == name) =
      (program.specifiers options).countP (·.binder.name == name) := by
  have names : bindings.map (·.localName) = (program.specifiers options).map (·.binder.name) :=
    map_eq_of_forall₂ (forall₂_of_chosenBindings chosen) fun _ _ same => same.1
  have counts := congrArg (List.countP (· == name)) names
  rwa [List.countP_map, List.countP_map] at counts

theorem span_mem_editable {edit : Edit}
    (member : edit ∈ (program.plan source options bindings).edits) :
    edit.span ∈ program.editable options := by
  rw [edits_plan] at member
  rcases List.mem_append.mp member with literal | other
  · exact List.mem_append_left _ (List.mem_append_left _
      ((program.sublist_span_literalEdits source options).subset (List.mem_map_of_mem literal)))
  · rcases List.mem_flatMap.mp other with ⟨binding, bound, member⟩
    rcases List.mem_cons.mp member with rfl | member
    · have entry : binding.span ∈ (program.specifiers options).map (·.span) :=
        map_span_bindings chosen ▸ List.mem_map_of_mem bound
      exact List.mem_append_left _ (List.mem_append_right _ entry)
    · exact List.mem_append_right _ (span_mem_stretches member)

/-- Where no name is shared, no reference means two bindings. -/
theorem pairwise_renamedReferences (unshared : ¬ program.HasSharedReference options) :
    bindings.Pairwise fun left right =>
      ∀ reference ∈ left.renamedReferences (ScopeAnalysis.ofProgram program),
        reference ∉ right.renamedReferences (ScopeAnalysis.ofProgram program) := by
  have single (name : String) (used : ∃ reference ∈ (ScopeAnalysis.ofProgram program).references,
      reference.name = name ∧
        reference.resolve (ScopeAnalysis.ofProgram program).scopes name = .root) :
      bindings.countP (·.localName == name) ≤ 1 := by
    rw [countP_localName chosen]
    exact Nat.le_of_lt_succ (Nat.lt_of_not_le fun shared => unshared ⟨name, shared, used⟩)
  rw [List.pairwise_iff_forall_sublist]
  intro left right pair reference leftRefers rightRefers
  rcases ImportBinding.mem_renamedReferences.mp leftRefers with ⟨member, leftNamed, root⟩
  rcases ImportBinding.mem_renamedReferences.mp rightRefers with ⟨_, rightNamed, _⟩
  have count := pair.countP_le (p := (·.localName == left.localName))
  have := single left.localName ⟨reference, member, leftNamed, root⟩
  have both : [left, right].countP (·.localName == left.localName) = 2 := by
    simp [← leftNamed, ← rightNamed]
  omega

/-- Where no name is shared, the edits of the plan do not overlap. -/
theorem pairwise_apart_of_unshared (spanned : program.IsWellSpanned source)
    (unshared : ¬ program.HasSharedReference options) :
    (program.plan source options bindings).edits.Pairwise Edit.Apart := by
  have editable := spanned.pairwise_editable options
  rw [Program.editable, ← map_span_bindings chosen, List.pairwise_append,
    List.pairwise_append] at editable
  rcases editable with ⟨⟨literals, entries, literalEntry⟩, references, importReference⟩
  have literalSpan {edit : Edit} (member : edit ∈ program.literalEdits source options) :
      edit.span ∈ (program.importsOf options.targetModule).map (·.literal) :=
    (program.sublist_span_literalEdits source options).subset (List.mem_map_of_mem member)
  have entrySpan {binding : ImportBinding} (bound : binding ∈ bindings) :
      binding.span ∈ bindings.map (·.span) := List.mem_map_of_mem bound
  rw [edits_plan, List.pairwise_append, List.pairwise_flatMap]
  refine ⟨?literal, ⟨?each, ?across⟩, ?other⟩
  case literal =>
    rw [Edit.pairwise_apart_iff_span]
    exact literals.sublist (program.sublist_span_literalEdits source options)
  case each =>
    intro binding bound
    refine List.pairwise_cons.mpr ⟨fun edit member => ?_, ?_⟩
    · exact importReference _ (List.mem_append_right _ (entrySpan bound)) _
        (span_mem_stretches member)
    · rw [Edit.pairwise_apart_iff_span]
      refine references.sublist ?_
      exact (binding.sublist_span_edits source options _).trans
        ((binding.sublist_renamedReferences _).flatMap _)
  case across =>
    refine ((List.pairwise_map.mp entries).and
      (pairwise_renamedReferences chosen unshared)).imp_of_mem ?_
    intro left right leftBound rightBound ⟨entryEntry, separate⟩
      first firstMember second secondMember
    -- Either edit is the one of an entry or covers a stretch of a reference.
    rcases List.mem_cons.mp firstMember with rfl | firstMember <;>
      rcases List.mem_cons.mp secondMember with rfl | secondMember
    · exact entryEntry
    · exact importReference _ (List.mem_append_right _ (entrySpan leftBound)) _
        (span_mem_stretches secondMember)
    · exact (importReference _ (List.mem_append_right _ (entrySpan rightBound)) _
        (span_mem_stretches firstMember)).symm
    · exact apart_of_separate references separate firstMember secondMember
  case other =>
    intro literal literalMember edit member
    rcases List.mem_flatMap.mp member with ⟨binding, bound, member⟩
    rcases List.mem_cons.mp member with rfl | member
    · exact literalEntry _ (literalSpan literalMember) _ (entrySpan bound)
    · exact importReference _ (List.mem_append_left _ (literalSpan literalMember)) _
        (span_mem_stretches member)

/-- A reference that means two entries is edited twice. -/
theorem not_pairwise_apart_of_shared (spanned : program.IsWellSpanned source)
    (shared : program.HasSharedReference options) :
    ¬ (program.plan source options bindings).edits.Pairwise Edit.Apart := by
  rcases shared with ⟨name, twice, reference, member, named, root⟩
  rw [← countP_localName chosen] at twice
  intro apart
  rw [edits_plan, List.pairwise_append, List.pairwise_flatMap] at apart
  rcases apart with ⟨_, ⟨_, apart⟩, _⟩
  have nonempty := spanned.nonempty reference member
  have once : bindings.countP (·.localName == name) ≤ 1 := by
    refine countP_le_one_iff.mpr (apart.imp ?_)
    intro left right separate leftNamed
    by_contra rightNamed
    simp only [Bool.not_eq_false, beq_iff_eq] at leftNamed rightNamed
    have edited {binding : ImportBinding} (bound : binding.localName = name) :
        binding.replacementEdit source options reference ∈
          binding.edits source (ScopeAnalysis.ofProgram program) options := by
      refine List.mem_flatMap.mpr ⟨reference, ImportBinding.mem_renamedReferences.mpr
        ⟨member, named.trans bound.symm, bound ▸ root⟩, ?_⟩
      rw [ImportBinding.referenceEdits_eq]
      exact List.mem_cons_self
    have := separate _ (List.mem_cons_of_mem _ (edited leftNamed)) _
      (List.mem_cons_of_mem _ (edited rightNamed))
    simp only [Edit.Apart, Span.Apart, Edit.span, ImportBinding.replacementEdit] at this
    omega
  omega

end

end Syntax.Program
namespace Syntax.Program

variable {program : Program} {options : Options}

theorem not_hasSharedReference_of_nodup
    (different : ((program.specifiers options).map (·.binder.name)).Nodup) :
    ¬ program.HasSharedReference options := by
  rintro ⟨name, twice, _⟩
  have once : (program.specifiers options).countP (·.binder.name == name) ≤ 1 := by
    refine countP_le_one_iff.mpr ((List.pairwise_map.mp different).imp ?_)
    intro left right different leftNamed
    simp only [beq_iff_eq] at leftNamed
    simpa using fun rightNamed => different (leftNamed.trans rightNamed.symm)
  omega

theorem not_hasSharedReference_of_no_imports
    (none : program.importsOf options.targetModule = []) :
    ¬ program.HasSharedReference options := by
  apply not_hasSharedReference_of_nodup
  simp [specifiers, none]

end Syntax.Program

/-- In a module whose imports of icons are named by the convention, the edits of the transform
overlap exactly if two entries share a local name that some reference uses for
them. They never divide a character, and if all local names are different, they can be applied. -/
theorem transform_overlaps_iff_reference_shared
    (dialect : Dialect) (path source : String) (options : Options) (program : Program)
    (parsed : Program.parse dialect source = .ok program)
    (wellNamed : ∀ specifier ∈ program.specifiers options, ∃ icon,
      IconName.decompose specifier.imported.name = .ok icon) :
    ((∃ start stop,
        transformAs dialect path source options = .error (.plan (.overlap start stop))) ↔
      program.HasSharedReference options) ∧
    transformAs dialect path source options ≠ .error (.plan .insideCharacter) ∧
    (((program.specifiers options).map (·.binder.name)).Nodup →
      ∃ bindings code, program.chosenBindings options = .ok bindings ∧
        (program.plan source.toList options bindings).apply source = .ok code) := by
  have spanned := Program.isWellSpanned_of_parse parsed
  obtain ⟨bindings, chosen⟩ : ∃ bindings, program.chosenBindings options = .ok bindings :=
    NameChoice.exists_bindAll_eq_ok wellNamed _
  have lie : ∀ edit ∈ (program.plan source.toList options bindings).edits,
      edit.LiesIn source.toList := fun edit member =>
    spanned.liesIn_of_mem_editable (Program.span_mem_editable chosen member)
  have shared_iff : ¬ (program.plan source.toList options bindings).edits.Pairwise Edit.Apart ↔
      program.HasSharedReference options := by
    refine ⟨fun overlap => ?_, Program.not_pairwise_apart_of_shared chosen spanned⟩
    by_contra unshared
    exact overlap (Program.pairwise_apart_of_unshared chosen spanned unshared)
  have applicable (different : ((program.specifiers options).map (·.binder.name)).Nodup) :
      ∃ bindings code, program.chosenBindings options = .ok bindings ∧
        (program.plan source.toList options bindings).apply source = .ok code := by
    have unshared := Program.not_hasSharedReference_of_nodup different
    rcases (Plan.exists_apply_eq_ok_iff lie).mpr
      (Program.pairwise_apart_of_unshared chosen spanned unshared) with ⟨code, applied⟩
    exact ⟨bindings, code, chosen, applied⟩
  rw [transformAs_of_parse parsed]
  by_cases imports : program.importsOf options.targetModule = []
  · rw [transformProgram_of_no_imports imports]
    refine ⟨?_, by simp, applicable⟩
    simpa using Program.not_hasSharedReference_of_no_imports imports
  · simp only [transformProgram_eq_plan_iff imports chosen, ne_eq]
    refine ⟨?_, Plan.apply_ne_insideCharacter lie, applicable⟩
    rw [Plan.exists_apply_eq_overlap_iff lie, shared_iff]

private def iconsWithOneNameSource : String :=
  "import \x7b A16 as X, B16 as X \x7d from 'icons'; <X/>"

/-- A module that imports two icons under one name and uses it. -/
private def iconsWithOneName : Program :=
  let first : ImportSpecifier := ⟨⟨"A16", ⟨9, 12⟩, false⟩, ⟨"X", ⟨16, 17⟩⟩, false, ⟨9, 17⟩⟩
  let second : ImportSpecifier := ⟨⟨"B16", ⟨19, 22⟩, false⟩, ⟨"X", ⟨26, 27⟩⟩, false, ⟨19, 27⟩⟩
  ⟨[.importing ⟨[.named first, .named second], "icons", ⟨35, 42⟩⟩,
    .group .expressionStatement [.element (.reference ⟨"X", ⟨45, 46⟩⟩) [] 46 [] [] none]]⟩

/-- Two icons under one name cannot be renamed. -/
theorem icons_with_one_name_overlap :
    ∃ start stop, transformAs .standard "<input>" iconsWithOneNameSource (.keeping "icons") =
      .error (.plan (.overlap start stop)) := by
  have parsed : Program.parse .standard iconsWithOneNameSource = .ok iconsWithOneName := by
    decide +kernel
  have wellNamed : ∀ specifier ∈ iconsWithOneName.specifiers (.keeping "icons"), ∃ icon,
      IconName.decompose specifier.imported.name = .ok icon := by
    intro specifier member
    have named : ∀ specifier ∈ iconsWithOneName.specifiers (.keeping "icons"),
        (IconName.decompose specifier.imported.name).isOk = true := by decide +kernel
    exact exists_eq_ok (named specifier member)
  have shared : iconsWithOneName.HasSharedReference (.keeping "icons") :=
    ⟨"X", by decide +kernel, _, List.mem_cons_self, rfl, by decide +kernel⟩
  exact (transform_overlaps_iff_reference_shared .standard "<input>" iconsWithOneNameSource
    (.keeping "icons") iconsWithOneName parsed wellNamed).1.mpr shared

end IconSize
