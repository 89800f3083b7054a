import IconSize.Proofs.Edits.Overlap

/-!
The order in which bindings are renamed. Renaming goes through the references of one binding after
the other; what it plans and counts for a binding depends on nothing planned before. Names that
share no place in the source give edits that the order of the source tells apart, so that bindings
in any order give the same text and the same reports.
-/

namespace IconSize
open Syntax

/-! ## Renaming step by step -/

/-- Renaming under way: the edits planned so far, and what became of the references of the binding
at hand. -/
structure Renamer where
  plan : Plan
  renamed : Nat
  skipped : Nat
  captured : Nat

namespace Renamer

variable (source : List Char) (analysis : ScopeAnalysis) (options : Options)

/-- Deal with a reference that has the local name of the binding. -/
def take (binding : ImportBinding) (renamer : Renamer) (reference : Reference) : Renamer :=
  if binding.isReferredBy analysis.scopes reference then
    { plan := renamer.plan.addAll (binding.referenceEdits source options reference)
      renamed := renamer.renamed + 1
      skipped := renamer.skipped
      captured :=
        if binding.isCaptured analysis.scopes reference then renamer.captured + 1
        else renamer.captured }
  else { renamer with skipped := renamer.skipped + 1 }

/-- Rename the references of a binding one after the other. -/
def rename (plan : Plan) (binding : ImportBinding) : Plan × BindingReport :=
  let last := (analysis.referencesTo binding.localName).foldl
    (take source analysis options binding) ⟨plan, 0, 0, 0⟩
  (last.plan, ⟨binding.imported, binding.replacement, binding.size, last.renamed, last.skipped,
    last.captured⟩)

/-- Rename bindings one after the other. -/
def renameAll (plan : Plan) :
    List ImportBinding → Plan × List (ImportBinding × BindingReport)
  | [] => (plan, [])
  | binding :: rest =>
    let (planned, report) := rename source analysis options plan binding
    let (last, reports) := renameAll planned rest
    (last, (binding, report) :: reports)

variable {source analysis options}

theorem foldl_take (binding : ImportBinding) (references : List Reference) (renamer : Renamer) :
    let found := references.filter (binding.isReferredBy analysis.scopes)
    references.foldl (take source analysis options binding) renamer =
      ⟨renamer.plan.addAll (found.flatMap (binding.referenceEdits source options)),
        renamer.renamed + found.length,
        renamer.skipped + (references.length - found.length),
        renamer.captured + found.countP (binding.isCaptured analysis.scopes)⟩ := by
  induction references generalizing renamer with
  | nil => simp [Plan.addAll]
  | cons reference references induction =>
      have fewer : (references.filter (binding.isReferredBy analysis.scopes)).length ≤
          references.length := List.length_filter_le _ _
      rw [List.foldl_cons, induction]
      by_cases referred : binding.isReferredBy analysis.scopes reference = true
      · rw [take, if_pos referred, List.filter_cons_of_pos referred]
        simp only [Plan.addAll, List.flatMap_cons, List.append_assoc, List.length_cons,
          List.countP_cons, Renamer.mk.injEq, true_and]
        refine ⟨by omega, by omega, ?_⟩
        split <;> omega
      · rw [take, if_neg referred, List.filter_cons_of_neg referred]
        simp only [List.length_cons, Renamer.mk.injEq, true_and, and_true]
        omega

/-- What renaming a binding plans and counts does not depend on what is planned already. -/
theorem rename_eq (plan : Plan) (binding : ImportBinding) :
    rename source analysis options plan binding =
      (plan.addAll (binding.edits source analysis options), binding.report analysis) := by
  rw [rename, foldl_take]
  simp only [Nat.zero_add]
  rfl

theorem renameAll_eq (plan : Plan) (bindings : List ImportBinding) :
    renameAll source analysis options plan bindings =
      (plan.addAll (bindings.flatMap fun binding => binding.edits source analysis options),
        bindings.map fun binding => (binding, binding.report analysis)) := by
  induction bindings generalizing plan with
  | nil => simp [renameAll, Plan.addAll]
  | cons binding bindings induction =>
      simp only [renameAll, rename_eq, induction, Plan.addAll, List.flatMap_cons, List.append_assoc,
        List.map_cons]

end Renamer

/-! ## Plans with the same edits -/

/-- Plans with the same edits do the same, if no two of these have the same span. -/
theorem Plan.apply_eq_of_perm {left right : Plan} (permuted : left.edits.Perm right.edits)
    (different : (right.edits.map Edit.span).Nodup) (source : String) :
    left.apply source = right.apply source := by
  have inOrder : right.ordered.Pairwise fun first second =>
      first.isBefore second = true ∧ second.isBefore first = false := by
    have spans : right.ordered.Pairwise fun first second => first.span ≠ second.span :=
      List.pairwise_map.mp ((right.ordered_perm.map Edit.span).nodup_iff.mpr different)
    refine (right.pairwise_ordered.and spans).imp fun {first second} ⟨before, apart⟩ => ?_
    refine ⟨before, Bool.eq_false_iff.mpr fun after => apart ?_⟩
    rw [Edit.isBefore_iff] at before after
    simp only [Edit.span, Span.mk.injEq]
    omega
  have same : left.ordered = right.ordered :=
    Plan.ordered_of_perm (right.ordered_perm.trans permuted.symm) inOrder
  rw [apply, apply, same]

/-! ## References of different names -/

/-- Bindings with different local names share no reference. -/
theorem subperm_renamedReferences (analysis : ScopeAnalysis) {bindings : List ImportBinding}
    (different : (bindings.map (·.localName)).Nodup) :
    (bindings.flatMap (·.renamedReferences analysis)).Subperm analysis.references := by
  -- What is left for the later bindings are the references that do not have the first name.
  have general (references : List Reference) :
      (bindings.flatMap fun binding => (references.filter (·.name == binding.localName)).filter
        (binding.isReferredBy analysis.scopes)).Subperm references := by
    induction bindings generalizing references with
    | nil => exact List.nil_subperm
    | cons binding bindings induction =>
        rw [List.map_cons, List.nodup_cons] at different
        rw [List.flatMap_cons]
        have others : (bindings.flatMap fun other =>
            (references.filter (·.name == other.localName)).filter
              (other.isReferredBy analysis.scopes)) =
            bindings.flatMap fun other =>
              ((references.filter fun reference => !(reference.name == binding.localName)).filter
                (·.name == other.localName)).filter (other.isReferredBy analysis.scopes) := by
          refine List.flatMap_congr fun other member => ?_
          have apart : other.localName ≠ binding.localName := fun same =>
            different.1 (same ▸ List.mem_map_of_mem member)
          simp only [List.filter_filter]
          refine List.filter_congr fun reference _ => ?_
          by_cases named : reference.name = other.localName
          · simp [named, apart]
          · simp [beq_false_of_ne named]
        have divided := List.filter_append_perm (·.name == binding.localName) references
        rw [others]
        exact (List.filter_sublist.subperm.append (induction different.2 _)).trans divided.subperm
  exact general analysis.references

namespace Syntax.Program

/-- Names that refer to something are not empty and share no place in the source, and opening tags
share no place for attributes. -/
structure SeparatesNames (program : Program) : Prop where
  nonempty : ∀ reference ∈ (ScopeAnalysis.ofProgram program).references,
    reference.span.start < reference.span.stop
  apart : (ScopeAnalysis.ofProgram program).references.Pairwise fun left right =>
    left.span.Apart right.span
  tags : (ScopeAnalysis.ofProgram program).references.Pairwise fun left right =>
    ∀ offset, left.usage = .tag offset → right.usage ≠ .tag offset

variable {program : Program}

/-- The names of a module that was read share no place. -/
theorem separatesNames_of_parse {dialect : Dialect} {source : String}
    (parsed : Program.parse dialect source = .ok program) : program.SeparatesNames where
  nonempty _ member := reference_filled_of_parse parsed member
  apart := (pairwise_references_of_parse parsed).imp .inl
  tags := by
    have disjoint := (List.nodup_flatMap.mp (nodup_stretches_of_parse parsed)).2
    refine disjoint.imp fun {left right} disjoint offset leftTagged rightTagged => ?_
    have first : ⟨offset, offset⟩ ∈ left.stretches := by simp [Reference.stretches, leftTagged]
    have second : ⟨offset, offset⟩ ∈ right.stretches := by
      simp [Reference.stretches, rightTagged]
    exact disjoint first second

/-- No two stretches of references are the same. -/
theorem SeparatesNames.nodup_stretches (separate : program.SeparatesNames) :
    ((ScopeAnalysis.ofProgram program).references.flatMap Reference.stretches).Nodup := by
  have covered {reference : Reference} {span : Span} (member : span ∈ reference.stretches) :
      span = reference.span ∨
        ∃ offset, reference.usage = .tag offset ∧ span = ⟨offset, offset⟩ := by
    rw [Reference.stretches, List.mem_cons] at member
    cases usage : reference.usage <;> simp_all
  rw [List.nodup_flatMap]
  constructor
  · intro reference member
    have nonempty := separate.nonempty reference member
    rw [Reference.stretches]
    cases reference.usage with
    | tag insertAt =>
        refine List.nodup_cons.mpr ⟨fun same => ?_, List.nodup_singleton _⟩
        rw [List.mem_singleton.mp same] at nonempty
        exact Nat.lt_irrefl _ nonempty
    | _ => exact List.nodup_singleton _
  · refine (separate.apart.and separate.tags).imp_of_mem ?_
    rintro left right leftMember rightMember ⟨apart, tags⟩ span leftCovered rightCovered
    have leftNonempty := separate.nonempty left leftMember
    have rightNonempty := separate.nonempty right rightMember
    -- A name is not empty and the place for attributes is, so that only equals can meet.
    rcases covered leftCovered with rfl | ⟨offset, tagged, rfl⟩ <;>
      rcases covered rightCovered with same | ⟨other, otherTagged, same⟩
    · rw [← same, Span.Apart] at apart
      omega
    · rw [same] at leftNonempty
      exact Nat.lt_irrefl _ leftNonempty
    · rw [← same] at rightNonempty
      exact Nat.lt_irrefl _ rightNonempty
    · obtain rfl : offset = other := congrArg Span.start same
      exact tags offset tagged otherTagged

variable {source : List Char} {options : Options} {bindings : List ImportBinding}

/-- The edits of bindings with different local names cover stretches of references, each at most
once. -/
theorem subperm_span_edits (different : (bindings.map (·.localName)).Nodup) :
    ((bindings.flatMap fun binding =>
      binding.edits source (ScopeAnalysis.ofProgram program) options).map Edit.span).Subperm
      ((ScopeAnalysis.ofProgram program).references.flatMap Reference.stretches) := by
  have each : ((bindings.flatMap fun binding =>
      binding.edits source (ScopeAnalysis.ofProgram program) options).map Edit.span).Sublist
      ((bindings.flatMap (·.renamedReferences (ScopeAnalysis.ofProgram program))).flatMap
        Reference.stretches) := by
    rw [List.map_flatMap, List.flatMap_assoc]
    exact List.Sublist.flatMap_right _ fun binding _ =>
      binding.sublist_span_edits source options _
  rcases subperm_renamedReferences (ScopeAnalysis.ofProgram program) different with
    ⟨references, same, part⟩
  exact each.subperm.trans
    ((same.flatMap_right Reference.stretches).symm.subperm.trans (part.flatMap _).subperm)

end Syntax.Program

/-- Bindings with different local names can be renamed in any order: the text is the same, and each
of them gets the same report. In a module whose nodes nest there is a text. -/
theorem renaming_order_irrelevant (program : Program) (source : String) (options : Options)
    (bindings permuted : List ImportBinding)
    (different : (bindings.map (·.localName)).Nodup) (permutation : permuted.Perm bindings)
    (separate : program.SeparatesNames) :
    let analysis := ScopeAnalysis.ofProgram program
    let rename := Renamer.renameAll source.toList analysis options .empty
    (rename permuted).1.apply source = (rename bindings).1.apply source ∧
      (rename bindings).2.map Prod.fst = bindings ∧
      (rename permuted).2.Perm (rename bindings).2 ∧
      (program.IsWellSpanned source.toList →
        ∃ code, (rename bindings).1.apply source = .ok code) := by
  intro analysis rename
  have covered : (((rename bindings).1.edits).map Edit.span).Subperm
      (analysis.references.flatMap Reference.stretches) := by
    simp only [rename, Renamer.renameAll_eq, Plan.addAll, Plan.empty, List.nil_append]
    exact Program.subperm_span_edits different
  refine ⟨?text, ?all, ?reports, fun spanned => ?applicable⟩
  case text =>
    refine Plan.apply_eq_of_perm ?_ ?_ source
    · simp only [rename, Renamer.renameAll_eq]
      exact permutation.flatMap_right _
    · rcases covered with ⟨spans, same, part⟩
      exact same.nodup_iff.mp (separate.nodup_stretches.sublist part)
  case all =>
    simp [rename, Renamer.renameAll_eq, Function.comp_def]
  case reports =>
    simp only [rename, Renamer.renameAll_eq]
    exact permutation.map _
  case applicable =>
    have editable : (analysis.references.flatMap Reference.stretches).Pairwise Span.Apart :=
      (List.pairwise_append.mp (spanned.pairwise_editable options)).2.1
    refine (Plan.exists_apply_eq_ok_iff fun edit member => ?_).mpr ?_
    · have owned : edit.span ∈ program.editable options :=
        List.mem_append_right _ (covered.subset (List.mem_map_of_mem member))
      exact spanned.liesIn_of_mem_editable owned
    · rcases covered with ⟨spans, same, part⟩
      exact (Edit.pairwise_apart_iff_span _).mpr
        ((same.pairwise_iff Span.Apart.symm).mp (editable.sublist part))

private def twoIconsSource : String := "f(A16); <B16/>"

/-- A module that uses two icons, the one as a value and the other as an element. -/
private def twoIcons : Program := .ofSource .standard twoIconsSource

/-- The later of two icons can be renamed first. -/
theorem two_icons_renamed_in_either_order :
    let first : ImportBinding := ⟨"A16", "A16", "A", 16, "A", false, false, ⟨0, 0⟩⟩
    let second : ImportBinding := ⟨"B16", "B16", "B", 16, "B", false, false, ⟨0, 0⟩⟩
    let rename := Renamer.renameAll twoIconsSource.toList (ScopeAnalysis.ofProgram twoIcons)
      .standard .empty
    Program.parse .standard twoIconsSource = .ok twoIcons ∧
      (rename [second, first]).1.edits ≠ (rename [first, second]).1.edits ∧
      (rename [second, first]).1.apply twoIconsSource = .ok "f(A); <B size=\x7b16\x7d/>" ∧
      (rename [second, first]).2.Perm (rename [first, second]).2 := by
  intro first second rename
  have parsed : Program.parse .standard twoIconsSource = .ok twoIcons :=
    Program.parse_eq_ofSource (by decide +kernel)
  rcases renaming_order_irrelevant twoIcons twoIconsSource .standard [first, second]
    [second, first] (by decide +kernel) (List.Perm.swap first second [])
    (Program.separatesNames_of_parse parsed) with ⟨same, _, reports, _⟩
  refine ⟨parsed, by decide +kernel, ?_, reports⟩
  rw [same, Plan.apply_of_pairwise (by decide +kernel)]
  decide +kernel

end IconSize
