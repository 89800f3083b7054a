import IconSize.Proofs.Edits.Splicing
import Mathlib.Data.List.Perm.Subperm

/-!
Which plans are rejected. Applying a plan looks at its edits one by one in the order of the source;
it stops exactly if some edit does not lie in the source or two of them overlap, wherever they stand
in the plan. Edits that only touch each other do not overlap.
-/

namespace IconSize
open Syntax Text

namespace Edit

/-- The edit replaces the byte at the offset. -/
def Covers (edit : Edit) (offset : Nat) : Prop := edit.start ≤ offset ∧ offset < edit.stop

/-- The edit inserts at the beginning or at the end of the other one. -/
def Touches (edit other : Edit) : Prop :=
  edit.span = ⟨other.start, other.start⟩ ∨ edit.span = ⟨other.stop, other.stop⟩

theorem not_apart_of_covers {left right : Edit} {offset : Nat} (inLeft : left.Covers offset)
    (inRight : right.Covers offset) : ¬ left.Apart right := by
  unfold Covers at inLeft inRight
  simp only [Apart, Span.Apart, span]
  omega

theorem not_apart_of_inside {insertion replacement : Edit}
    (empty : insertion.start = insertion.stop) (after : replacement.start < insertion.start)
    (before : insertion.start < replacement.stop) : ¬ insertion.Apart replacement := by
  simp only [Apart, Span.Apart, span]
  omega

theorem Touches.apart {insertion replacement : Edit} (touches : insertion.Touches replacement) :
    replacement.Apart insertion := by
  simp only [Touches, span, Span.mk.injEq] at touches
  simp only [Apart, Span.Apart, span]
  omega

/-- Insertions that touch one edit do not overlap each other. -/
theorem Touches.apart_touches {left right replacement : Edit}
    (ordered : replacement.start ≤ replacement.stop) (leftTouches : left.Touches replacement)
    (rightTouches : right.Touches replacement) : left.Apart right := by
  simp only [Touches, span, Span.mk.injEq] at leftTouches rightTouches
  simp only [Apart, Span.Apart, span]
  omega

end Edit

/-- No edit of a splice ends after the end of the source. -/
theorem Spliced.stop_le {cursor : Nat} {rest result : List Char} {edits : List Edit}
    (spliced : Spliced cursor rest edits result) :
    ∀ edit ∈ edits, edit.stop ≤ cursor + byteLength rest := by
  induction spliced with
  | done => simp
  | edit start stop _ induction =>
      intro other member
      simp only [byteLength_append]
      rcases List.mem_cons.mp member with rfl | later
      · omega
      · have := induction other later
        omega

namespace Plan

variable {plan : Plan} {source : String}

/-- Where an edit begins or ends in the source, it divides no character. -/
def DividesNoCharacter (plan : Plan) (source : List Char) : Prop :=
  ∀ edit ∈ plan.edits, ∀ offset, offset = edit.start ∨ offset = edit.stop →
    offset ≤ byteLength source → IsBoundary source offset

/-- Some edit does not lie in a source of this length, or two edits at different places of the plan
overlap. -/
def HasConflict (plan : Plan) (length : Nat) : Prop :=
  (∃ edit ∈ plan.edits, edit.stop < edit.start ∨ length < edit.stop) ∨
    ∃ first second, [first, second].Sublist plan.edits ∧
      ¬ (first.stop ≤ second.start ∨ second.stop ≤ first.start)

theorem not_hasConflict_iff {length : Nat} : ¬ plan.HasConflict length ↔
    (∀ edit ∈ plan.edits, edit.start ≤ edit.stop ∧ edit.stop ≤ length) ∧
      plan.edits.Pairwise Edit.Apart := by
  rw [HasConflict, not_or, List.pairwise_iff_forall_sublist]
  refine and_congr ?_ ?_
  · simp only [not_exists, not_and, not_or, Nat.not_lt]
  · constructor
    · intro free first second part
      by_contra overlap
      exact free ⟨first, second, part, overlap⟩
    · rintro apart ⟨first, second, part, overlap⟩
      exact overlap (apart part)

/-- Two edits that are not apart are a conflict, in whatever order they are planned. -/
theorem hasConflict_of_subperm {length : Nat} {first second : Edit}
    (both : [first, second].Subperm plan.edits) (overlap : ¬ first.Apart second) :
    plan.HasConflict length := by
  by_contra free
  rcases both with ⟨pair, permuted, part⟩
  have apart := (not_hasConflict_iff.mp free).2.sublist part
  rw [permuted.pairwise_iff Edit.Apart.symm, List.pairwise_pair] at apart
  exact overlap apart

section

variable (divides : plan.DividesNoCharacter source.toList)

include divides

theorem DividesNoCharacter.liesIn {edit : Edit} (member : edit ∈ plan.edits)
    (ordered : edit.start ≤ edit.stop) (inside : edit.stop ≤ byteLength source.toList) :
    edit.LiesIn source.toList :=
  ⟨ordered, divides edit member _ (.inl rfl) (Nat.le_trans ordered inside),
    divides edit member _ (.inr rfl) inside⟩

/-- A plan can be applied exactly if it has no conflict. -/
theorem exists_apply_eq_ok_iff_not_hasConflict :
    (∃ code, plan.apply source = .ok code) ↔ ¬ plan.HasConflict (byteLength source.toList) := by
  rw [not_hasConflict_iff]
  constructor
  · rintro ⟨code, applied⟩
    have spliced := apply_eq_ok_iff.mp applied
    refine ⟨fun edit member => ?_, ?_⟩
    · have ordered := plan.ordered_perm.mem_iff.mpr member
      have inside := spliced.stop_le edit ordered
      exact ⟨(spliced.bounds edit ordered).2, by omega⟩
    · rw [← plan.ordered_perm.pairwise_iff Edit.Apart.symm]
      exact spliced.pairwise.imp .inl
  · rintro ⟨inside, apart⟩
    exact (exists_apply_eq_ok_iff fun edit member =>
      divides.liesIn member (inside edit member).1 (inside edit member).2).mpr apart

/-- A plan that cannot be applied is rejected for an edit that overlaps or lies outside. -/
theorem exists_overlap_iff_not_applied :
    (∃ start stop, plan.apply source = .error (.overlap start stop)) ↔
      ¬ ∃ code, plan.apply source = .ok code := by
  have characters : plan.apply source ≠ .error .insideCharacter := by
    rw [Ne, apply, map_eq_error_iff]
    exact splice_ne_insideCharacter [] source.toList fun edit member ordered inside =>
      divides.liesIn (plan.ordered_perm.mem_iff.mp member) ordered inside
  cases applied : plan.apply source with
  | ok code => simp
  | error fault =>
      cases fault with
      | overlap start stop => simp
      | insideCharacter => exact absurd applied characters

end

/-- Insertions at the boundaries of an edit that lies in the source are no conflict with it or with
each other. -/
theorem not_hasConflict_of_touches {length : Nat} {replacement : Edit} {insertions : List Edit}
    (permuted : plan.edits.Perm (replacement :: insertions))
    (ordered : replacement.start ≤ replacement.stop) (inside : replacement.stop ≤ length)
    (touch : ∀ insertion ∈ insertions, insertion.Touches replacement) :
    ¬ plan.HasConflict length := by
  rw [not_hasConflict_iff, permuted.pairwise_iff Edit.Apart.symm]
  refine ⟨fun edit member => ?_, ?_⟩
  · rcases List.mem_cons.mp (permuted.mem_iff.mp member) with rfl | member
    · exact ⟨ordered, inside⟩
    · have touches := touch edit member
      simp only [Edit.Touches, Edit.span, Span.mk.injEq] at touches
      omega
  · refine List.pairwise_cons.mpr ⟨fun insertion member => (touch insertion member).apart, ?_⟩
    refine List.pairwise_of_forall_mem_list ?_
    intro left leftMember right rightMember
    exact Edit.Touches.apart_touches ordered (touch left leftMember) (touch right rightMember)

end Plan

/-- A plan whose edits divide no character is rejected exactly if one of its edits does not lie in
the source or two of them overlap, and can be applied otherwise. So any number of insertions at one
offset or at the boundaries of a replacement are accepted; two replacements of one byte and an
insertion inside a replacement are not. -/
theorem plan_rejected_iff_conflict (plan : Plan) (source : String)
    (divides : plan.DividesNoCharacter source.toList) :
    let length := byteLength source.toList
    let rejected := ∃ start stop, plan.apply source = .error (.overlap start stop)
    let accepted := ∃ code, plan.apply source = .ok code
    (rejected ↔ plan.HasConflict length) ∧ (accepted ↔ ¬ plan.HasConflict length) ∧
      (∀ offset ≤ length, (∀ edit ∈ plan.edits, edit.span = ⟨offset, offset⟩) → accepted) ∧
      (∀ replacement insertions, plan.edits.Perm (replacement :: insertions) →
        replacement.start ≤ replacement.stop → replacement.stop ≤ length →
          (∀ insertion ∈ insertions, insertion.Touches replacement) → accepted) ∧
      (∀ first second, [first, second].Subperm plan.edits →
        ∀ offset, first.Covers offset → second.Covers offset → rejected) ∧
      (∀ replacement ∈ plan.edits, ∀ insertion ∈ plan.edits, insertion.start = insertion.stop →
        replacement.start < insertion.start → insertion.start < replacement.stop → rejected) := by
  intro length rejected accepted
  have accepted_iff : accepted ↔ ¬ plan.HasConflict length :=
    Plan.exists_apply_eq_ok_iff_not_hasConflict divides
  have rejected_iff : rejected ↔ plan.HasConflict length := by
    rw [show rejected ↔ ¬ accepted from Plan.exists_overlap_iff_not_applied divides, accepted_iff,
      not_not]
  refine ⟨rejected_iff, accepted_iff, ?oneOffset, ?touching, ?sharing, ?inside⟩
  case oneOffset =>
    intro offset inside same
    refine accepted_iff.mpr (Plan.not_hasConflict_iff.mpr ⟨fun edit member => ?_, ?_⟩)
    · have := same edit member
      simp only [Edit.span, Span.mk.injEq] at this
      omega
    · refine List.pairwise_of_forall_mem_list fun left leftMember right rightMember => ?_
      have leftSame := same left leftMember
      have rightSame := same right rightMember
      simp only [Edit.span, Span.mk.injEq] at leftSame rightSame
      exact .inl (by simp only [Edit.span]; omega)
  case touching =>
    intro replacement insertions permuted ordered inside touch
    exact accepted_iff.mpr (Plan.not_hasConflict_of_touches permuted ordered inside touch)
  case sharing =>
    intro first second both offset inFirst inSecond
    exact rejected_iff.mpr
      (Plan.hasConflict_of_subperm both (Edit.not_apart_of_covers inFirst inSecond))
  case inside =>
    intro replacement replacementMember insertion insertionMember empty after before
    have both : [insertion, replacement].Subperm plan.edits := by
      have different : insertion ≠ replacement := by
        rintro rfl
        omega
      refine List.subperm_of_subset (by simpa using different) fun edit member => ?_
      rcases List.mem_pair.mp member with rfl | rfl
      · exact insertionMember
      · exact replacementMember
    exact rejected_iff.mpr
      (Plan.hasConflict_of_subperm both (Edit.not_apart_of_inside empty after before))

/-- In `a é b` an insertion is planned inside the replacement of the letter with its blanks. -/
private def insertionInLetter : Plan := ⟨[⟨2, 2, "x"⟩, ⟨1, 5, "-"⟩]⟩

/-- An insertion before a letter that is replaced with the blank before it is rejected, at whatever
place it is planned. -/
theorem insertion_in_replacement_rejected :
    insertionInLetter.DividesNoCharacter "a é b".toList ∧
      ∃ start stop, insertionInLetter.apply "a é b" = .error (.overlap start stop) := by
  have divides : insertionInLetter.DividesNoCharacter "a é b".toList := by
    have boundaries : ∀ edit ∈ insertionInLetter.edits, ∀ offset ∈ [edit.start, edit.stop],
        IsBoundary "a é b".toList offset := by decide +kernel
    intro edit member offset either _
    exact boundaries edit member offset (by simpa using either)
  refine ⟨divides, (plan_rejected_iff_conflict insertionInLetter "a é b" divides).1.mpr ?_⟩
  exact .inr ⟨⟨2, 2, "x"⟩, ⟨1, 5, "-"⟩, .refl _, by decide⟩

end IconSize
