import IconSize.Proofs.Syntax.Outline

/-!
What the references of a module cover. The references that the walk records, together with the
places that opening tags leave for attributes, are the stretches of the steps in their order: a mark
for an opening tag is taken up by the very next reference, so no other one can get it.
-/

namespace IconSize
open Syntax

/-- The span of the reference and, in an opening tag, the place for attributes. -/
def Reference.stretches (reference : Reference) : List Span :=
  reference.span :: match reference.usage with
    | .tag insertAt => [⟨insertAt, insertAt⟩]
    | _ => []

namespace Walk

/-- The stretches of the references that the walk has recorded. -/
def stretches (walk : Walk) : List Span :=
  walk.references.toList.flatMap Reference.stretches

/-- No opening tag waits for its reference. -/
def IsUntagged (walk : Walk) : Prop :=
  ∀ entry ∈ walk.usages, ∀ insertAt, entry.2 ≠ .tag insertAt

namespace IsUntagged

variable {walk : Walk}

theorem mark (untagged : walk.IsUntagged) (span : Span) {usage : Usage}
    (other : ∀ insertAt, usage ≠ .tag insertAt) : (walk.mark span usage).IsUntagged := by
  intro entry member
  rcases List.mem_cons.mp member with rfl | member
  · exact other
  · exact untagged entry (List.mem_filter.mp member).1

theorem refer (untagged : walk.IsUntagged) (name : Identifier) : (walk.refer name).IsUntagged :=
  fun entry member => untagged entry (List.mem_filter.mp member).1

/-- The mark of an opening tag is gone once its name is recorded. -/
theorem openTag (untagged : walk.IsUntagged) (attributesAt : Nat) (name : Identifier) :
    ((walk.mark name.span (.tag attributesAt)).refer name).IsUntagged := by
  intro entry member
  rcases List.mem_filter.mp member with ⟨member, different⟩
  rcases List.mem_cons.mp member with rfl | member
  · simp at different
  · exact untagged entry (List.mem_filter.mp member).1

theorem take (untagged : walk.IsUntagged) (step : Step) : (step.take walk).IsUntagged := by
  cases step with
  | declare name =>
      simp only [Step.take, declare]
      split <;> exact untagged
  | declareVar name =>
      simp only [Step.take, declareVar]
      split <;> exact untagged
  | declareType name =>
      simp only [Step.take, declareType]
      split <;> exact untagged
  | markValue span shorthand => exact untagged.mark span nofun
  | markExport span => exact untagged.mark span nofun
  | refer name => exact untagged.refer name
  | referType name =>
      have typed : (walk.markType name.span).IsUntagged := untagged
      exact typed.refer name
  | openTag attributesAt name => exact untagged.openTag attributesAt name
  | _ => exact untagged

/-- A reference that is recorded outside of an opening tag covers its name only. -/
theorem stretches_refer (untagged : walk.IsUntagged) (name : Identifier) :
    (walk.refer name).stretches = walk.stretches ++ [name.span] := by
  simp only [stretches, Walk.refer, Array.toList_push, List.flatMap_append, List.flatMap_singleton,
    Reference.stretches]
  cases found : walk.usages.lookup name.span with
  | none => rfl
  | some usage =>
      rcases List.lookup_eq_some_iff.mp found with ⟨front, back, split, _⟩
      have kept := untagged (name.span, usage) (by rw [split]; simp)
      cases usage with
      | tag insertAt => exact absurd rfl (kept insertAt)
      | _ => rfl

theorem stretches_take (untagged : walk.IsUntagged) (step : Step) :
    (step.take walk).stretches = walk.stretches ++ step.stretches := by
  cases step with
  | declare name =>
      simp only [Step.take, declare]
      split <;> exact (List.append_nil _).symm
  | declareVar name =>
      simp only [Step.take, declareVar]
      split <;> exact (List.append_nil _).symm
  | declareType name =>
      simp only [Step.take, declareType]
      split <;> exact (List.append_nil _).symm
  | refer name => exact untagged.stretches_refer name
  | referType name =>
      have typed : (walk.markType name.span).IsUntagged := untagged
      exact typed.stretches_refer name
  | openTag attributesAt name =>
      simp [Step.take, stretches, Walk.refer, Walk.mark, Reference.stretches, Step.stretches]
  | _ => exact (List.append_nil _).symm

theorem stretches_follow (untagged : walk.IsUntagged) (steps : List Step) :
    (follow steps walk).stretches = walk.stretches ++ steps.flatMap Step.stretches := by
  induction steps generalizing walk with
  | nil => exact (List.append_nil _).symm
  | cons step steps induction =>
      rw [follow_cons, induction (untagged.take step), untagged.stretches_take step,
        List.flatMap_cons, List.append_assoc]

end IsUntagged
end Walk

theorem Syntax.Outline.stretchesOfAll_outlineAll (nodes : List Node) :
    Outline.stretchesOfAll (Node.outlineAll nodes) =
      nodes.flatMap fun node => node.outline.stretches := by
  induction nodes with
  | nil => rfl
  | cons node others induction =>
      rw [Node.outlineAll, Outline.stretchesOfAll, induction, List.flatMap_cons]

/-- The references of a module cover the stretches of its nodes. -/
theorem ScopeAnalysis.stretches_references (program : Program) :
    (ofProgram program).references.flatMap Reference.stretches =
      program.body.flatMap fun node => node.outline.stretches := by
  have untagged : Walk.start.IsUntagged := nofun
  show (Walk.start.visitProgram program).stretches = _
  rw [Walk.visitProgram_eq_follow, untagged.stretches_follow, Program.steps,
    flatMap_stretches_scopeSteps, Node.stretches_stepsOfAll, Outline.stretchesOfAll_outlineAll]
  rfl

end IconSize
