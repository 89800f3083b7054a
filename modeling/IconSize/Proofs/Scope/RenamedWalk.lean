import IconSize.Proofs.Scope.Agreement
import IconSize.Proofs.Scope.Balance
import IconSize.Proofs.Syntax.Renamed

/-!
The analysis of a renamed module: the same scopes, and the same references in the same places under
their new names. Main statement: `ScopeAnalysis.agree_renamed`.
-/

namespace IconSize
open Syntax

/-- The reference without its usage. -/
def Reference.erased (reference : Reference) : Reference := { reference with usage := .plain }

/-- The reference under its new name, without its usage. -/
def Reference.renamed (newName : Renaming) (reference : Reference) : Reference :=
  { reference with name := newName ⟨reference.name, reference.span⟩, usage := .plain }

namespace Walk

/-- The second walk stands where the first one does and has found the same, apart from the names of
references, their usages, and what the module declares. -/
structure Agree (newName : Renaming) (left right : Walk) : Prop where
  table : left.table.AgreeBelow right.table
  stack : right.stack = left.stack
  pending : right.pending = left.pending
  typeSpans : right.typeSpans = left.typeSpans
  references : right.references.toList.map Reference.erased =
    left.references.toList.map (Reference.renamed newName)

namespace Agree

variable {newName : Renaming} {left right : Walk}

theorem current_eq (agree : Agree newName left right) : right.current = left.current := by
  rw [current, current, agree.stack]

theorem hoistingScope_eq (agree : Agree newName left right) :
    right.hoistingScope = left.hoistingScope := by
  unfold hoistingScope
  rw [agree.stack]
  congr 1
  funext handle
  have kind := agree.table.kind_eq handle
  cases rightRecord : right.table.get? handle <;> cases leftRecord : left.table.get? handle <;>
    simp [rightRecord, leftRecord] at kind ⊢
  rw [kind]

theorem enter (agree : Agree newName left right) (kind : ScopeKind) :
    Agree newName (left.enter kind) (right.enter kind) where
  table := by
    simp only [Walk.enter, agree.current_eq, agree.pending]
    exact agree.table.push _
  stack := by
    simp only [Walk.enter, ScopeTable.push, agree.table.size, agree.stack]
  pending := rfl
  typeSpans := agree.typeSpans
  references := agree.references

theorem leave (agree : Agree newName left right) : Agree newName left.leave right.leave where
  table := agree.table
  stack := congrArg List.tail agree.stack
  pending := agree.pending
  typeSpans := agree.typeSpans
  references := agree.references

theorem hold (agree : Agree newName left right) (name : String) :
    Agree newName (left.hold name) (right.hold name) where
  table := agree.table
  stack := agree.stack
  pending := congrArg (List.insert name) agree.pending
  typeSpans := agree.typeSpans
  references := agree.references

theorem declare (agree : Agree newName left right) (name : String) :
    Agree newName (left.declare name) (right.declare name) := by
  unfold Walk.declare
  rw [agree.current_eq]
  cases left.current with
  | none => exact agree
  | some handle => exact { agree with table := agree.table.declare handle name }

theorem declareVar (agree : Agree newName left right) (name : String) :
    Agree newName (left.declareVar name) (right.declareVar name) := by
  unfold Walk.declareVar
  rw [agree.hoistingScope_eq]
  cases left.hoistingScope with
  | none => exact agree
  | some handle => exact { agree with table := agree.table.declare handle name }

theorem declareType (agree : Agree newName left right) (name : String) :
    Agree newName (left.declareType name) (right.declareType name) := by
  unfold Walk.declareType
  rw [agree.current_eq]
  cases left.current with
  | none => exact agree
  | some handle => exact { agree with table := agree.table.declareType handle name }

theorem mark (agree : Agree newName left right) (span : Span) (leftUsage rightUsage : Usage) :
    Agree newName (left.mark span leftUsage) (right.mark span rightUsage) :=
  { agree with }

theorem markType (agree : Agree newName left right) (span : Span) :
    Agree newName (left.markType span) (right.markType span) :=
  { agree with typeSpans := congrArg (List.insert span) agree.typeSpans }

theorem refer (agree : Agree newName left right) (name : Identifier) :
    Agree newName (left.refer name) (right.refer (name.renamed newName)) where
  table := agree.table
  stack := agree.stack
  pending := agree.pending
  typeSpans := congrArg (List.erase · name.span) agree.typeSpans
  references := by
    simp only [Walk.refer, Array.toList_push, List.map_append, agree.references, agree.current_eq,
      agree.typeSpans, Identifier.renamed]
    rfl

/-- A step keeps the agreement with the renamed step, whichever flag that has. -/
theorem take (agree : Agree newName left right) {step other : Step}
    (same : other.erased = step.renamed newName) :
    Agree newName (step.take left) (other.take right) := by
  cases step <;> cases other <;>
    simp only [Step.erased, Step.renamed, reduceCtorEq, Step.enter.injEq, Step.hold.injEq,
      Step.declare.injEq, Step.declareVar.injEq, Step.declareType.injEq, Step.markValue.injEq,
      Step.markExport.injEq, Step.refer.injEq, Step.referType.injEq, Step.openTag.injEq] at same
  case enter.enter => subst same; exact agree.enter _
  case leave.leave => exact agree.leave
  case hold.hold => subst same; exact agree.hold _
  case declare.declare => subst same; exact agree.declare _
  case declareVar.declareVar => subst same; exact agree.declareVar _
  case declareType.declareType => subst same; exact agree.declareType _
  case markValue.markValue =>
    rcases same with ⟨rfl, _⟩
    exact agree.mark _ _ _
  case markExport.markExport => subst same; exact agree.mark _ _ _
  case refer.refer => subst same; exact agree.refer _
  case referType.referType => subst same; exact (agree.markType _).refer _
  case openTag.openTag =>
    rcases same with ⟨rfl, rfl⟩
    exact (agree.mark _ _ _).refer _

theorem follow_steps {steps others : List Step} (agree : Agree newName left right)
    (same : others.map Step.erased = steps.map (Step.renamed newName)) :
    Agree newName (follow steps left) (follow others right) := by
  induction steps generalizing others left right with
  | nil =>
      obtain rfl : others = [] := by simpa using same
      exact agree
  | cons step steps induction =>
      cases others with
      | nil => simp at same
      | cons other others =>
          rcases List.cons.inj same with ⟨first, rest⟩
          rw [follow_cons, follow_cons]
          exact induction (agree.take first) rest

/-! At the top of the module, what is declared goes to the scope that may differ. -/

theorem declare_left (agree : Agree newName left right) (top : left.current = some .root)
    (name : String) : Agree newName (left.declare name) right := by
  unfold Walk.declare
  rw [top]
  exact { agree with table := (agree.table.symm.declare_root name).symm }

theorem declare_right (agree : Agree newName left right) (top : right.current = some .root)
    (name : String) : Agree newName left (right.declare name) := by
  unfold Walk.declare
  rw [top]
  exact { agree with table := agree.table.declare_root name }

theorem follow_declares_left (agree : Agree newName left right)
    (top : left.current = some .root) (names : List String) :
    Agree newName (follow (names.map .declare) left) right := by
  induction names generalizing left with
  | nil => exact agree
  | cons name names induction =>
      have stack := (Balanced.plain (.declare name) rfl).stack_follow left
      exact induction (agree.declare_left top name) (by rw [current, ← top]; exact congrArg _ stack)

theorem follow_declares_right (agree : Agree newName left right)
    (top : right.current = some .root) (names : List String) :
    Agree newName left (follow (names.map .declare) right) := by
  induction names generalizing right with
  | nil => exact agree
  | cons name names induction =>
      have stack := (Balanced.plain (.declare name) rfl).stack_follow right
      exact induction (agree.declare_right top name)
        (by rw [current, ← top]; exact congrArg _ stack)

/-- Import declarations at the top may be changed at will. -/
theorem follow_importing (agree : Agree newName left right) (top : left.current = some .root)
    (declaration changed : ImportDeclaration) :
    Agree newName (follow (Node.importing declaration).steps left)
      (follow (Node.importing changed).steps right) := by
  have names (import_ : ImportDeclaration) : (Node.importing import_).steps =
      (import_.clauses.map fun clause => clause.bound.name).map .declare := by
    simp [Node.steps]
  rw [names, names]
  exact (agree.follow_declares_left top _).follow_declares_right
    (by rw [agree.current_eq, top]) _

theorem follow_body (agree : Agree newName left right) (top : left.current = some .root)
    (change : ImportDeclaration → ImportDeclaration) (body : List Node) :
    Agree newName (follow (Node.stepsOfAll body) left)
      (follow (Node.stepsOfAll ((Program.mk body).renamed newName change).body) right) := by
  induction body generalizing left right with
  | nil => exact agree
  | cons node body induction =>
      simp only [Program.renamed, List.map_cons, Node.stepsOfAll, follow_append]
      apply induction
      · cases node with
        | importing declaration => exact agree.follow_importing top declaration _
        | _ => exact agree.follow_steps (Node.erased_steps_renamed newName _)
      · rw [current, node.balanced_steps.stack_follow]
        exact top

end Agree
end Walk

/-- The analysis of a renamed module finds the same scopes below the module, and the same references
in the same places under their new names. -/
theorem ScopeAnalysis.agree_renamed (program : Program) (newName : Renaming)
    (change : ImportDeclaration → ImportDeclaration) :
    let analysis := ofProgram program
    let output := ofProgram (program.renamed newName change)
    analysis.scopes.AgreeBelow output.scopes ∧
      output.references.map Reference.erased =
        analysis.references.map (Reference.renamed newName) := by
  intro analysis output
  have start : Walk.Agree newName Walk.start Walk.start := ⟨.refl _, rfl, rfl, rfl, rfl⟩
  have finished : Walk.Agree newName (Walk.start.visitProgram program)
      (Walk.start.visitProgram (program.renamed newName change)) := by
    rw [Walk.visitProgram_eq_follow, Walk.visitProgram_eq_follow, Program.steps, Program.steps,
      Walk.follow_scopeSteps, Walk.follow_scopeSteps]
    exact ((start.enter .module).follow_body rfl change program.body).leave
  exact ⟨finished.table, finished.references⟩

end IconSize
