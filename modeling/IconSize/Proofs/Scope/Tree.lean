import IconSize.Proofs.Scope.Forms
import IconSize.Proofs.Scope.Shadowing

/-!
The tree of scopes. The module is at its root, and every other scope lies in one that begins
earlier, so that the way from a scope outwards always ends at the module. What a name means at a
place is then decided by the first scope on that way, below the module, that declares the name.
-/

namespace IconSize
open Syntax

/-! ## Tables that are trees -/

namespace ScopeTable

/-- The first scope is that of the module and lies in no other. Each of the others is no module and
lies in one that comes earlier. -/
structure IsTree (table : ScopeTable) : Prop where
  top : ∃ record, table.get? .root = some record ∧ record.kind = .module ∧ record.parent = none
  nested : ∀ handle record, handle ≠ .root → table.get? handle = some record →
    record.kind ≠ .module ∧ ∃ parent, record.parent = some parent ∧ parent.index < handle.index

/-- The way from a scope outwards: each scope is followed by its parent, until one has none. -/
inductive Path (table : ScopeTable) : ScopeHandle → List ScopeHandle → Prop
  | last {handle : ScopeHandle} {record : ScopeRecord} (found : table.get? handle = some record)
      (top : record.parent = none) : Path table handle [handle]
  | outwards {handle parent : ScopeHandle} {record : ScopeRecord} {outer : List ScopeHandle}
      (found : table.get? handle = some record) (within : record.parent = some parent)
      (path : Path table parent outer) : Path table handle (handle :: outer)

variable {table : ScopeTable} {handle parent : ScopeHandle} {record : ScopeRecord}
  {scopes : List ScopeHandle}

namespace IsTree

/-- Only the module lies in no other scope. -/
theorem eq_root (tree : table.IsTree) (found : table.get? handle = some record)
    (top : record.parent = none) : handle = .root := by
  by_contra below
  rcases (tree.nested handle record below found).2 with ⟨parent, within, -⟩
  rw [top] at within
  cases within

theorem ne_root (tree : table.IsTree) (found : table.get? handle = some record)
    (within : record.parent = some parent) : handle ≠ .root := by
  rintro rfl
  rcases tree.top with ⟨top, same, -, none⟩
  obtain rfl : record = top := Option.some.inj (found.symm.trans same)
  rw [none] at within
  cases within

theorem parent_lt (tree : table.IsTree) (found : table.get? handle = some record)
    (within : record.parent = some parent) : parent.index < handle.index := by
  rcases (tree.nested handle record (tree.ne_root found within) found).2 with ⟨_, same, earlier⟩
  obtain rfl : parent = _ := Option.some.inj (within.symm.trans same)
  exact earlier

/-- Following parents as many times as the index tells is following them to the end. -/
theorem path_ancestors (tree : table.IsTree) {count : Nat} (present : handle.index < table.size)
    (enough : handle.index < count) : table.Path handle (table.ancestors count handle) := by
  induction count generalizing handle with
  | zero => exact absurd enough (Nat.not_lt_zero _)
  | succ count induction =>
      obtain ⟨record, found⟩ : ∃ record, table.get? handle = some record :=
        ⟨_, Array.getElem?_eq_getElem present⟩
      cases within : record.parent with
      | none =>
          simp only [ancestors, found, within]
          exact .last found within
      | some parent =>
          simp only [ancestors, found, within]
          have earlier := tree.parent_lt found within
          exact .outwards found within
            (induction (Nat.lt_trans earlier present) (by omega))

theorem path_chain (tree : table.IsTree) (present : handle.index < table.size) :
    table.Path handle (table.chain handle) :=
  tree.path_ancestors present (Nat.lt_succ_self _)

end IsTree

theorem chain_of_size_le (above : table.size ≤ handle.index) : table.chain handle = [] := by
  simp only [chain, ancestors, get?_of_size_le above]

namespace Path

theorem getLast?_eq_root (tree : table.IsTree) (path : table.Path handle scopes) :
    scopes.getLast? = some .root := by
  induction path with
  | last found top => rw [tree.eq_root found top]; rfl
  | outwards _ _ path induction => cases path <;> simpa [List.getLast?_cons_cons] using induction

theorem index_le (tree : table.IsTree) (path : table.Path handle scopes) :
    ∀ scope ∈ scopes, scope.index ≤ handle.index := by
  induction path with
  | last => simp
  | outwards found within _ induction =>
      have earlier := tree.parent_lt found within
      intro scope member
      rcases List.mem_cons.mp member with rfl | further
      · exact Nat.le_refl _
      · exact Nat.le_trans (induction scope further) (Nat.le_of_lt earlier)

theorem pairwise (tree : table.IsTree) (path : table.Path handle scopes) :
    scopes.Pairwise fun inner outer => outer.index < inner.index := by
  induction path with
  | last => simp
  | outwards found within path induction =>
      refine List.pairwise_cons.mpr ⟨fun outer member => ?_, induction⟩
      exact Nat.lt_of_le_of_lt (path.index_le tree outer member) (tree.parent_lt found within)

/-- The first scope below the module that declares the name decides what it means. -/
theorem resolveAlong_eq (tree : table.IsTree) (path : table.Path handle scopes) (name : String)
    (space : Namespace) :
    table.resolveAlong name space scopes =
      match scopes.find? fun scope => scope != .root && table.declaresIn scope name space with
      | some scope => .shadowed scope
      | none => .root := by
  induction path with
  | last found top =>
      obtain rfl := tree.eq_root found top
      simp [resolveAlong]
  | outwards found within _ induction =>
      have below := tree.ne_root found within
      rw [resolveAlong, if_neg below, List.find?_cons, bne_iff_ne.mpr below, Bool.true_and]
      split
      case isTrue declared => simp [declared]
      case isFalse free => simpa [free] using induction

end Path
end ScopeTable

/-! ## The scopes of a tree of syntax -/

namespace ScopeItem

mutual

/-- Is no scope of the item that of a module? -/
def isNested : ScopeItem → Bool
  | binder _ => true
  | reference _ _ => true
  | scope kind _ before inside => kind != .module && isNestedAll before && isNestedAll inside

def isNestedAll : List ScopeItem → Bool
  | [] => true
  | item :: items => item.isNested && isNestedAll items

end

/-- Is the scope no module? -/
def Condition.nested : Condition where
  scope kind _ _ := kind != .module

theorem Condition.holdsOfForms_nested : Condition.nested.HoldsOfForms where
  plain := fun _ different => bne_iff_ne.mpr different
  function := fun _ _ _ => rfl
  classNode := fun _ _ _ => rfl
  catchClause := fun _ => rfl
  binder := fun _ _ => rfl

mutual

theorem isNested_eq : ∀ item : ScopeItem, item.isNested = item.scopesMeet .nested
  | binder _ => rfl
  | reference _ _ => rfl
  | scope kind own before inside => by
      rw [isNested, scopesMeet, isNestedAll_eq before, isNestedAll_eq inside, Condition.nested]

theorem isNestedAll_eq : ∀ items : List ScopeItem, isNestedAll items = allScopesMeet .nested items
  | [] => rfl
  | item :: items => by rw [isNestedAll, allScopesMeet, isNested_eq item, isNestedAll_eq items]

end

end ScopeItem

/-- No scope of a node is that of a module. -/
theorem Syntax.Node.isNestedAll_scopeItemsAll (nodes : List Node) :
    ScopeItem.isNestedAll (Node.scopeItemsAll nodes) = true := by
  rw [ScopeItem.isNestedAll_eq]
  exact Node.meet_scopeItemsAll ScopeItem.Condition.holdsOfForms_nested nodes

/-! ## The records of a module -/

/-- None of the records from `next` on is that of a module, and each lies in an earlier scope. -/
def NestedFrom (next : Nat) : List ScopeRecord → Prop
  | [] => True
  | record :: records =>
    (record.kind ≠ .module ∧ ∃ parent, record.parent = some parent ∧ parent.index < next) ∧
      NestedFrom (next + 1) records

theorem nestedFrom_append (next : Nat) (front back : List ScopeRecord) :
    NestedFrom next (front ++ back) ↔
      NestedFrom next front ∧ NestedFrom (next + front.length) back := by
  induction front generalizing next with
  | nil => simp [NestedFrom]
  | cons record front induction =>
      simp only [List.cons_append, NestedFrom, induction, List.length_cons, and_assoc,
        Nat.add_assoc, Nat.add_comm 1]

theorem NestedFrom.of_getElem? {next index : Nat} {records : List ScopeRecord}
    {record : ScopeRecord} (nested : NestedFrom next records)
    (found : records[index]? = some record) :
    record.kind ≠ .module ∧
      ∃ parent, record.parent = some parent ∧ parent.index < next + index := by
  induction records generalizing next index with
  | nil => simp at found
  | cons first records induction =>
      cases index with
      | zero =>
          obtain rfl : first = record := by simpa using found
          exact nested.1
      | succ index =>
          have later := induction nested.2 (by simpa using found)
          rwa [Nat.add_assoc, Nat.add_comm 1] at later

namespace ScopeItem

mutual

theorem nestedFrom_walkedRecords :
    ∀ (item : ScopeItem) (held : List Binder) {parent : ScopeHandle} {next : Nat},
      item.isNested = true → parent.index < next →
        NestedFrom next (item.walkedRecords held parent next)
  | binder _, _, _, _, _, _ => trivial
  | reference _ _, _, _, _, _, _ => trivial
  | scope kind own before inside, held, parent, next, nested, within => by
      simp only [isNested, Bool.and_eq_true, bne_iff_ne] at nested
      rcases nested with ⟨⟨below, nestedBefore⟩, nestedInside⟩
      rw [walkedRecords, nestedFrom_append, length_walkedRecordsAll]
      refine ⟨nestedFrom_walkedRecordsAll before _ nestedBefore within, ⟨below, parent, rfl, ?_⟩,
        nestedFrom_walkedRecordsAll inside _ nestedInside (Nat.lt_succ_self _)⟩
      exact Nat.lt_of_lt_of_le within (Nat.le_add_right ..)

theorem nestedFrom_walkedRecordsAll :
    ∀ (items : List ScopeItem) (held : List Binder) {parent : ScopeHandle} {next : Nat},
      isNestedAll items = true → parent.index < next →
        NestedFrom next (walkedRecordsAll held parent next items)
  | [], _, _, _, _, _ => trivial
  | item :: items, held, parent, next, nested, within => by
      rw [isNestedAll, Bool.and_eq_true] at nested
      rw [walkedRecordsAll, nestedFrom_append, length_walkedRecords]
      exact ⟨nestedFrom_walkedRecords item held nested.1 within,
        nestedFrom_walkedRecordsAll items _ nested.2
          (Nat.lt_of_lt_of_le within (Nat.le_add_right ..))⟩

end

end ScopeItem

theorem ScopeTable.exists_same_of_get? {table : ScopeTable} {records : List ScopeRecord}
    {handle : ScopeHandle} {own : ScopeRecord}
    (same : List.Forall₂ ScopeRecord.Same table.records.toList records)
    (found : table.get? handle = some own) :
    ∃ record, records[handle.index]? = some record ∧ own.Same record := by
  have inside : handle.index < records.length := by
    rw [← same.length_eq, Array.length_toList]
    exact (Array.getElem?_eq_some_iff.mp found).1
  rcases exists_same same (List.getElem?_eq_getElem inside) with ⟨other, get, related⟩
  obtain rfl : own = other := Option.some.inj (found.symm.trans get)
  exact ⟨_, List.getElem?_eq_getElem inside, related⟩

theorem Encloses.index_lt {records : List ScopeRecord} {around : List Enclosure}
    {handle : ScopeHandle} (encloses : Encloses records around handle)
    (nonempty : 0 < records.length) : handle.index < records.length := by
  cases encloses with
  | module => exact nonempty
  | nested _ _ found _ => exact (List.getElem?_eq_some_iff.mp found).1

namespace ScopeAnalysis

/-- The scopes of a module are a tree. -/
theorem isTree (program : Program) : (ofProgram program).scopes.IsTree := by
  have same := same_walkedRecords program
  refine ⟨?_, fun handle record below found => ?_⟩
  · have first : program.walkedRecords[ScopeHandle.root.index]? =
        some (program.frame.record none) := rfl
    rcases ScopeTable.exists_same same first with ⟨record, found, related⟩
    exact ⟨record, found, related.kind, related.parent⟩
  · rcases ScopeTable.exists_same_of_get? same found with ⟨other, listed, related⟩
    rcases handle with ⟨_ | index⟩
    · exact absurd rfl below
    have nested : NestedFrom 1 (ScopeItem.walkedRecordsAll [] .root 1 program.scopeItems) :=
      ScopeItem.nestedFrom_walkedRecordsAll _ _ (Node.isNestedAll_scopeItemsAll program.body)
        Nat.zero_lt_one
    have lies := nested.of_getElem? (by simpa [Program.walkedRecords] using listed)
    rwa [← related.kind, ← related.parent, Nat.add_comm 1] at lies

/-- Every reference has a scope of the table. -/
theorem scope_of_mem_references {program : Program} {reference : Reference}
    (member : reference ∈ (ofProgram program).references) :
    ∃ handle, reference.scope = some handle ∧ handle.index < (ofProgram program).scopes.size := by
  rcases exists_mem_of_forall₂_left (placed_references program) member with ⟨site, -, placed⟩
  rcases placed.scope with ⟨handle, scope, encloses⟩
  have size : (ofProgram program).scopes.size = program.walkedRecords.length :=
    (same_walkedRecords program).length_eq
  exact ⟨handle, scope, size ▸ encloses.index_lt (Nat.zero_lt_succ _)⟩

/-- The walk leaves every scope that it enters. -/
theorem stack_visitProgram (program : Program) : (Walk.start.visitProgram program).stack = [] := by
  rw [Walk.visitProgram_eq_follow]
  exact (Walk.Balanced.scope .module (Node.balanced_stepsOfAll program.body)).stack_follow _

end ScopeAnalysis

/-- The scopes of a module are a tree with the module at its root: the way outwards from each scope
runs through ever earlier ones to the module. The walk ends outside of all scopes, every reference
lies in one, and what a name means there is told by the first scope on the way, below the module,
that declares it. -/
theorem scopes_form_tree_and_resolve_exactly (program : Program) :
    let analysis := ScopeAnalysis.ofProgram program
    let table := analysis.scopes
    table.IsTree ∧
      (∀ handle, if handle.index < table.size then
          table.Path handle (table.chain handle) ∧
          (table.chain handle).Pairwise (fun inner outer => outer.index < inner.index) ∧
          (table.chain handle).getLast? = some .root
        else table.chain handle = []) ∧
      (Walk.start.visitProgram program).stack = [] ∧
      ∀ reference ∈ analysis.references, ∃ handle,
        reference.scope = some handle ∧ handle.index < table.size ∧
          ∀ name space,
            let declaring := (table.chain handle).find? fun scope =>
              scope != .root && table.declaresIn scope name space
            (∀ scope, table.resolveIn reference.scope name space = .shadowed scope ↔
              declaring = some scope) ∧
            (table.resolveIn reference.scope name space = .root ↔ declaring = none) ∧
            table.resolveIn reference.scope name space ≠ .unreachable := by
  intro analysis table
  have tree : table.IsTree := ScopeAnalysis.isTree program
  refine ⟨tree, fun handle => ?_, ScopeAnalysis.stack_visitProgram program,
    fun reference member => ?_⟩
  · split
    case isTrue present =>
      have path := tree.path_chain present
      exact ⟨path, path.pairwise tree, path.getLast?_eq_root tree⟩
    case isFalse above => exact ScopeTable.chain_of_size_le (Nat.le_of_not_lt above)
  · rcases ScopeAnalysis.scope_of_mem_references member with ⟨handle, scope, present⟩
    refine ⟨handle, scope, present, fun name space => ?_⟩
    intro declaring
    have meaning : table.resolveIn reference.scope name space =
        match declaring with
        | some scope => .shadowed scope
        | none => .root := by
      rw [scope]
      exact (tree.path_chain present).resolveAlong_eq tree name space
    rw [meaning]
    clear_value declaring
    cases declaring <;> simp

end IconSize
