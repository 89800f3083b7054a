import IconSize.Proofs.Scope.Layout
import Mathlib.Data.List.Forall2

/-!
The scopes of a module. The walk makes a record for each of them, and what that says can be read off
the tree, the order of names apart. Where names of class expressions go astray, the records are
still those of `walkedRecords`.
-/

namespace IconSize
open Syntax

/-! ## Lists that agree element by element -/

section
variable {First Second : Type} {Related : First → Second → Prop} {firsts : List First}
  {seconds : List Second}

theorem exists_mem_of_forall₂_left (related : List.Forall₂ Related firsts seconds) {first : First}
    (member : first ∈ firsts) : ∃ second ∈ seconds, Related first second := by
  induction related with
  | nil => cases member
  | cons holds _ induction =>
      rcases List.mem_cons.mp member with rfl | later
      · exact ⟨_, List.mem_cons_self, holds⟩
      · rcases induction later with ⟨second, found, holds⟩
        exact ⟨second, List.mem_cons_of_mem _ found, holds⟩

theorem exists_mem_of_forall₂_right (related : List.Forall₂ Related firsts seconds)
    {second : Second} (member : second ∈ seconds) : ∃ first ∈ firsts, Related first second :=
  exists_mem_of_forall₂_left related.flip member

end

/-! ## Tables with given records -/

/-- Two records of one scope. The order of names makes no difference. -/
structure ScopeRecord.Same (left right : ScopeRecord) : Prop where
  parent : left.parent = right.parent
  kind : left.kind = right.kind
  names : ∀ name, name ∈ left.names ↔ name ∈ right.names
  types : ∀ name, name ∈ left.types ↔ name ∈ right.types

/-- A table with the shapes and the names of these records has the same records. -/
theorem ScopeTable.same_of_listed {table : ScopeTable} {records : List ScopeRecord}
    (shapes : table.shapes = records.map ScopeRecord.shape)
    (names : ∀ handle name, table.declares handle name = true ↔
      ListedFrom ScopeRecord.names handle name 0 records)
    (types : ∀ handle name, table.declaresType handle name = true ↔
      ListedFrom ScopeRecord.types handle name 0 records) :
    List.Forall₂ ScopeRecord.Same table.records.toList records := by
  rw [List.forall₂_iff_get]
  refine ⟨by simpa [ScopeTable.shapes] using congrArg List.length shapes,
    fun index left right => ?_⟩
  have found : table.get? ⟨index⟩ = some (table.records.toList.get ⟨index, left⟩) := by
    simp [get?]
  have listed (field : ScopeRecord → List String) (name : String) :
      ListedFrom field ⟨index⟩ name 0 records ↔ name ∈ field (records.get ⟨index, right⟩) := by
    simp [listedFrom_iff, List.getElem?_eq_getElem right]
  have shape : (table.records.toList.get ⟨index, left⟩).shape =
      (records.get ⟨index, right⟩).shape := by
    have entry := congrArg (·[index]?) shapes
    simp only [getElem?_shapes table ⟨index⟩, found] at entry
    simpa [List.getElem?_eq_getElem right] using entry
  refine ⟨congrArg Prod.fst shape, congrArg Prod.snd shape, fun name => ?_, fun name => ?_⟩
  · rw [← listed, ← names, declares_iff, found]
    simp
  · rw [← listed, ← types, declaresType_iff, found]
    simp

section
variable {table : ScopeTable} {records : List ScopeRecord} {handle : ScopeHandle}
  {record : ScopeRecord} {name : String}

theorem ScopeTable.exists_same (same : List.Forall₂ ScopeRecord.Same table.records.toList records)
    (found : records[handle.index]? = some record) :
    ∃ own, table.get? handle = some own ∧ own.Same record := by
  rcases List.getElem?_eq_some_iff.mp found with ⟨inside, rfl⟩
  rcases List.forall₂_iff_get.mp same with ⟨length, related⟩
  have present : handle.index < table.records.toList.length := length ▸ inside
  exact ⟨_, by simp [get?, ← Array.getElem?_toList, List.getElem?_eq_getElem present],
    related handle.index present inside⟩

theorem ScopeTable.declares_iff_of_same
    (same : List.Forall₂ ScopeRecord.Same table.records.toList records)
    (found : records[handle.index]? = some record) :
    table.declares handle name = true ↔ name ∈ record.names := by
  rcases exists_same same found with ⟨own, get, same⟩
  simp [declares_iff, get, same.names]

theorem ScopeTable.declaresType_iff_of_same
    (same : List.Forall₂ ScopeRecord.Same table.records.toList records)
    (found : records[handle.index]? = some record) :
    table.declaresType handle name = true ↔ name ∈ record.types := by
  rcases exists_same same found with ⟨own, get, same⟩
  simp [declaresType_iff, get, same.types]

end

namespace ScopeTable

section
variable {table : ScopeTable} {records : List ScopeRecord}
  (same : List.Forall₂ ScopeRecord.Same table.records.toList records)
include same

theorem shapes_of_same : table.shapes = records.map ScopeRecord.shape := by
  rw [shapes, ← List.forall₂_eq_eq_eq, List.forall₂_map_left_iff, List.forall₂_map_right_iff]
  exact same.imp fun _ _ same => Prod.ext same.parent same.kind

theorem get?_eq_none_of_same {handle : ScopeHandle} (missing : records[handle.index]? = none) :
    table.get? handle = none := by
  apply get?_of_size_le
  rw [size, ← Array.length_toList, same.length_eq]
  exact List.getElem?_eq_none_iff.mp missing

theorem declares_iff_exists_record (handle : ScopeHandle) (name : String) :
    table.declares handle name = true ↔
      ∃ record, records[handle.index]? = some record ∧ name ∈ record.names := by
  cases found : records[handle.index]? with
  | none => simp [declares_iff, get?_eq_none_of_same same found]
  | some record => simp [declares_iff_of_same same found]

theorem declaresType_iff_exists_record (handle : ScopeHandle) (name : String) :
    table.declaresType handle name = true ↔
      ∃ record, records[handle.index]? = some record ∧ name ∈ record.types := by
  cases found : records[handle.index]? with
  | none => simp [declaresType_iff, get?_eq_none_of_same same found]
  | some record => simp [declaresType_iff_of_same same found]

end

end ScopeTable

/-! ## The scopes of a module -/

namespace Syntax.Program

/-- The records that the walk makes for the scopes of a module. -/
def walkedRecords (program : Program) : List ScopeRecord :=
  program.frame.record none :: ScopeItem.walkedRecordsAll [] .root 1 program.scopeItems

end Syntax.Program

namespace ScopeAnalysis
open ScopeItem

theorem stands_start : (Walk.start.enter .module).Stands .root .root [] := by
  refine ⟨rfl, rfl, fun handle member => ?_, by simp [Walk.start, Walk.enter], rfl, rfl⟩
  rw [List.mem_singleton.mp member]
  exact Nat.zero_lt_one

theorem declares_start (handle : ScopeHandle) (name : String) :
    (Walk.start.enter .module).table.declares handle name = false := by
  rcases handle with ⟨_ | index⟩ <;> rfl

theorem declaresType_start (handle : ScopeHandle) (name : String) :
    (Walk.start.enter .module).table.declaresType handle name = false := by
  rcases handle with ⟨_ | index⟩ <;> rfl

/-- The walk makes a record for each scope of the module, in the order in which they begin. -/
theorem same_walkedRecords (program : Program) :
    List.Forall₂ ScopeRecord.Same (ofProgram program).scopes.records.toList
      program.walkedRecords := by
  have grows := Walk.grows_stepsOfAll program.scopeItems stands_start
  have table : (ofProgram program).scopes =
      (Walk.follow (stepsOfAll program.scopeItems) (Walk.start.enter .module)).table := by
    show (Walk.start.visitProgram program).unmarked.table = _
    rw [Walk.unmarked_visitProgram, Walk.follow_scopeSteps]
    rfl
  have top (handle : ScopeHandle) : handle = .root ↔ handle.index = 0 := by
    rcases handle
    simp [ScopeHandle.root]
  rw [table]
  refine ScopeTable.same_of_listed grows.shapes (fun handle name => ?_) fun handle name => ?_
  · rw [grows.names, declares_start]
    simp only [reduceCtorEq, false_or, top, Program.walkedRecords, ListedFrom, Program.frame,
      Frame.record, Frame.hoisted, List.map_nil, List.nil_append, List.mem_append, if_false,
      and_or_left, or_assoc]
    rfl
  · rw [grows.types, declaresType_start]
    simp only [reduceCtorEq, false_or, top, Program.walkedRecords, ListedFrom, Program.frame,
      Frame.record]
    rfl

/-- The walk finds each reference of the module in its nearest scope. -/
theorem erased_references (program : Program) :
    (ofProgram program).references.map Reference.erased = program.scopedReferences := by
  have grows := Walk.grows_stepsOfAll program.scopeItems stands_start
  have found : (ofProgram program).references.map Reference.erased =
      (Walk.follow (stepsOfAll program.scopeItems)
        (Walk.start.enter .module)).references.toList := by
    show (Walk.start.visitProgram program).references.toList.map Reference.erased = _
    rw [← Array.toList_map]
    show (Walk.start.visitProgram program).unmarked.references.toList = _
    rw [Walk.unmarked_visitProgram, Walk.follow_scopeSteps]
    rfl
  rw [found, grows.references]
  rfl

theorem declares_root_iff {program : Program} {name : String} :
    (ofProgram program).scopes.declares .root name = true ↔
      name ∈ (program.frame.record none).names :=
  ScopeTable.declares_iff_of_same (same_walkedRecords program) rfl

theorem declaresType_root_iff {program : Program} {name : String} :
    (ofProgram program).scopes.declaresType .root name = true ↔
      name ∈ (program.frame.record none).types :=
  ScopeTable.declaresType_iff_of_same (same_walkedRecords program) rfl

/-- What an import at the top of a module binds is declared in the module. -/
theorem declares_root_of_import {program : Program} {declaration : ImportDeclaration}
    {clause : ImportClause} (top : Node.importing declaration ∈ program.body)
    (member : clause ∈ declaration.clauses) :
    (ofProgram program).scopes.declares .root clause.bound.name = true := by
  have item : ScopeItem.binder ⟨.imported, clause.bound.name⟩ ∈ program.scopeItems :=
    Node.mem_scopeItemsAll.mpr ⟨_, top, by simp [Node.scopeItems]; exact ⟨clause, member, rfl⟩⟩
  have binder : (⟨.imported, clause.bound.name⟩ : Binder) ∈ localBindersAll program.scopeItems :=
    mem_localBindersAll.mpr ⟨_, item, by simp [localBinders]⟩
  refine declares_root_iff.mpr (List.mem_append_left _ (List.mem_append_right _ ?_))
  exact List.mem_map.mpr ⟨_, List.mem_filter.mpr ⟨binder, rfl⟩, rfl⟩

end ScopeAnalysis

/-! ## Names that reach their scope -/

namespace ScopeItem

mutual

/-- Do names that wait for a scope reach it? Where decorators of a named class expression open
scopes, the first of these gets the name. -/
def isTight : ScopeItem → Bool
  | binder _ => true
  | reference _ _ => true
  | scope _ own before inside =>
    (own.isEmpty || scopeCountAll before == 0) && isTightAll before && isTightAll inside

def isTightAll : List ScopeItem → Bool
  | [] => true
  | item :: items => item.isTight && isTightAll items

end

theorem walkedRecordsAll_of_scopeCountAll_eq_zero {items : List ScopeItem}
    (none : scopeCountAll items = 0) (held : List Binder) (parent : ScopeHandle) (next : Nat) :
    walkedRecordsAll held parent next items = walkedRecordsAll [] parent next items := by
  rw [List.eq_nil_of_length_eq_zero ((length_walkedRecordsAll items held parent next).trans none),
    List.eq_nil_of_length_eq_zero ((length_walkedRecordsAll items [] parent next).trans none)]

mutual

/-- The records that the walk makes are those of the scopes, if all names reach their scope. -/
theorem walkedRecords_eq_records :
    ∀ (item : ScopeItem) (parent : ScopeHandle) (next : Nat), item.isTight = true →
      item.walkedRecords [] parent next = item.records parent next
  | binder _, _, _, _ => rfl
  | reference _ _, _, _, _ => rfl
  | scope kind own before inside, parent, next, tight => by
      simp only [isTight, Bool.and_eq_true, Bool.or_eq_true, List.isEmpty_iff,
        beq_iff_eq] at tight
      rcases tight with ⟨⟨reached, tightBefore⟩, tightInside⟩
      -- Either nothing waits for the scope, or it is the next one to begin.
      have given : stillHeld own (scopeCountAll before) = own := by
        rcases reached with rfl | none
        · simp [stillHeld]
        · simp [stillHeld, none]
      have outer : walkedRecordsAll own parent next before =
          walkedRecordsAll [] parent next before := by
        rcases reached with rfl | none
        · rfl
        · exact walkedRecordsAll_of_scopeCountAll_eq_zero none own parent next
      rw [walkedRecords, records, List.nil_append, outer, given,
        walkedRecordsAll_eq_recordsAll before parent next tightBefore,
        walkedRecordsAll_eq_recordsAll inside _ _ tightInside]

theorem walkedRecordsAll_eq_recordsAll :
    ∀ (items : List ScopeItem) (parent : ScopeHandle) (next : Nat), isTightAll items = true →
      walkedRecordsAll [] parent next items = recordsAll parent next items
  | [], _, _, _ => rfl
  | item :: items, parent, next, tight => by
      rw [isTightAll, Bool.and_eq_true] at tight
      have waiting : stillHeld [] item.scopeCount = [] := by simp [stillHeld]
      rw [walkedRecordsAll, recordsAll, waiting, walkedRecords_eq_records item _ _ tight.1,
        walkedRecordsAll_eq_recordsAll items _ _ tight.2]

end

end ScopeItem

/-- Do all names of the module reach the scope that they wait for? Only decorators of a named class
expression can keep a name from it. -/
def Syntax.Program.isTight (program : Program) : Bool := ScopeItem.isTightAll program.scopeItems

/-- The walk, with its stack and the names that wait, finds the scopes and the references that are
read off the tree without any state. -/
theorem walk_computes_scope_structure (program : Program) (tight : program.isTight = true) :
    List.Forall₂ ScopeRecord.Same (ScopeAnalysis.ofProgram program).scopes.records.toList
        program.scopeRecords ∧
      (ScopeAnalysis.ofProgram program).references.map Reference.erased =
        program.scopedReferences := by
  refine ⟨?_, ScopeAnalysis.erased_references program⟩
  have same := ScopeAnalysis.same_walkedRecords program
  rwa [Program.walkedRecords, ScopeItem.walkedRecordsAll_eq_recordsAll _ _ _ tight] at same

/-- `(function f(a) { { var b; } return b; });` -/
private def hoistingFunction : Program :=
  ⟨[.group .expressionStatement [.parenthesized
    (.function .expression (some ⟨"f", ⟨10, 11⟩⟩) [] none
      [.mk [] (.name ⟨"a", ⟨12, 13⟩⟩) none none] none
      [.block .block [.variables .var [.mk (.name ⟨"b", ⟨23, 24⟩⟩) none none]],
        .group .returnStatement [.reference ⟨"b", ⟨35, 36⟩⟩]])]]⟩

/-- The scope of the function has the name of the function, the parameter and what the block
declares; the scope of the block is empty. -/
theorem function_collects_names :
    ∃ module function block,
      (ScopeAnalysis.ofProgram hoistingFunction).scopes.records.toList =
        [module, function, block] ∧
      (∀ name, name ∈ function.names ↔ name ∈ ["f", "a", "b"]) ∧ block.names = [] ∧
      block.parent = some ⟨1⟩ := by
  rcases walk_computes_scope_structure hoistingFunction (by decide) with ⟨same, -⟩
  have listed : hoistingFunction.scopeRecords =
      [⟨none, .module, [], []⟩, ⟨some .root, .function, ["f", "a", "b"], []⟩,
        ⟨some ⟨1⟩, .block, [], []⟩] := rfl
  rw [listed] at same
  rcases same with _ | ⟨top, _ | ⟨function, _ | ⟨block, _ | _⟩⟩⟩
  exact ⟨_, _, _, rfl, function.names, List.eq_nil_iff_forall_not_mem.mpr fun name member =>
    List.not_mem_nil ((block.names name).mp member), block.parent⟩

end IconSize
