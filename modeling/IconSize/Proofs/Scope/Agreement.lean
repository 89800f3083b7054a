import IconSize.Proofs.Scope.Steps

/-!
Walks that differ in the names of references only. Two tables agree below the module if they have
the same scopes with the same names, except that the scope of the module may declare other names.
No resolution can tell such tables apart, since none asks what the module itself declares.
-/

namespace IconSize
open Syntax

namespace ScopeTable

/-- Two tables that differ at most in the names that the module itself declares. -/
structure AgreeBelow (left right : ScopeTable) : Prop where
  size : right.size = left.size
  nested : ∀ handle, handle ≠ .root → right.get? handle = left.get? handle
  parent : right.parent? .root = left.parent? .root
  kind : (right.get? .root).map ScopeRecord.kind = (left.get? .root).map ScopeRecord.kind

theorem get?_push (table : ScopeTable) (record : ScopeRecord) (handle : ScopeHandle) :
    (table.push record).2.get? handle =
      if handle.index = table.size then some record else table.get? handle := by
  simp only [get?, push, Array.getElem?_push]
  rfl

theorem get?_declare (table : ScopeTable) (target handle : ScopeHandle) (name : String) :
    (table.declare target name).get? handle =
      if handle = target then
        (table.get? handle).map fun record =>
          { record with names := record.names.insert name }
      else table.get? handle := by
  rcases target with ⟨target⟩
  rcases handle with ⟨handle⟩
  simp only [get?, declare, Array.getElem?_modify, ScopeHandle.mk.injEq, eq_comm (a := target)]

theorem get?_declareType (table : ScopeTable) (target handle : ScopeHandle) (name : String) :
    (table.declareType target name).get? handle =
      if handle = target then
        (table.get? handle).map fun record =>
          { record with types := record.types.insert name }
      else table.get? handle := by
  rcases target with ⟨target⟩
  rcases handle with ⟨handle⟩
  simp only [get?, declareType, Array.getElem?_modify, ScopeHandle.mk.injEq, eq_comm (a := target)]

@[simp] theorem size_push (table : ScopeTable) (record : ScopeRecord) :
    (table.push record).2.size = table.size + 1 := by
  simp [push, size]

@[simp] theorem size_declare (table : ScopeTable) (target : ScopeHandle) (name : String) :
    (table.declare target name).size = table.size := by
  simp [declare, size]

@[simp] theorem size_declareType (table : ScopeTable) (target : ScopeHandle) (name : String) :
    (table.declareType target name).size = table.size := by
  simp [declareType, size]

namespace AgreeBelow

variable {left right : ScopeTable}

theorem refl (table : ScopeTable) : table.AgreeBelow table := ⟨rfl, fun _ _ => rfl, rfl, rfl⟩

theorem push (agree : left.AgreeBelow right) (record : ScopeRecord) :
    (left.push record).2.AgreeBelow (right.push record).2 where
  size := by rw [size_push, size_push, agree.size]
  nested handle different := by
    rw [get?_push, get?_push, agree.size, agree.nested handle different]
  parent := by
    have parent := agree.parent
    simp only [parent?, get?_push, agree.size] at parent ⊢
    split
    · rfl
    · exact parent
  kind := by
    rw [get?_push, get?_push, agree.size]
    split
    · rfl
    · exact agree.kind

/-- What is declared in the scope of the module on one side makes no difference. -/
theorem declare_root (agree : left.AgreeBelow right) (name : String) :
    left.AgreeBelow (right.declare .root name) where
  size := by rw [size_declare, agree.size]
  nested handle different := by
    rw [get?_declare, if_neg different, agree.nested handle different]
  parent := by
    rw [← agree.parent, parent?, parent?, get?_declare, if_pos rfl, Option.bind_map]
    rfl
  kind := by
    rw [← agree.kind, get?_declare, if_pos rfl, Option.map_map]
    rfl

theorem symm (agree : left.AgreeBelow right) : right.AgreeBelow left where
  size := agree.size.symm
  nested handle different := (agree.nested handle different).symm
  parent := agree.parent.symm
  kind := agree.kind.symm

theorem trans {middle : ScopeTable} (first : left.AgreeBelow middle)
    (second : middle.AgreeBelow right) : left.AgreeBelow right where
  size := second.size.trans first.size
  nested handle different := (second.nested handle different).trans (first.nested handle different)
  parent := second.parent.trans first.parent
  kind := second.kind.trans first.kind

theorem declare (agree : left.AgreeBelow right) (target : ScopeHandle) (name : String) :
    (left.declare target name).AgreeBelow (right.declare target name) := by
  by_cases same : target = .root
  · subst same
    exact (((refl left).declare_root name).symm.trans agree).declare_root name
  · have other : ScopeHandle.root ≠ target := fun equal => same equal.symm
    refine ⟨?_, fun handle different => ?_, ?_, ?_⟩
    · rw [size_declare, size_declare, agree.size]
    · rw [get?_declare, get?_declare, agree.nested handle different]
    · simpa only [parent?, get?_declare, if_neg other] using agree.parent
    · simpa only [get?_declare, if_neg other] using agree.kind

theorem declareType (agree : left.AgreeBelow right) (target : ScopeHandle) (name : String) :
    (left.declareType target name).AgreeBelow (right.declareType target name) := by
  refine ⟨?_, fun handle different => ?_, ?_, ?_⟩
  · rw [size_declareType, size_declareType, agree.size]
  · rw [get?_declareType, get?_declareType, agree.nested handle different]
  · have parent := agree.parent
    simp only [parent?, get?_declareType] at parent ⊢
    split
    · rw [Option.bind_map, Option.bind_map]
      exact parent
    · exact parent
  · have kind := agree.kind
    simp only [get?_declareType]
    split
    · rw [Option.map_map, Option.map_map]
      exact kind
    · exact kind

theorem parent?_eq (agree : left.AgreeBelow right) (handle : ScopeHandle) :
    right.parent? handle = left.parent? handle := by
  by_cases same : handle = .root
  · rw [same, agree.parent]
  · rw [parent?, parent?, agree.nested handle same]

theorem kind_eq (agree : left.AgreeBelow right) (handle : ScopeHandle) :
    (right.get? handle).map ScopeRecord.kind = (left.get? handle).map ScopeRecord.kind := by
  by_cases same : handle = .root
  · rw [same, agree.kind]
  · rw [agree.nested handle same]

theorem declaresIn_eq (agree : left.AgreeBelow right) {handle : ScopeHandle}
    (nested : handle ≠ .root) (name : String) (space : Namespace) :
    right.declaresIn handle name space = left.declaresIn handle name space := by
  cases space <;> simp only [declaresIn, declares, declaresType, agree.nested handle nested]

end AgreeBelow

theorem ancestors_eq {left right : ScopeTable} (agree : left.AgreeBelow right) (count : Nat)
    (handle : ScopeHandle) : right.ancestors count handle = left.ancestors count handle := by
  induction count generalizing handle with
  | zero => rfl
  | succ count induction =>
      have kind := agree.kind_eq handle
      have parent := agree.parent?_eq handle
      simp only [parent?] at parent
      unfold ancestors
      cases rightRecord : right.get? handle with
      | none =>
          cases leftRecord : left.get? handle with
          | none => rfl
          | some record => simp [rightRecord, leftRecord] at kind
      | some rightFound =>
          cases leftRecord : left.get? handle with
          | none => simp [rightRecord, leftRecord] at kind
          | some leftFound =>
              simp only [rightRecord, leftRecord, Option.bind_some] at parent
              simp only [parent]
              cases leftFound.parent with
              | none => rfl
              | some outer => simp only [induction outer]

theorem resolveAlong_eq {left right : ScopeTable} (agree : left.AgreeBelow right) (name : String)
    (space : Namespace) (scopes : List ScopeHandle) :
    right.resolveAlong name space scopes = left.resolveAlong name space scopes := by
  induction scopes with
  | nil => rfl
  | cons scope scopes induction =>
      unfold resolveAlong
      by_cases same : scope = .root
      · rw [if_pos same, if_pos same]
      · rw [if_neg same, if_neg same, agree.declaresIn_eq same, induction]

/-- Tables that agree below the module give every name at every place the same meaning. -/
theorem resolveIn_eq {left right : ScopeTable} (agree : left.AgreeBelow right)
    (scope : Option ScopeHandle) (name : String) (space : Namespace) :
    right.resolveIn scope name space = left.resolveIn scope name space := by
  cases scope with
  | none => rfl
  | some scope =>
      simp only [resolveIn, chain, ancestors_eq agree, resolveAlong_eq agree]

end ScopeTable
end IconSize
