import IconSize.Proofs.Scope.Agreement

/-!
Looking names up. A name means the import of a module wherever no scope between the place and the
module declares it. What a scope declares changes where the table grows, and nowhere else.
-/

namespace IconSize
open Syntax

namespace ScopeTable

variable (table : ScopeTable) (name : String) (space : Namespace)

/-- The scopes around a place that lie below the module, innermost first. -/
def nestedScopes (scope : Option ScopeHandle) : List ScopeHandle :=
  match scope with
  | none => []
  | some scope => (table.chain scope).takeWhile (· ≠ .root)

theorem resolveAlong_eq_root_iff (scopes : List ScopeHandle) :
    table.resolveAlong name space scopes = .root ↔
      .root ∈ scopes ∧
        ∀ scope ∈ scopes.takeWhile (· ≠ .root), table.declaresIn scope name space = false := by
  induction scopes with
  | nil => simp [resolveAlong]
  | cons scope scopes induction =>
      unfold resolveAlong
      by_cases top : scope = .root
      · simp [top]
      · rw [if_neg top, List.takeWhile_cons_of_pos (by simpa using top)]
        cases declared : table.declaresIn scope name space with
        | true => simp [declared]
        | false => simp [induction, declared, Ne.symm top]

theorem resolveAlong_eq_shadowed_iff (scopes : List ScopeHandle) :
    (∃ scope, table.resolveAlong name space scopes = .shadowed scope) ↔
      ∃ scope ∈ scopes.takeWhile (· ≠ .root), table.declaresIn scope name space = true := by
  induction scopes with
  | nil => simp [resolveAlong]
  | cons scope scopes induction =>
      unfold resolveAlong
      by_cases top : scope = .root
      · simp [top]
      · rw [if_neg top, List.takeWhile_cons_of_pos (by simpa using top)]
        cases declared : table.declaresIn scope name space with
        | true => simp [declared]
        | false => simp [induction, declared]

/-- A name means the module's where the place lies in the module and no scope in between declares
the name. -/
theorem resolveIn_eq_root_iff (scope : Option ScopeHandle) :
    table.resolveIn scope name space = .root ↔
      (∃ inner, scope = some inner ∧ .root ∈ table.chain inner) ∧
        ∀ nested ∈ table.nestedScopes scope, table.declaresIn nested name space = false := by
  cases scope with
  | none => simp [resolveIn]
  | some scope => simp [resolveIn, nestedScopes, resolveAlong_eq_root_iff]

theorem resolveIn_eq_shadowed_iff (scope : Option ScopeHandle) :
    (∃ inner, table.resolveIn scope name space = .shadowed inner) ↔
      ∃ nested ∈ table.nestedScopes scope, table.declaresIn nested name space = true := by
  cases scope with
  | none => simp [resolveIn, nestedScopes]
  | some scope => exact table.resolveAlong_eq_shadowed_iff name space _

variable {table} in
theorem AgreeBelow.nestedScopes_eq {right : ScopeTable} (agree : table.AgreeBelow right)
    (scope : Option ScopeHandle) : right.nestedScopes scope = table.nestedScopes scope := by
  cases scope with
  | none => rfl
  | some scope => simp only [nestedScopes, chain, ancestors_eq agree]

theorem nestedScopes_ne_root {scope : Option ScopeHandle} {nested : ScopeHandle}
    (member : nested ∈ table.nestedScopes scope) : nested ≠ .root := by
  cases scope with
  | none => simp [nestedScopes] at member
  | some scope =>
      have all := List.all_eq_true.mp
        (List.all_takeWhile (p := (· ≠ .root)) (l := table.chain scope))
      simpa using all nested member

/-! ## What a table declares -/

variable {table name} {handle target : ScopeHandle} {other : String}

theorem declares_iff : table.declares handle name = true ↔
    ∃ record, table.get? handle = some record ∧ name ∈ record.names := by
  simp [declares, Option.any_eq_true]

theorem declaresType_iff : table.declaresType handle name = true ↔
    ∃ record, table.get? handle = some record ∧ name ∈ record.types := by
  simp [declaresType, Option.any_eq_true]

theorem get?_of_size_le (above : table.size ≤ handle.index) : table.get? handle = none :=
  Array.getElem?_eq_none above

theorem declares_push_iff (record : ScopeRecord) :
    (table.push record).2.declares handle name = true ↔
      table.declares handle name = true ∨ (handle.index = table.size ∧ name ∈ record.names) := by
  rw [declares_iff, declares_iff, get?_push]
  split
  case isTrue last => simp [get?_of_size_le (Nat.le_of_eq last.symm), last]
  case isFalse other => simp [other]

theorem declaresType_push_iff (record : ScopeRecord) :
    (table.push record).2.declaresType handle name = true ↔
      table.declaresType handle name = true ∨
        (handle.index = table.size ∧ name ∈ record.types) := by
  rw [declaresType_iff, declaresType_iff, get?_push]
  split
  case isTrue last => simp [get?_of_size_le (Nat.le_of_eq last.symm), last]
  case isFalse other => simp [other]

theorem declares_declare_iff (present : target.index < table.size) :
    (table.declare target other).declares handle name = true ↔
      table.declares handle name = true ∨ (handle = target ∧ name = other) := by
  rw [declares_iff, declares_iff, get?_declare]
  split
  case isTrue same =>
    subst same
    rw [show table.get? handle = some table.records[handle.index] from
      Array.getElem?_eq_getElem present]
    simp [List.mem_insert_iff, or_comm]
  case isFalse different => simp [different]

theorem declaresType_declare_iff :
    (table.declare target other).declaresType handle name = true ↔
      table.declaresType handle name = true := by
  rw [declaresType_iff, declaresType_iff, get?_declare]
  split
  · cases table.get? handle <;> simp
  · rfl

theorem declares_declareType_iff :
    (table.declareType target other).declares handle name = true ↔
      table.declares handle name = true := by
  rw [declares_iff, declares_iff, get?_declareType]
  split
  · cases table.get? handle <;> simp
  · rfl

theorem declaresType_declareType_iff (present : target.index < table.size) :
    (table.declareType target other).declaresType handle name = true ↔
      table.declaresType handle name = true ∨ (handle = target ∧ name = other) := by
  rw [declaresType_iff, declaresType_iff, get?_declareType]
  split
  case isTrue same =>
    subst same
    rw [show table.get? handle = some table.records[handle.index] from
      Array.getElem?_eq_getElem present]
    simp [List.mem_insert_iff, or_comm]
  case isFalse different => simp [different]

end ScopeTable
end IconSize
