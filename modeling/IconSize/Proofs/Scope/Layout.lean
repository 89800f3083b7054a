import IconSize.Proofs.Scope.Lookup
import IconSize.Proofs.Syntax.ScopeItems
import Mathlib.Data.List.Find

/-!
Where the walk puts what it finds. Following the steps of items adds one record for each of their
scopes, in order, and declares what the items bind in the scope around them and, for each `var`, in
the nearest scope that is no block. The names that wait for a scope are the one thing that can go
astray: they go to the next scope that begins, and that is another one where decorators stand
between the name of a class and its scope.
-/

namespace IconSize
open Syntax

/-! ## Tables and the records in them -/

/-- What a record says about its scope apart from the names. -/
def ScopeRecord.shape (record : ScopeRecord) : Option ScopeHandle × ScopeKind :=
  (record.parent, record.kind)

namespace ScopeTable

def shapes (table : ScopeTable) : List (Option ScopeHandle × ScopeKind) :=
  table.records.toList.map ScopeRecord.shape

@[simp] theorem length_shapes (table : ScopeTable) : table.shapes.length = table.size := by
  simp [shapes, size]

@[simp] theorem shapes_push (table : ScopeTable) (record : ScopeRecord) :
    (table.push record).2.shapes = table.shapes ++ [record.shape] := by
  simp [shapes, push]

theorem getElem?_shapes (table : ScopeTable) (handle : ScopeHandle) :
    table.shapes[handle.index]? = (table.get? handle).map ScopeRecord.shape := by
  simp [shapes, get?]

/-- The way from a scope outwards does not depend on names. -/
theorem ancestors_eq_of_shapes {old new : ScopeTable} (shapes : new.shapes = old.shapes)
    (count : Nat) (handle : ScopeHandle) :
    new.ancestors count handle = old.ancestors count handle := by
  induction count generalizing handle with
  | zero => rfl
  | succ count induction =>
      have shape := congrArg (·[handle.index]?) shapes
      simp only [getElem?_shapes] at shape
      rw [ancestors, ancestors]
      cases found : old.get? handle with
      | none =>
          rw [found, Option.map_none, Option.map_eq_none_iff] at shape
          rw [shape]
      | some record =>
          rw [found, Option.map_some, Option.map_eq_some_iff] at shape
          rcases shape with ⟨record', found', shape⟩
          rw [found']
          have parent : record'.parent = record.parent := congrArg Prod.fst shape
          simp only [parent, induction]

theorem shapes_declare (table : ScopeTable) (target : ScopeHandle) (name : String) :
    (table.declare target name).shapes = table.shapes := by
  apply List.ext_getElem?
  intro index
  rw [table.getElem?_shapes ⟨index⟩, getElem?_shapes _ ⟨index⟩, get?_declare]
  split
  · rw [Option.map_map]; rfl
  · rfl

theorem shapes_declareType (table : ScopeTable) (target : ScopeHandle) (name : String) :
    (table.declareType target name).shapes = table.shapes := by
  apply List.ext_getElem?
  intro index
  rw [table.getElem?_shapes ⟨index⟩, getElem?_shapes _ ⟨index⟩, get?_declareType]
  split
  · rw [Option.map_map]; rfl
  · rfl

end ScopeTable

/-- A record lists the name for a scope, if the records are those of the scopes from `next` on. -/
def ListedFrom (field : ScopeRecord → List String) (handle : ScopeHandle) (name : String)
    (next : Nat) : List ScopeRecord → Prop
  | [] => False
  | record :: records =>
    (handle.index = next ∧ name ∈ field record) ∨ ListedFrom field handle name (next + 1) records

section
variable {field : ScopeRecord → List String} {handle : ScopeHandle} {name : String}

theorem listedFrom_append (next : Nat) (front back : List ScopeRecord) :
    ListedFrom field handle name next (front ++ back) ↔
      ListedFrom field handle name next front ∨
        ListedFrom field handle name (next + front.length) back := by
  induction front generalizing next with
  | nil => simp [ListedFrom]
  | cons record front induction =>
      simp only [List.cons_append, ListedFrom, induction, List.length_cons, or_assoc,
        Nat.add_assoc, Nat.add_comm 1]

theorem listedFrom_iff (next : Nat) (records : List ScopeRecord) :
    ListedFrom field handle name next records ↔
      ∃ index record, handle.index = next + index ∧ records[index]? = some record ∧
        name ∈ field record := by
  induction records generalizing next with
  | nil => simp [ListedFrom]
  | cons record records induction =>
      rw [ListedFrom, induction]
      constructor
      · rintro (⟨same, member⟩ | ⟨index, found, same, get, member⟩)
        · exact ⟨0, record, same, rfl, member⟩
        · exact ⟨index + 1, found, by omega, get, member⟩
      · rintro ⟨_ | index, found, same, get, member⟩
        · obtain rfl : record = found := by simpa using get
          exact .inl ⟨same, member⟩
        · exact .inr ⟨index, found, by omega, get, member⟩

end

/-! ## The records that the walk makes -/

namespace ScopeItem

/-- The names that wait still after so many scopes. -/
def stillHeld (held : List Binder) (count : Nat) : List Binder :=
  if count = 0 then held else []

theorem stillHeld_stillHeld (held : List Binder) (first second : Nat) :
    stillHeld (stillHeld held first) second = stillHeld held (first + second) := by
  unfold stillHeld
  split <;> split <;> grind

mutual

/-- The records that the walk makes for the scopes of an item if `held` waits for the next one. -/
def walkedRecords (held : List Binder) (parent : ScopeHandle) (next : Nat) :
    ScopeItem → List ScopeRecord
  | binder _ => []
  | reference _ _ => []
  | scope kind own before inside =>
    let opened := next + scopeCountAll before
    let given := stillHeld (held ++ own) (scopeCountAll before)
    walkedRecordsAll (held ++ own) parent next before
      ++ (Frame.mk kind given inside).record (some parent)
        :: walkedRecordsAll [] ⟨opened⟩ (opened + 1) inside

def walkedRecordsAll (held : List Binder) (parent : ScopeHandle) (next : Nat) :
    List ScopeItem → List ScopeRecord
  | [] => []
  | item :: items =>
    item.walkedRecords held parent next
      ++ walkedRecordsAll (stillHeld held item.scopeCount) parent (next + item.scopeCount) items

end

mutual

@[simp] theorem length_walkedRecords :
    ∀ (item : ScopeItem) (held : List Binder) (parent : ScopeHandle) (next : Nat),
      (item.walkedRecords held parent next).length = item.scopeCount
  | binder _, _, _, _ => rfl
  | reference _ _, _, _, _ => rfl
  | scope _ _ before inside, _, _, _ => by
      simp [walkedRecords, scopeCount, length_walkedRecordsAll before,
        length_walkedRecordsAll inside]
      omega

@[simp] theorem length_walkedRecordsAll :
    ∀ (items : List ScopeItem) (held : List Binder) (parent : ScopeHandle) (next : Nat),
      (walkedRecordsAll held parent next items).length = scopeCountAll items
  | [], _, _, _ => rfl
  | item :: items, _, _, _ => by
      simp [walkedRecordsAll, scopeCountAll, length_walkedRecords item,
        length_walkedRecordsAll items]

end

end ScopeItem

/-! ## One item after the other -/

namespace Walk
open ScopeItem

variable {walk middle after : Walk} {here target : ScopeHandle} {held : List Binder}

/-- The walk stands in the scope `here`, each `var` goes to `target`, and the names `held` wait for
the next scope. No mark is left. -/
structure Stands (walk : Walk) (here target : ScopeHandle) (held : List Binder) : Prop where
  current : walk.current = some here
  hoisting : walk.hoistingScope = some target
  present : ∀ handle ∈ walk.stack, handle.index < walk.table.size
  pending : ∀ name, name ∈ walk.pending ↔ name ∈ held.map Binder.name
  usages : walk.usages = []
  typeSpans : walk.typeSpans = []

/-- After some items, the walk is where it was and has found what the items say. -/
structure Grows (walk after : Walk) (here target : ScopeHandle) (held : List Binder)
    (items : List ScopeItem) : Prop where
  stack : after.stack = walk.stack
  pending : ∀ name,
    name ∈ after.pending ↔ name ∈ (stillHeld held (scopeCountAll items)).map Binder.name
  usages : after.usages = []
  typeSpans : after.typeSpans = []
  shapes : after.table.shapes = walk.table.shapes
    ++ (walkedRecordsAll held here walk.table.size items).map ScopeRecord.shape
  names : ∀ handle name, after.table.declares handle name = true ↔
    walk.table.declares handle name = true ∨
      (handle = here ∧ name ∈ declaredValues items) ∨
      (handle = target ∧ name ∈ (hoistedBindersAll items).map Binder.name) ∨
      ListedFrom ScopeRecord.names handle name walk.table.size
        (walkedRecordsAll held here walk.table.size items)
  types : ∀ handle name, after.table.declaresType handle name = true ↔
    walk.table.declaresType handle name = true ∨
      (handle = here ∧ name ∈ declaredTypes items) ∨
      ListedFrom ScopeRecord.types handle name walk.table.size
        (walkedRecordsAll held here walk.table.size items)
  references : after.references.toList = walk.references.toList
    ++ referencesAll here walk.table.size items

namespace Stands

theorem present_here (stands : walk.Stands here target held) :
    here.index < walk.table.size :=
  stands.present here (List.mem_of_mem_head? stands.current)

theorem present_target (stands : walk.Stands here target held) :
    target.index < walk.table.size :=
  stands.present target (List.mem_of_find?_eq_some stands.hoisting)

/-- Where a `var` goes does not depend on what is found later. -/
theorem hoistingScope_eq (stands : walk.Stands here target held) (stack : after.stack = walk.stack)
    {added : List (Option ScopeHandle × ScopeKind)}
    (shapes : after.table.shapes = walk.table.shapes ++ added) :
    after.hoistingScope = some target := by
  rw [← stands.hoisting, hoistingScope, hoistingScope, stack]
  refine List.find?_congr fun handle member => ?_
  have same : (after.table.get? handle).map ScopeRecord.shape =
      (walk.table.get? handle).map ScopeRecord.shape := by
    rw [← ScopeTable.getElem?_shapes, ← ScopeTable.getElem?_shapes, shapes,
      List.getElem?_append_left (by simpa using stands.present handle member)]
  cases left : after.table.get? handle <;> cases right : walk.table.get? handle <;>
    simp_all [ScopeRecord.shape]

end Stands

namespace Grows

variable {item : ScopeItem} {items : List ScopeItem}

theorem size (grows : walk.Grows after here target held items) :
    after.table.size = walk.table.size + scopeCountAll items := by
  simpa using congrArg List.length grows.shapes

theorem stands (grows : walk.Grows after here target held items)
    (before : walk.Stands here target held) :
    after.Stands here target (stillHeld held (scopeCountAll items)) where
  current := by rw [Walk.current, grows.stack]; exact before.current
  hoisting := before.hoistingScope_eq grows.stack grows.shapes
  present handle member := by
    have earlier := before.present handle (grows.stack ▸ member)
    have size := grows.size
    omega
  pending := grows.pending
  usages := grows.usages
  typeSpans := grows.typeSpans

theorem nil (stands : walk.Stands here target held) : walk.Grows walk here target held [] where
  stack := rfl
  pending := stands.pending
  usages := stands.usages
  typeSpans := stands.typeSpans
  shapes := by simp [walkedRecordsAll]
  names := by
    simp [declaredValues, localBindersAll, hoistedBindersAll, walkedRecordsAll, ListedFrom]
  types := by simp [declaredTypes, localBindersAll, walkedRecordsAll, ListedFrom]
  references := by simp [referencesAll]

theorem cons (first : walk.Grows middle here target held [item])
    (rest : middle.Grows after here target (stillHeld held item.scopeCount) items) :
    walk.Grows after here target held (item :: items) := by
  have size : middle.table.size = walk.table.size + item.scopeCount := by
    simpa [scopeCountAll] using first.size
  refine ⟨rest.stack.trans first.stack, fun name => ?_, rest.usages, rest.typeSpans, ?_,
    fun handle name => ?_, fun handle name => ?_, ?_⟩
  · rw [rest.pending, scopeCountAll, stillHeld_stillHeld]
  · simp [rest.shapes, first.shapes, walkedRecordsAll, size]
  · simp only [rest.names, first.names, size, walkedRecordsAll, declaredValues, localBindersAll,
      hoistedBindersAll, List.append_nil, List.filter_append, List.map_append, List.mem_append,
      listedFrom_append, length_walkedRecords]
    grind
  · simp only [rest.types, first.types, size, walkedRecordsAll, declaredTypes, localBindersAll,
      List.append_nil, List.filter_append, List.map_append, List.mem_append,
      listedFrom_append, length_walkedRecords]
    grind
  · simp [rest.references, first.references, referencesAll, size]

/-- An item without scopes that changes the table at most. -/
theorem binder (stands : walk.Stands here target held) {found : Binder} {table : ScopeTable}
    (shapes : table.shapes = walk.table.shapes)
    (names : ∀ handle name, table.declares handle name = true ↔
      walk.table.declares handle name = true ∨
        (handle = here ∧ name ∈ declaredValues [.binder found]) ∨
        (handle = target ∧ found.form = .var ∧ name = found.name))
    (types : ∀ handle name, table.declaresType handle name = true ↔
      walk.table.declaresType handle name = true ∨
        (handle = here ∧ name ∈ declaredTypes [.binder found])) :
    walk.Grows { walk with table } here target held [.binder found] where
  stack := rfl
  pending := stands.pending
  usages := stands.usages
  typeSpans := stands.typeSpans
  shapes := by simp [shapes, walkedRecordsAll, walkedRecords]
  names handle name := by
    simp only [names, walkedRecordsAll, walkedRecords, List.append_nil, ListedFrom, or_false,
      hoistedBindersAll, hoistedBinders]
    split <;> simp [*]
  types := by simpa [walkedRecordsAll, walkedRecords, ListedFrom] using types
  references := by simp [referencesAll, ScopeItem.references]

theorem binder_steps (stands : walk.Stands here target held) (found : Binder) :
    walk.Grows (follow found.steps walk) here target held [.binder found] := by
  rcases found with ⟨form, name⟩
  have declare : walk.declare name =
      { walk with table := walk.table.declare here name } := by
    rw [Walk.declare, stands.current]
  have declareVar : walk.declareVar name =
      { walk with table := walk.table.declare target name } := by
    rw [Walk.declareVar, stands.hoisting]
  have declareType : walk.declareType name =
      { walk with table := walk.table.declareType here name } := by
    rw [Walk.declareType, stands.current]
  cases form
  case var =>
      simp only [Binder.steps, follow_cons, follow_nil, Step.take, declareVar]
      exact binder stands (ScopeTable.shapes_declare ..)
        (by simp [ScopeTable.declares_declare_iff stands.present_target, declaredValues,
          localBindersAll, localBinders])
        (by simp [ScopeTable.declaresType_declare_iff, declaredTypes, localBindersAll,
          localBinders])
  case interface | typeAlias =>
      simp only [Binder.steps, follow_cons, follow_nil, Step.take, declareType]
      exact binder stands (ScopeTable.shapes_declareType ..)
        (by simp [ScopeTable.declares_declareType_iff, declaredValues, localBindersAll,
          localBinders, BinderForm.declaresValue])
        (by simp [ScopeTable.declaresType_declareType_iff stands.present_here, declaredTypes,
          localBindersAll, localBinders, BinderForm.declaresType])
  case importAlias | signatureParameter | enumMember | typeParameter =>
      exact binder stands rfl
        (by simp [declaredValues, localBindersAll, localBinders, BinderForm.declaresValue])
        (by simp [declaredTypes, localBindersAll, localBinders, BinderForm.declaresType])
  all_goals
      simp only [Binder.steps, follow_cons, follow_nil, Step.take, declare]
      exact binder stands (ScopeTable.shapes_declare ..)
        (by simp [ScopeTable.declares_declare_iff stands.present_here, declaredValues,
          localBindersAll, localBinders, BinderForm.declaresValue])
        (by simp [ScopeTable.declaresType_declare_iff, declaredTypes, localBindersAll,
          localBinders, BinderForm.declaresType])

theorem reference_steps (stands : walk.Stands here target held) (name : Identifier)
    (space : Namespace) :
    walk.Grows (follow (referenceSteps name space) walk) here target held
      [.reference name space] := by
  -- No mark is left that the reference could take up.
  have current := stands.current
  rw [Walk.current] at current
  cases space <;>
    refine ⟨rfl, stands.pending, ?_, ?_, ?_, ?_, ?_, ?_⟩ <;>
    simp [referenceSteps, Step.take, refer, markType, stands.usages, stands.typeSpans,
      Walk.current, current, walkedRecordsAll, walkedRecords, ListedFrom, declaredValues,
      declaredTypes, localBindersAll, localBinders, hoistedBindersAll, hoistedBinders,
      referencesAll, ScopeItem.references]

/-- An item that opens a scope: the names of its form wait, what stands before the scope is
visited, and the rest inside of it. -/
theorem scope {kind : ScopeKind} {own : List Binder} {before inside : List ScopeItem}
    {waiting inner last : Walk} (stands : walk.Stands here target held)
    (holding : waiting = { walk with pending := waiting.pending })
    (first : waiting.Grows inner here target (held ++ own) before)
    (second : (inner.enter kind).Grows last ⟨inner.table.size⟩
      (if kind = .block then target else ⟨inner.table.size⟩) [] inside) :
    walk.Grows last.leave here target held [.scope kind own before inside] := by
  have table : waiting.table = walk.table := by rw [holding]
  have found : waiting.references = walk.references := by rw [holding]
  have stack : inner.stack = walk.stack := by rw [first.stack, holding]
  have current : inner.current = some here := by rw [Walk.current, stack]; exact stands.current
  have size : inner.table.size = walk.table.size + scopeCountAll before := by
    rw [first.size, table]
  have opened (handle : ScopeHandle) : handle = ⟨walk.table.size + scopeCountAll before⟩ ↔
      handle.index = walk.table.size + scopeCountAll before := by
    rcases handle
    simp
  refine ⟨?_, fun name => ?_, second.usages, second.typeSpans, ?_, fun handle name => ?_,
    fun handle name => ?_, ?_⟩
  · rw [leave, second.stack, ← stack]
    rfl
  · simp [leave, second.pending, stillHeld, scopeCountAll, scopeCount]
  · simp [leave, second.shapes, enter, first.shapes, table, size, current, walkedRecordsAll,
      walkedRecords, Frame.record, ScopeRecord.shape]
  · simp only [leave, second.names, enter, ScopeTable.declares_push_iff, first.names,
      first.pending, table, size, opened, walkedRecordsAll, walkedRecords, declaredValues,
      localBindersAll, localBinders, hoistedBindersAll, hoistedBinders, List.append_nil,
      listedFrom_append, length_walkedRecordsAll, ListedFrom, Frame.record, Frame.hoisted,
      ScopeTable.size_push, List.map_append, List.mem_append]
    -- Each `var` inside goes on to `target` or stays, as the kind of the scope has it.
    by_cases block : kind = .block
    · simp only [block, if_true, List.map_nil, List.not_mem_nil, or_false, and_or_left, or_assoc,
        or_left_comm]
    · simp only [block, if_false, opened, List.map_nil, List.not_mem_nil, or_false, and_or_left,
        or_assoc, or_left_comm]
  · simp only [leave, second.types, enter, ScopeTable.declaresType_push_iff, first.types,
      table, size, opened, walkedRecordsAll, walkedRecords, declaredTypes, localBindersAll,
      localBinders, List.append_nil, listedFrom_append, length_walkedRecordsAll, ListedFrom,
      Frame.record, ScopeTable.size_push, List.not_mem_nil, and_false, or_false, or_assoc,
      or_left_comm]
  · simp [leave, second.references, enter, first.references, found, table, size, referencesAll,
      ScopeItem.references]

end Grows

theorem stands_holdSteps (stands : walk.Stands here target held) (own : List Binder) :
    (follow (Binder.holdSteps own) walk).Stands here target (held ++ own) ∧
      follow (Binder.holdSteps own) walk =
        { walk with pending := (follow (Binder.holdSteps own) walk).pending } := by
  induction own generalizing walk held with
  | nil => exact ⟨by simpa [Binder.holdSteps] using stands, rfl⟩
  | cons binder own induction =>
      have one : (walk.hold binder.name).Stands here target (held ++ [binder]) :=
        ⟨stands.current, stands.hoisting, stands.present,
          by simp [hold, List.mem_insert_iff, stands.pending, or_comm],
          stands.usages, stands.typeSpans⟩
      have rest := induction one
      rw [List.append_assoc] at rest
      refine ⟨rest.1, ?_⟩
      rw [Binder.holdSteps, List.map_cons, follow_cons]
      exact rest.2.trans rfl

/-- Inside of a scope, no name waits any more. A scope that is no block keeps each `var`. -/
theorem stands_enter (stands : walk.Stands here target held) (kind : ScopeKind) :
    (walk.enter kind).Stands ⟨walk.table.size⟩
      (if kind = .block then target else ⟨walk.table.size⟩) [] where
  current := rfl
  hoisting := by
    have top : (walk.enter kind).table.get? ⟨walk.table.size⟩ =
        some ⟨walk.current, kind, walk.pending, []⟩ := by
      simp [enter, ScopeTable.get?_push]
    have below : walk.stack.find? (fun handle =>
        ((walk.enter kind).table.get? handle).any (·.kind != .block)) = some target := by
      rw [← stands.hoisting, hoistingScope]
      refine List.find?_congr fun handle member => ?_
      rw [enter, ScopeTable.get?_push, if_neg (Nat.ne_of_lt (stands.present handle member))]
    rw [hoistingScope]
    show List.find? _ (⟨walk.table.size⟩ :: walk.stack) = _
    rw [List.find?_cons, top]
    by_cases block : kind = .block
    · simp [block, ← below]
    · simp [block, bne_iff_ne.mpr block]
  present handle member := by
    rw [enter, ScopeTable.size_push]
    rcases List.mem_cons.mp member with rfl | outer
    · exact Nat.lt_succ_self _
    · exact Nat.lt_succ_of_lt (stands.present handle outer)
  pending := by simp [enter]
  usages := stands.usages
  typeSpans := stands.typeSpans

mutual

/-- Following the steps of an item finds what the item says. -/
theorem grows_steps :
    ∀ (item : ScopeItem) {walk : Walk} {here target : ScopeHandle} {held : List Binder},
      walk.Stands here target held →
        walk.Grows (follow item.steps walk) here target held [item]
  | .binder found, _, _, _, _, stands => Grows.binder_steps stands found
  | .reference name space, _, _, _, _, stands => Grows.reference_steps stands name space
  | .scope kind own before inside, walk, here, target, held, stands => by
      have ⟨waiting, holding⟩ := stands_holdSteps stands own
      have first := grows_stepsOfAll before waiting
      have second := grows_stepsOfAll inside (stands_enter (first.stands waiting) kind)
      rw [steps, follow_append, follow_append, follow_scopeSteps]
      exact Grows.scope stands holding first second

theorem grows_stepsOfAll :
    ∀ (items : List ScopeItem) {walk : Walk} {here target : ScopeHandle} {held : List Binder},
      walk.Stands here target held →
        walk.Grows (follow (stepsOfAll items) walk) here target held items
  | [], _, _, _, _, stands => Grows.nil stands
  | item :: items, walk, here, target, held, stands => by
      have first := grows_steps item stands
      have between := first.stands stands
      rw [scopeCountAll, scopeCountAll, Nat.add_zero] at between
      rw [stepsOfAll, follow_append]
      exact first.cons (grows_stepsOfAll items between)

end

end Walk

end IconSize
