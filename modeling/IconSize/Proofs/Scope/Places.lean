import IconSize.Proofs.Scope.Shadowing

/-!
What a name means at a place, read off the tree. The scopes around a place, each with the names that
the walk gives it, decide what a name means there: it means the module's exactly if none of them
declares it. Only the names of class expressions can be given to another scope than their own.
-/

namespace IconSize
open Syntax

/-! ## Scopes around a place as the walk has them -/

/-- A scope around a place with the binders that the walk gives to it for those of its form. -/
structure Surrounding where
  enclosure : Enclosure
  given : List Binder

namespace Surrounding

/-- The scope as the scope table has it. -/
def frame (surrounding : Surrounding) : Frame :=
  ⟨surrounding.enclosure.frame.kind, surrounding.given, surrounding.enclosure.frame.inside⟩

end Surrounding

/-- Does the scope declare the name, as references of the kind see it? -/
def Frame.DeclaresIn (frame : Frame) (name : String) : Namespace → Prop
  | .value => name ∈ (frame.record none).names
  | .type => name ∈ (frame.record none).names ∨ name ∈ (frame.record none).types

/-- A place where a name is referred to, with the scopes around it below the module, innermost
first. -/
structure Place where
  name : Identifier
  space : Namespace
  around : List Surrounding

/-- The place without what the walk makes of its scopes. -/
def Place.site (place : Place) : Site :=
  ⟨place.name, place.space, place.around.map Surrounding.enclosure⟩

namespace ScopeItem

mutual

/-- The places of the references of an item that lies in the given scopes, if `held` waits for the
next scope. -/
def places (held : List Binder) (around : List Surrounding) : ScopeItem → List Place
  | binder _ => []
  | reference name space => [⟨name, space, around⟩]
  | scope kind own before inside =>
    let given := stillHeld (held ++ own) (scopeCountAll before)
    placesAll (held ++ own) around before
      ++ placesAll [] (⟨⟨⟨kind, own, inside⟩, before⟩, given⟩ :: around) inside

def placesAll (held : List Binder) (around : List Surrounding) : List ScopeItem → List Place
  | [] => []
  | item :: items =>
    item.places held around ++ placesAll (stillHeld held item.scopeCount) around items

end

@[simp] theorem stillHeld_nil (count : Nat) : stillHeld [] count = [] := by
  simp [stillHeld]

theorem placesAll_append (held : List Binder) (around : List Surrounding)
    (front back : List ScopeItem) :
    placesAll held around (front ++ back) =
      placesAll held around front
        ++ placesAll (stillHeld held (scopeCountAll front)) around back := by
  induction front generalizing held with
  | nil => simp [placesAll, scopeCountAll, stillHeld]
  | cons item front induction =>
      simp [placesAll, scopeCountAll, induction, stillHeld_stillHeld]

end ScopeItem

/-- The places of the references of a module. -/
def Syntax.Program.places (program : Program) : List Place :=
  ScopeItem.placesAll [] [] program.scopeItems

/-! ## The records of the scopes around a place -/

/-- The handle is that of the innermost scope around a place, and the records from it outwards are
those of the scopes. -/
inductive Stacked (records : List ScopeRecord) : List Surrounding → ScopeHandle → Prop
  | module : Stacked records [] .root
  | nested {surrounding : Surrounding} {around : List Surrounding} {parent handle : ScopeHandle}
      (outer : Stacked records around parent) (later : parent.index < handle.index)
      (found : records[handle.index]? = some (surrounding.frame.record (some parent))) :
      Stacked records (surrounding :: around) handle

/-- The reference is the one of the place and has the innermost scope around it. -/
structure Settled (records : List ScopeRecord) (reference : Reference) (place : Place) : Prop where
  isOf : place.site.IsOf reference
  scope : ∃ handle, reference.scope = some handle ∧ Stacked records place.around handle

namespace ScopeItem

variable {records : List ScopeRecord}

mutual

/-- Each reference of an item has the scopes of its place, if the records have those of the item
where they begin. -/
theorem settled_references :
    ∀ (item : ScopeItem) {held : List Binder} {around : List Surrounding} {here : ScopeHandle}
      {next : Nat}, Stacked records around here → here.index < next →
        item.walkedRecords held here next <+: records.drop next →
          List.Forall₂ (Settled records) (item.references here next) (item.places held around)
  | binder _, _, _, _, _, _, _, _ => .nil
  | reference _ _, _, _, here, _, stacked, _, _ =>
      .cons ⟨⟨rfl, rfl, rfl⟩, here, rfl, stacked⟩ .nil
  | scope kind own before inside, held, around, here, next, stacked, later, lies => by
      rw [walkedRecords] at lies
      rcases prefix_drop_append lies with ⟨first, rest⟩
      rw [length_walkedRecordsAll] at rest
      rcases getElem?_of_prefix_drop rest with ⟨found, second⟩
      have inner : Stacked records (⟨⟨⟨kind, own, inside⟩, before⟩,
            stillHeld (held ++ own) (scopeCountAll before)⟩ :: around)
          ⟨next + scopeCountAll before⟩ :=
        .nested stacked (Nat.lt_of_lt_of_le later (Nat.le_add_right ..)) found
      exact List.rel_append (settled_referencesAll before stacked later first)
        (settled_referencesAll inside inner (Nat.lt_succ_self _) second)

theorem settled_referencesAll :
    ∀ (items : List ScopeItem) {held : List Binder} {around : List Surrounding}
      {here : ScopeHandle} {next : Nat}, Stacked records around here → here.index < next →
        walkedRecordsAll held here next items <+: records.drop next →
          List.Forall₂ (Settled records) (referencesAll here next items)
            (placesAll held around items)
  | [], _, _, _, _, _, _, _ => .nil
  | item :: items, held, around, here, next, stacked, later, lies => by
      rw [walkedRecordsAll] at lies
      rcases prefix_drop_append lies with ⟨first, rest⟩
      rw [length_walkedRecords] at rest
      exact List.rel_append (settled_references item stacked later first)
        (settled_referencesAll items stacked (Nat.lt_of_lt_of_le later (Nat.le_add_right ..)) rest)

end

end ScopeItem

theorem ScopeAnalysis.settled_references (program : Program) :
    List.Forall₂ (Settled program.walkedRecords) (ofProgram program).references program.places := by
  have settled : List.Forall₂ (Settled program.walkedRecords) program.scopedReferences
      program.places :=
    ScopeItem.settled_referencesAll program.scopeItems .module Nat.zero_lt_one
      (List.prefix_refl _)
  rw [← erased_references, List.forall₂_map_left_iff] at settled
  exact settled.imp fun _ _ settled => ⟨⟨settled.isOf.name, settled.isOf.span, settled.isOf.space⟩,
    settled.scope⟩

/-! ## Resolution -/

theorem Frame.declaresIn_iff {table : ScopeTable} {records : List ScopeRecord}
    (same : List.Forall₂ ScopeRecord.Same table.records.toList records) {frame : Frame}
    {handle : ScopeHandle} {parent : Option ScopeHandle}
    (found : records[handle.index]? = some (frame.record parent)) (name : String)
    (space : Namespace) :
    table.declaresIn handle name space = true ↔ frame.DeclaresIn name space := by
  cases space with
  | value =>
      rw [ScopeTable.declaresIn, ScopeTable.declares_iff_of_same same found]
      rfl
  | type =>
      rw [ScopeTable.declaresIn, Bool.or_eq_true, ScopeTable.declares_iff_of_same same found,
        ScopeTable.declaresType_iff_of_same same found]
      rfl

/-- Looking a name up from the innermost scope outwards ends at the module exactly if no scope
around the place declares it. -/
theorem Stacked.resolveAlong_eq_root_iff {table : ScopeTable} {records : List ScopeRecord}
    (same : List.Forall₂ ScopeRecord.Same table.records.toList records)
    (nonempty : table.get? .root ≠ none) {around : List Surrounding} {handle : ScopeHandle}
    (stacked : Stacked records around handle) (name : String) (space : Namespace) {count : Nat}
    (enough : handle.index < count) :
    table.resolveAlong name space (table.ancestors count handle) = .root ↔
      ∀ surrounding ∈ around, ¬ surrounding.frame.DeclaresIn name space := by
  induction stacked generalizing count with
  | module =>
      rcases count with _ | count
      · exact absurd enough (Nat.not_lt_zero _)
      rcases Option.ne_none_iff_exists'.mp nonempty with ⟨record, found⟩
      have first : table.resolveAlong name space (table.ancestors (count + 1) .root) = .root := by
        simp only [ScopeTable.ancestors, found]
        split <;> simp [ScopeTable.resolveAlong]
      simp [first]
  | @nested surrounding around parent handle outer later found induction =>
      rcases ScopeTable.exists_same same found with ⟨record, get, equal⟩
      have below : handle ≠ .root := by
        rintro rfl
        exact Nat.not_lt_zero _ later
      rcases count with _ | count
      · exact absurd enough (Nat.not_lt_zero _)
      have step : table.ancestors (count + 1) handle = handle :: table.ancestors count parent := by
        simp only [ScopeTable.ancestors, get, equal.parent, Frame.record]
      have declares := Frame.declaresIn_iff same found name space
      rw [step, ScopeTable.resolveAlong, if_neg below, List.forall_mem_cons, ← declares]
      split
      case isTrue declared => simp [declared]
      case isFalse free =>
        rw [induction (Nat.lt_of_lt_of_le later (Nat.le_of_lt_succ enough))]
        simp [free]

/-- A name means the module's at a place exactly if no scope around the place declares it. -/
theorem ScopeAnalysis.resolveIn_eq_root_iff (program : Program) :
    List.Forall₂ (fun reference place => place.site.IsOf reference ∧
        ∀ name space, (ofProgram program).scopes.resolveIn reference.scope name space = .root ↔
          ∀ surrounding ∈ place.around, ¬ surrounding.frame.DeclaresIn name space)
      (ofProgram program).references program.places := by
  refine (settled_references program).imp fun reference place settled =>
    ⟨settled.isOf, fun name space => ?_⟩
  rcases settled.scope with ⟨handle, scope, stacked⟩
  have same := same_walkedRecords program
  have nonempty : (ofProgram program).scopes.get? .root ≠ none := by
    have top : program.walkedRecords[ScopeHandle.root.index]? = some (program.frame.record none) :=
      rfl
    rcases ScopeTable.exists_same same top with ⟨record, found, -⟩
    simp [found]
  rw [scope]
  exact stacked.resolveAlong_eq_root_iff same nonempty name space (Nat.lt_succ_self _)

/-- What the names of the references mean where they stand. -/
def Syntax.Program.meanings (program : Program) : List Resolution :=
  let analysis := ScopeAnalysis.ofProgram program
  analysis.references.map fun reference => reference.resolve analysis.scopes reference.name

end IconSize
