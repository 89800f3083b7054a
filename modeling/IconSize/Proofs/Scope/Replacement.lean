import IconSize.Proofs.Scope.Places
import IconSize.Proofs.Syntax.Context

/-!
What a module is to scopes when a part of it is replaced. If the new part binds the same around it
and opens scopes as the old one does, the scopes outside of it stay as they are. If it opens as many
scopes, their records stay where they are.
-/

namespace IconSize
open Syntax

namespace ScopeItem

variable {old new : List ScopeItem}

/-- Items that bind the same in the scopes around them, and that both open scopes or both do not. -/
structure Alike (old new : List ScopeItem) : Prop where
  bound : localBindersAll old = localBindersAll new
  hoisted : hoistedBindersAll old = hoistedBindersAll new
  opens : scopeCountAll old = 0 ↔ scopeCountAll new = 0

namespace Alike

theorem layerFill (alike : Alike old new) (layer : Layer) :
    Alike (layer.fill old) (layer.fill new) := by
  cases layer with
  | beside front back =>
      exact ⟨by simp [Layer.fill, alike.bound], by simp [Layer.fill, alike.hoisted],
        by simp [Layer.fill, alike.opens]⟩
  | within kind own before =>
      exact ⟨rfl, by simp [Layer.fill, hoistedBindersAll, hoistedBinders, alike.hoisted],
        by simp [Layer.fill, scopeCountAll, scopeCount]⟩
  | ahead kind own inside =>
      exact ⟨by simp [Layer.fill, localBindersAll, localBinders, alike.bound],
        by simp [Layer.fill, hoistedBindersAll, hoistedBinders, alike.hoisted],
        by simp [Layer.fill, scopeCountAll, scopeCount]⟩

theorem fillAll (alike : Alike old new) (layers : List Layer) :
    Alike (fillAll old layers) (fillAll new layers) := by
  induction layers with
  | nil => exact alike
  | cons layer layers induction => exact induction.layerFill layer

/-- A scope with one of the items has the record of that with the others. -/
theorem record_eq (alike : Alike old new) (kind : ScopeKind) (own : List Binder)
    (parent : Option ScopeHandle) :
    (Frame.mk kind own old).record parent = (Frame.mk kind own new).record parent := by
  simp only [Frame.record, Frame.hoisted, declaredValues, declaredTypes, alike.bound,
    alike.hoisted]

end Alike

theorem scopeCountAll_fillAll (same : scopeCountAll old = scopeCountAll new) (layers : List Layer) :
    scopeCountAll (fillAll old layers) = scopeCountAll (fillAll new layers) := by
  induction layers with
  | nil => exact same
  | cons layer layers induction =>
      cases layer <;> simp [Layer.fill, scopeCountAll, scopeCount, induction]

end ScopeItem

/-! ## Places in a hole -/

namespace ScopeItem

mutual

/-- How many references the item holds, in whichever scopes. -/
def referenceCount : ScopeItem → Nat
  | binder _ => 0
  | reference _ _ => 1
  | scope _ _ before inside => referenceCountAll before + referenceCountAll inside

def referenceCountAll : List ScopeItem → Nat
  | [] => 0
  | item :: items => item.referenceCount + referenceCountAll items

end

mutual

theorem length_places : ∀ (item : ScopeItem) (held : List Binder) (around : List Surrounding),
    (item.places held around).length = item.referenceCount
  | binder _, _, _ => rfl
  | reference _ _, _, _ => rfl
  | scope _ _ before inside, _, _ => by
      rw [places, List.length_append, length_placesAll before, length_placesAll inside,
        referenceCount]

theorem length_placesAll :
    ∀ (items : List ScopeItem) (held : List Binder) (around : List Surrounding),
      (placesAll held around items).length = referenceCountAll items
  | [], _, _ => rfl
  | item :: items, _, _ => by
      rw [placesAll, List.length_append, length_places item, length_placesAll items,
        referenceCountAll]

end

namespace Layer

/-- How many references of the layer come before the hole. -/
def referencesBefore : Layer → Nat
  | beside front _ => referenceCountAll front
  | within _ _ before => referenceCountAll before
  | ahead _ _ _ => 0

/-- The names that wait for the next scope in the hole. -/
def waiting (held : List Binder) : Layer → List Binder
  | beside front _ => stillHeld held (scopeCountAll front)
  | within _ _ _ => []
  | ahead _ own _ => held ++ own

/-- The scopes around the hole, if it holds these items. -/
def around (held : List Binder) (outer : List Surrounding) (items : List ScopeItem) :
    Layer → List Surrounding
  | beside _ _ => outer
  | within kind own before =>
    ⟨⟨⟨kind, own, items⟩, before⟩, stillHeld (held ++ own) (scopeCountAll before)⟩ :: outer
  | ahead _ _ _ => outer

theorem places_prefix (layer : Layer) (held : List Binder) (outer : List Surrounding)
    (items : List ScopeItem) :
    placesAll (layer.waiting held) (layer.around held outer items) items <+:
      (placesAll held outer (layer.fill items)).drop layer.referencesBefore := by
  cases layer with
  | beside front back =>
      rw [fill, placesAll_append, placesAll_append, referencesBefore, ← length_placesAll front held
        outer, List.append_assoc, List.drop_left]
      exact List.prefix_append _ _
  | within kind own before =>
      rw [fill, placesAll, placesAll, places, referencesBefore,
        ← length_placesAll before (held ++ own) outer, List.append_nil, List.drop_left]
      exact List.prefix_refl _
  | ahead kind own inside =>
      rw [fill, placesAll, placesAll, places, referencesBefore, List.append_nil, List.drop_zero]
      exact List.prefix_append _ _

end Layer

/-- The names that wait for the next scope inside all the layers. -/
def waitingAt (held : List Binder) (layers : List Layer) : List Binder :=
  layers.foldl Layer.waiting held

/-- The scopes around the hole inside all the layers, if it holds these items. -/
def aroundAt (items : List ScopeItem) (held : List Binder) (outer : List Surrounding) :
    List Layer → List Surrounding
  | [] => outer
  | layer :: layers =>
    aroundAt items (layer.waiting held) (layer.around held outer (fillAll items layers)) layers

def referencesBefore : List Layer → Nat
  | [] => 0
  | layer :: layers => layer.referencesBefore + referencesBefore layers

theorem referencesBefore_append (outer inner : List Layer) :
    referencesBefore (outer ++ inner) = referencesBefore outer + referencesBefore inner := by
  induction outer with
  | nil => exact (Nat.zero_add _).symm
  | cons layer outer induction => simp [referencesBefore, induction, Nat.add_assoc]

theorem prefix_drop_trans {Element : Type} {inner middle all : List Element} {first second : Nat}
    (within : inner <+: middle.drop second) (lies : middle <+: all.drop first) :
    inner <+: all.drop (first + second) := by
  rw [← List.drop_drop]
  exact within.trans (lies.drop second)

/-- The places of the items in the hole stand together, after those of the layers before it. -/
theorem places_prefix_fillAll (items : List ScopeItem) (layers : List Layer) (held : List Binder)
    (outer : List Surrounding) :
    placesAll (waitingAt held layers) (aroundAt items held outer layers) items <+:
      (placesAll held outer (fillAll items layers)).drop (referencesBefore layers) := by
  induction layers generalizing held outer with
  | nil => exact List.prefix_refl _
  | cons layer layers induction =>
      exact prefix_drop_trans (induction _ _)
        (layer.places_prefix held outer (fillAll items layers))

theorem aroundAt_append (items : List ScopeItem) (held : List Binder) (outer : List Surrounding)
    (front back : List Layer) :
    aroundAt items held outer (front ++ back) =
      aroundAt items (waitingAt held front) (aroundAt (fillAll items back) held outer front)
        back := by
  induction front generalizing held outer with
  | nil => rfl
  | cons layer front induction =>
      rw [List.cons_append, aroundAt, induction, fillAll_append]
      rfl

end ScopeItem

/-- Scopes that declare the same names. -/
def Surrounding.Agrees (old new : Surrounding) : Prop :=
  old.frame.record none = new.frame.record none

theorem Surrounding.Agrees.declaresIn_iff {old new : Surrounding} (agree : old.Agrees new)
    (name : String) (space : Namespace) :
    old.frame.DeclaresIn name space ↔ new.frame.DeclaresIn name space := by
  cases space <;> simp only [Frame.DeclaresIn, show old.frame.record none = _ from agree]

theorem Surrounding.forall_not_declaresIn_iff {old new : List Surrounding}
    (agree : List.Forall₂ Agrees old new) (name : String) (space : Namespace) :
    (∀ surrounding ∈ old, ¬ surrounding.frame.DeclaresIn name space) ↔
      ∀ surrounding ∈ new, ¬ surrounding.frame.DeclaresIn name space := by
  induction agree with
  | nil => rfl
  | cons agrees _ induction =>
      rw [List.forall_mem_cons, List.forall_mem_cons, agrees.declaresIn_iff, induction]

/-- The scopes around the hole declare the same as before. -/
theorem ScopeItem.Alike.aroundAt {old new : List ScopeItem} (alike : Alike old new)
    (layers : List Layer) (held : List Binder) {outer outer' : List Surrounding}
    (agree : List.Forall₂ Surrounding.Agrees outer outer') :
    List.Forall₂ Surrounding.Agrees (aroundAt old held outer layers)
      (aroundAt new held outer' layers) := by
  induction layers generalizing held outer outer' with
  | nil => exact agree
  | cons layer layers induction =>
      refine induction (layer.waiting held) ?_
      cases layer with
      | within kind own before => exact .cons ((alike.fillAll layers).record_eq ..) agree
      | _ => exact agree

/-! ## Places in further scopes -/

/-- The place with further scopes around it. -/
def Place.inside (place : Place) (outer : List Surrounding) : Place :=
  ⟨place.name, place.space, place.around ++ outer⟩

namespace ScopeItem

mutual

theorem places_inside :
    ∀ (item : ScopeItem) (held : List Binder) (around outer : List Surrounding),
      item.places held (around ++ outer) = (item.places held around).map (·.inside outer)
  | binder _, _, _, _ => rfl
  | reference _ _, _, _, _ => rfl
  | scope kind own before inside, held, around, outer => by
      simp only [places, List.map_append, placesAll_inside before, ← List.cons_append,
        placesAll_inside inside]

theorem placesAll_inside :
    ∀ (items : List ScopeItem) (held : List Binder) (around outer : List Surrounding),
      placesAll held (around ++ outer) items = (placesAll held around items).map (·.inside outer)
  | [], _, _, _ => rfl
  | item :: items, held, around, outer => by
      simp only [placesAll, List.map_append, places_inside item, placesAll_inside items]

end

/-- Items that lie in some scopes have the places that they would have at the top, with these scopes
around them. -/
theorem placesAll_eq_map (held : List Binder) (outer : List Surrounding)
    (items : List ScopeItem) :
    placesAll held outer items = (placesAll held [] items).map (·.inside outer) :=
  placesAll_inside items held [] outer

/-! ## Records and references in a hole -/

theorem walkedRecordsAll_append (held : List Binder) (parent : ScopeHandle) (next : Nat)
    (front back : List ScopeItem) :
    walkedRecordsAll held parent next (front ++ back) =
      walkedRecordsAll held parent next front
        ++ walkedRecordsAll (stillHeld held (scopeCountAll front)) parent
          (next + scopeCountAll front) back := by
  induction front generalizing held next with
  | nil => simp [walkedRecordsAll, scopeCountAll, stillHeld]
  | cons item front induction =>
      simp [walkedRecordsAll, scopeCountAll, induction, stillHeld_stillHeld, Nat.add_assoc]

theorem referencesAll_append (parent : ScopeHandle) (next : Nat) (front back : List ScopeItem) :
    referencesAll parent next (front ++ back) =
      referencesAll parent next front
        ++ referencesAll parent (next + scopeCountAll front) back := by
  induction front generalizing next with
  | nil => simp [referencesAll, scopeCountAll]
  | cons item front induction =>
      simp [referencesAll, scopeCountAll, induction, Nat.add_assoc]

mutual

theorem length_references : ∀ (item : ScopeItem) (parent : ScopeHandle) (next : Nat),
    (item.references parent next).length = item.referenceCount
  | binder _, _, _ => rfl
  | reference _ _, _, _ => rfl
  | scope _ _ before inside, _, _ => by
      rw [references, List.length_append, length_referencesAll before, length_referencesAll inside,
        referenceCount]

theorem length_referencesAll : ∀ (items : List ScopeItem) (parent : ScopeHandle) (next : Nat),
    (referencesAll parent next items).length = referenceCountAll items
  | [], _, _ => rfl
  | item :: items, _, _ => by
      rw [referencesAll, List.length_append, length_references item, length_referencesAll items,
        referenceCountAll]

end

namespace Layer

/-- The scope of the hole. -/
def parent (here : ScopeHandle) (next : Nat) : Layer → ScopeHandle
  | beside _ _ => here
  | within _ _ before => ⟨next + scopeCountAll before⟩
  | ahead _ _ _ => here

theorem records_prefix (layer : Layer) (held : List Binder) (here : ScopeHandle) (next : Nat)
    (items : List ScopeItem) :
    walkedRecordsAll (layer.waiting held) (layer.parent here next) (next + layer.scopesBefore)
        items <+:
      (walkedRecordsAll held here next (layer.fill items)).drop layer.scopesBefore := by
  cases layer with
  | beside front back =>
      rw [fill, walkedRecordsAll_append, walkedRecordsAll_append, List.append_assoc]
      exact List.drop_left' (length_walkedRecordsAll ..) ▸ List.prefix_append _ _
  | within kind own before =>
      rw [fill, walkedRecordsAll, walkedRecordsAll, walkedRecords, List.append_nil, scopesBefore,
        ← List.drop_drop, List.drop_left' (length_walkedRecordsAll ..)]
      exact List.prefix_refl _
  | ahead kind own inside =>
      rw [fill, walkedRecordsAll, walkedRecordsAll, walkedRecords, List.append_nil]
      exact List.prefix_append _ _

theorem references_prefix (layer : Layer) (here : ScopeHandle) (next : Nat)
    (items : List ScopeItem) :
    referencesAll (layer.parent here next) (next + layer.scopesBefore) items <+:
      (referencesAll here next (layer.fill items)).drop layer.referencesBefore := by
  cases layer with
  | beside front back =>
      rw [fill, referencesAll_append, referencesAll_append, List.append_assoc]
      exact List.drop_left' (length_referencesAll ..) ▸ List.prefix_append _ _
  | within kind own before =>
      rw [fill, referencesAll, referencesAll, references, List.append_nil, referencesBefore,
        List.drop_left' (length_referencesAll ..)]
      exact List.prefix_refl _
  | ahead kind own inside =>
      rw [fill, referencesAll, referencesAll, references, List.append_nil]
      exact List.prefix_append _ _

end Layer

/-- The scope of the hole inside all the layers. -/
def parentAt (here : ScopeHandle) (next : Nat) : List Layer → ScopeHandle
  | [] => here
  | layer :: layers => parentAt (layer.parent here next) (next + layer.scopesBefore) layers

/-- The records of the scopes in the hole stand together, after those that begin before it. -/
theorem records_prefix_fillAll (items : List ScopeItem) (layers : List Layer) (held : List Binder)
    (here : ScopeHandle) (next : Nat) :
    walkedRecordsAll (waitingAt held layers) (parentAt here next layers)
        (next + scopesBefore layers) items <+:
      (walkedRecordsAll held here next (fillAll items layers)).drop (scopesBefore layers) := by
  induction layers generalizing held here next with
  | nil => exact List.prefix_refl _
  | cons layer layers induction =>
      rw [scopesBefore, ← Nat.add_assoc]
      exact prefix_drop_trans (induction ..) (layer.records_prefix held here next _)

/-- The references in the hole stand together, after those of the layers before it. -/
theorem references_prefix_fillAll (items : List ScopeItem) (layers : List Layer)
    (here : ScopeHandle) (next : Nat) :
    referencesAll (parentAt here next layers) (next + scopesBefore layers) items <+:
      (referencesAll here next (fillAll items layers)).drop (referencesBefore layers) := by
  induction layers generalizing here next with
  | nil => exact List.prefix_refl _
  | cons layer layers induction =>
      rw [scopesBefore, ← Nat.add_assoc]
      exact prefix_drop_trans (induction ..) (layer.references_prefix here next _)

/-- References keep their scopes if the new part of the module opens as many scopes as the old. -/
theorem referencesAll_fillAll {old new : List ScopeItem}
    (scopes : scopeCountAll old = scopeCountAll new)
    (same : ∀ here next, referencesAll here next old = referencesAll here next new)
    (layers : List Layer) (here : ScopeHandle) (next : Nat) :
    referencesAll here next (fillAll old layers) =
      referencesAll here next (fillAll new layers) := by
  induction layers generalizing here next with
  | nil => exact same here next
  | cons layer layers induction =>
      have count := scopeCountAll_fillAll scopes layers
      cases layer <;>
        simp [Layer.fill, referencesAll_append, referencesAll, references, induction, count]

end ScopeItem

namespace Syntax.Program.Context

/-- The scope of the hole. -/
def scope (context : Context) : ScopeHandle := ScopeItem.parentAt .root 1 context.itemLayers

/-- The names that wait for a scope where the hole begins. -/
def waiting (context : Context) : List Binder := ScopeItem.waitingAt [] context.itemLayers

/-- How many references of the module come before the hole. -/
def referencesBefore (context : Context) : Nat := ScopeItem.referencesBefore context.itemLayers

end Syntax.Program.Context
end IconSize
