import IconSize.Proofs.Edits.Outcome
import IconSize.Proofs.Scope.ModuleScopes

/-!
What shadows an import. A binder around a reference keeps it from the imports of its name, unless
the scope table leaves the binder out: it has no members of enumerations, no aliases of imports and
no parameters of signatures, and the name of a class expression goes astray where decorators open
scopes before the class does.
-/

namespace IconSize
open Syntax

/-! ## Places of references -/

/-- A scope around a place, and the items of its form that stand before it. -/
structure Enclosure where
  frame : Frame
  before : List ScopeItem

/-- A place where a name is referred to, with the scopes around it below the module, innermost
first. -/
structure Site where
  name : Identifier
  space : Namespace
  around : List Enclosure

namespace ScopeItem

mutual

/-- The places of the references of an item that lies in the given scopes. -/
def sites (around : List Enclosure) : ScopeItem → List Site
  | binder _ => []
  | reference name space => [⟨name, space, around⟩]
  | scope kind own before inside =>
    sitesAll around before ++ sitesAll (⟨⟨kind, own, inside⟩, before⟩ :: around) inside

def sitesAll (around : List Enclosure) : List ScopeItem → List Site
  | [] => []
  | item :: items => item.sites around ++ sitesAll around items

end

end ScopeItem

def Syntax.Program.sites (program : Program) : List Site :=
  ScopeItem.sitesAll [] program.scopeItems

structure Site.IsOf (site : Site) (reference : Reference) : Prop where
  name : reference.name = site.name.name
  span : reference.span = site.name.span
  space : reference.space = site.space

/-! ## Scopes around a place and their records -/

/-- The record at the handle is that of the innermost scope around a place, and those of the other
scopes are its parents. -/
inductive Encloses (records : List ScopeRecord) : List Enclosure → ScopeHandle → Prop
  | module : Encloses records [] .root
  | nested {enclosure : Enclosure} {around : List Enclosure} {parent handle : ScopeHandle}
      {given : List Binder} (outer : Encloses records around parent)
      (later : parent.index < handle.index)
      (found : records[handle.index]? =
        some ((Frame.mk enclosure.frame.kind given enclosure.frame.inside).record (some parent)))
      (reached : ScopeItem.scopeCountAll enclosure.before = 0 →
        ∀ binder ∈ enclosure.frame.own, binder ∈ given) :
      Encloses records (enclosure :: around) handle

/-- The reference is the one of the place, and its scope is the innermost around that. -/
structure Placed (records : List ScopeRecord) (reference : Reference) (site : Site) : Prop where
  isOf : site.IsOf reference
  scope : ∃ handle, reference.scope = some handle ∧ Encloses records site.around handle

theorem prefix_drop_append {Element : Type} {all front back : List Element} {next : Nat}
    (lies : front ++ back <+: all.drop next) :
    front <+: all.drop next ∧ back <+: all.drop (next + front.length) := by
  rcases lies with ⟨rest, equal⟩
  refine ⟨⟨back ++ rest, by rw [← equal, List.append_assoc]⟩, ⟨rest, ?_⟩⟩
  rw [← List.drop_drop, ← equal, List.append_assoc, List.drop_left]

theorem getElem?_of_prefix_drop {Element : Type} {all back : List Element} {first : Element}
    {next : Nat} (lies : first :: back <+: all.drop next) :
    all[next]? = some first ∧ back <+: all.drop (next + 1) := by
  rcases lies with ⟨rest, equal⟩
  constructor
  · have head := congrArg (·[0]?) equal
    simpa using head.symm
  · exact ⟨rest, by rw [← List.drop_drop, ← equal]; rfl⟩

namespace ScopeItem

variable {records : List ScopeRecord}

mutual

/-- Each reference of an item belongs to its place, if the records have those of the item where
they begin. -/
theorem placed_references :
    ∀ (item : ScopeItem) {held : List Binder} {around : List Enclosure} {here : ScopeHandle}
      {next : Nat}, Encloses records around here → here.index < next →
        item.walkedRecords held here next <+: records.drop next →
          List.Forall₂ (Placed records) (item.references here next) (item.sites around)
  | binder _, _, _, _, _, _, _, _ => .nil
  | reference _ _, _, _, here, _, encloses, _, _ =>
      .cons ⟨⟨rfl, rfl, rfl⟩, here, rfl, encloses⟩ .nil
  | scope kind own before inside, held, around, here, next, encloses, later, lies => by
      rw [walkedRecords] at lies
      rcases prefix_drop_append lies with ⟨first, rest⟩
      rw [length_walkedRecordsAll] at rest
      rcases getElem?_of_prefix_drop rest with ⟨found, second⟩
      have inner : Encloses records (⟨⟨kind, own, inside⟩, before⟩ :: around)
          ⟨next + scopeCountAll before⟩ :=
        .nested encloses (Nat.lt_of_lt_of_le later (Nat.le_add_right ..)) found
          fun none binder member => by simp [stillHeld, none, member]
      exact List.rel_append (placed_referencesAll before encloses later first)
        (placed_referencesAll inside inner (Nat.lt_succ_self _) second)

theorem placed_referencesAll :
    ∀ (items : List ScopeItem) {held : List Binder} {around : List Enclosure} {here : ScopeHandle}
      {next : Nat}, Encloses records around here → here.index < next →
        walkedRecordsAll held here next items <+: records.drop next →
          List.Forall₂ (Placed records) (referencesAll here next items) (sitesAll around items)
  | [], _, _, _, _, _, _, _ => .nil
  | item :: items, held, around, here, next, encloses, later, lies => by
      rw [walkedRecordsAll] at lies
      rcases prefix_drop_append lies with ⟨first, rest⟩
      rw [length_walkedRecords] at rest
      exact List.rel_append (placed_references item encloses later first)
        (placed_referencesAll items encloses (Nat.lt_of_lt_of_le later (Nat.le_add_right ..)) rest)

end

end ScopeItem

theorem ScopeAnalysis.placed_references (program : Program) :
    List.Forall₂ (Placed program.walkedRecords) (ofProgram program).references program.sites := by
  have placed : List.Forall₂ (Placed program.walkedRecords) program.scopedReferences
      program.sites :=
    ScopeItem.placed_referencesAll program.scopeItems .module Nat.zero_lt_one
      (List.prefix_refl _)
  rw [← erased_references, List.forall₂_map_left_iff] at placed
  exact placed.imp fun _ _ placed => ⟨⟨placed.isOf.name, placed.isOf.span, placed.isOf.space⟩,
    placed.scope⟩

/-! ## Binders that shadow -/

/-- Is the binder left out of the scope table although it binds a value? -/
def BinderForm.isLeftOut : BinderForm → Bool
  | importAlias | signatureParameter | enumMember => true
  | _ => false

theorem BinderForm.declaresValue_of_isValue {form : BinderForm} (value : form.isValue = true)
    (kept : form.isLeftOut = false) : form.declaresValue = true := by
  cases form <;> simp_all [isValue, isLeftOut, declaresValue]

/-- Does the scope table miss the binder of the scope? It has neither what it leaves out nor what
the form of the scope binds while other scopes begin before. -/
def Enclosure.Misses (enclosure : Enclosure) (binder : Binder) : Prop :=
  binder.form.isLeftOut = true ∨
    (binder ∈ enclosure.frame.own ∧ ScopeItem.scopeCountAll enclosure.before ≠ 0)

theorem Enclosure.mem_names {enclosure : Enclosure} {binder : Binder} {given : List Binder}
    (bound : binder ∈ enclosure.frame.binders) (value : binder.form.isValue = true)
    (kept : ¬ enclosure.Misses binder)
    (reached : ScopeItem.scopeCountAll enclosure.before = 0 →
      ∀ binder ∈ enclosure.frame.own, binder ∈ given) (parent : Option ScopeHandle) :
    binder.name ∈
      ((Frame.mk enclosure.frame.kind given enclosure.frame.inside).record parent).names := by
  simp only [Misses, not_or, not_and, not_not, Bool.not_eq_true] at kept
  have declared := BinderForm.declaresValue_of_isValue value kept.1
  simp only [Frame.binders, List.mem_append, or_assoc] at bound
  simp only [Frame.record, ScopeItem.declaredValues, List.mem_append, List.mem_map,
    List.mem_filter, or_assoc]
  rcases bound with own | inside | hoisted
  · exact .inl ⟨binder, reached (kept.2 own) binder own, rfl⟩
  · exact .inr (.inl ⟨binder, ⟨inside, declared⟩, rfl⟩)
  · exact .inr (.inr ⟨binder, hoisted, rfl⟩)

/-- Each scope around a place is found, with its record, on the way from the place outwards. -/
theorem Encloses.exists_nested {table : ScopeTable} {records : List ScopeRecord}
    (same : List.Forall₂ ScopeRecord.Same table.records.toList records)
    {around : List Enclosure} {handle : ScopeHandle} (encloses : Encloses records around handle)
    {enclosure : Enclosure} (member : enclosure ∈ around) {count : Nat}
    (enough : handle.index < count) :
    ∃ nested ∈ (table.ancestors count handle).takeWhile (· ≠ .root), ∃ given parent,
      records[nested.index]? =
          some ((Frame.mk enclosure.frame.kind given enclosure.frame.inside).record parent) ∧
        (ScopeItem.scopeCountAll enclosure.before = 0 →
          ∀ binder ∈ enclosure.frame.own, binder ∈ given) := by
  induction encloses generalizing count with
  | module => cases member
  | @nested inner around parent handle given outer later found reached induction =>
      rcases ScopeTable.exists_same same found with ⟨record, get, equal⟩
      have below : handle ≠ .root := by
        rintro rfl
        exact Nat.not_lt_zero _ later
      -- Parents come earlier, so that the steps left are enough for the scopes left.
      rcases count with _ | count
      · exact absurd enough (Nat.not_lt_zero _)
      have step : (table.ancestors (count + 1) handle).takeWhile (· ≠ .root) =
          handle :: (table.ancestors count parent).takeWhile (· ≠ .root) := by
        simp only [ScopeTable.ancestors, get, equal.parent, Frame.record]
        exact List.takeWhile_cons_of_pos (by simpa using below)
      rw [step]
      rcases List.mem_cons.mp member with rfl | further
      · exact ⟨handle, List.mem_cons_self, given, some parent, found, reached⟩
      · rcases induction further (Nat.lt_of_lt_of_le later (Nat.le_of_lt_succ enough)) with
          ⟨nested, inside, rest⟩
        exact ⟨nested, List.mem_cons_of_mem _ inside, rest⟩

/-- What a scope around a place declares is found on the way from the place outwards. -/
theorem Encloses.exists_declares {table : ScopeTable} {records : List ScopeRecord}
    (same : List.Forall₂ ScopeRecord.Same table.records.toList records)
    {around : List Enclosure} {handle : ScopeHandle} (encloses : Encloses records around handle)
    {enclosure : Enclosure} (member : enclosure ∈ around) {binder : Binder}
    (bound : binder ∈ enclosure.frame.binders) (value : binder.form.isValue = true)
    (kept : ¬ enclosure.Misses binder) {count : Nat} (enough : handle.index < count) :
    ∃ nested ∈ (table.ancestors count handle).takeWhile (· ≠ .root),
      table.declares nested binder.name = true := by
  rcases encloses.exists_nested same member enough with
    ⟨nested, inside, given, parent, found, reached⟩
  exact ⟨nested, inside, (ScopeTable.declares_iff_of_same same found).mpr
    (Enclosure.mem_names bound value kept reached _)⟩

/-- Where a scope around a reference declares its name, it does not mean the import, and no renaming
touches it. -/
theorem Reference.not_renamed_of_declared {analysis : ScopeAnalysis} {reference : Reference}
    {handle nested : ScopeHandle} (scope : reference.scope = some handle)
    (inside : nested ∈ (analysis.scopes.chain handle).takeWhile (· ≠ .root))
    (declared : analysis.scopes.declaresIn nested reference.name reference.space = true) :
    reference.resolve analysis.scopes reference.name ≠ .root ∧
      ∀ binding : ImportBinding, reference ∉ binding.renamedReferences analysis := by
  have shadowed : reference.resolve analysis.scopes reference.name ≠ .root := by
    intro root
    rw [Reference.resolve, scope, ScopeTable.resolveIn_eq_root_iff] at root
    have free := root.2 nested inside
    rw [declared] at free
    cases free
  -- What a renaming touches means the import under the local name, which is its own.
  refine ⟨shadowed, fun binding renamed => shadowed ?_⟩
  rcases ImportBinding.mem_renamedReferences.mp renamed with ⟨_, local_, root⟩
  rw [local_]
  exact root

/-- A reference in the scope of a binder of its name does not mean the import, and no renaming
touches it, unless the scope table misses the binder. -/
theorem value_binders_shadow_unless_missed (program : Program) :
    let analysis := ScopeAnalysis.ofProgram program
    List.Forall₂ (fun reference site => site.IsOf reference ∧
        ∀ enclosure ∈ site.around, ∀ binder ∈ enclosure.frame.binders,
          binder.name = reference.name → binder.form.isValue = true →
            ¬ enclosure.Misses binder →
              reference.resolve analysis.scopes reference.name ≠ .root ∧
                ∀ binding : ImportBinding, reference ∉ binding.renamedReferences analysis)
      analysis.references program.sites := by
  intro analysis
  refine (ScopeAnalysis.placed_references program).imp fun reference site placed =>
    ⟨placed.isOf, fun enclosure member binder bound named value kept => ?_⟩
  rcases placed.scope with ⟨handle, scope, encloses⟩
  rcases encloses.exists_declares (ScopeAnalysis.same_walkedRecords program) member bound value
    kept (Nat.lt_succ_self _) with ⟨nested, inside, declared⟩
  rw [named] at declared
  refine Reference.not_renamed_of_declared scope inside ?_
  cases reference.space <;> simp [ScopeTable.declaresIn, analysis, declared]

/-- Does some reference mean what the module itself declares although a value of its name is bound
in a scope around it? -/
def Syntax.Program.hasMissedBinder (program : Program) : Bool :=
  let analysis := ScopeAnalysis.ofProgram program
  (analysis.references.zip program.sites).any fun (reference, site) =>
    reference.resolve analysis.scopes reference.name == .root &&
      site.around.any fun enclosure => enclosure.frame.binders.any fun binder =>
        binder.name == reference.name && binder.form.isValue

/-- `enum E { A = 1, B = A }` -/
private def memberInEnumeration : Program :=
  ⟨[.enumeration ⟨"E", ⟨5, 6⟩⟩
    [.enumMember "A" (some (.group .literal [])),
      .enumMember "B" (some (.reference ⟨"A", ⟨20, 21⟩⟩))]]⟩

/-- `namespace N { import A = M.A; A; }` -/
private def aliasInNamespace : Program :=
  ⟨[.namespaceBlock (some ⟨"N", ⟨10, 11⟩⟩)
    [.importEquals ⟨"A", ⟨21, 22⟩⟩ [.reference ⟨"M", ⟨25, 26⟩⟩],
      .group .expressionStatement [.reference ⟨"A", ⟨30, 31⟩⟩]]]⟩

/-- `(@d(() => 1) class A { m() { A; } });` -/
private def decoratedClass : Program :=
  ⟨[.group .expressionStatement [.parenthesized (.classNode .expression
    [.group .decorator [.group .call [.reference ⟨"d", ⟨2, 3⟩⟩,
      .function .expression none [] none [] none [.group .literal []]]]]
    (some ⟨"A", ⟨19, 20⟩⟩)
    [.group .classMember [.group .plainKey [], .function .expression none [] none [] none
      [.group .expressionStatement [.reference ⟨"A", ⟨29, 30⟩⟩]]]])]]⟩

/-- `type F = (A: string) => typeof A;` -/
private def parameterOfType : Program :=
  ⟨[.typeAlias ⟨"F", ⟨5, 6⟩⟩
    [.signature [] [.mk [] (.name ⟨"A", ⟨10, 11⟩⟩) (some (.group .keywordType [])) none]
      (some (.group .typeQuery [.reference ⟨"A", ⟨31, 32⟩⟩]))]]⟩

/-- References to a member of an enumeration, to an alias in a namespace, to a class with decorators
and to a parameter of a function type are taken for references to the module's own names. -/
theorem missed_binders_taken_for_module_names :
    Program.parse .standard "enum E { A = 1, B = A }" = .ok memberInEnumeration ∧
      ∀ program ∈ [memberInEnumeration, aliasInNamespace, decoratedClass, parameterOfType],
        program.hasMissedBinder = true :=
  ⟨by decide +kernel, by decide +kernel⟩

end IconSize
