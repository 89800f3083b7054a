import IconSize.Proofs.Scope.Forms
import IconSize.Proofs.Scope.Places
import IconSize.Proofs.Scope.TypeShadowing

/-!
Which references to types are kept from the import although no type of their name is bound around
them. The scope table has one set of names for values and for what is a value and a type at once, so
that parameters, variables, functions and namespaces hide a type of their name as well, and so does
the name of a class that went astray. Nothing else does.
-/

namespace IconSize
open Syntax

/-! ## What the scopes around a place are given -/

/-- Does a binder of this form bring in a type? -/
def BinderForm.introducesType (form : BinderForm) : Bool :=
  form.isType || form == .imported || form == .importAlias

theorem BinderForm.declaresType_of_introducesType {form : BinderForm}
    (plain : form.introducesType = false) : form.declaresType = false := by
  cases form <;> simp_all [introducesType, isType, declaresType]

namespace Surrounding

/-- The name of a class that lies in the decorators around the scope: the scope took it because it
begins before that of the class. -/
def IsStray (surrounding : Surrounding) (binder : Binder) : Prop :=
  binder.form = .classExpression ∧ binder ∈ surrounding.given ∧
    binder ∉ surrounding.enclosure.frame.own

/-- All that a form binds in its scope are values, the scope is given them unless they are the name
of a class, and it is given nothing else but such a name. -/
structure IsRegular (surrounding : Surrounding) : Prop where
  values : ∀ binder ∈ surrounding.enclosure.frame.own, binder.form.declaresValue = true
  given : ∀ binder ∈ surrounding.enclosure.frame.own,
    binder.form ≠ .classExpression → binder ∈ surrounding.given
  taken : ∀ binder ∈ surrounding.given,
    binder ∈ surrounding.enclosure.frame.own ∨ binder.form = .classExpression

end Surrounding

namespace ScopeItem

/-- Is all that the form binds in its scope a value, and nothing but the name of a class if there
are decorators? -/
def Condition.bindsValues : Condition where
  scope _ own before :=
    own.all (·.form.declaresValue) && (before.isEmpty || own.all (·.form == .classExpression))

theorem Condition.holdsOfForms_bindsValues : Condition.bindsValues.HoldsOfForms where
  plain := fun _ _ => rfl
  function := fun role name parameters => by
    cases role <;> cases name <;>
      simp [bindsValues, FunctionRole.own, BinderForm.declaresValue]
  classNode := fun role name decorators => by
    cases role <;> cases name <;> simp [bindsValues, ClassRole.own, BinderForm.declaresValue]
  catchClause := fun names => by
    simp [bindsValues, BinderForm.declaresValue]
  binder := fun _ _ => rfl

variable {own held : List Binder} {before : List ScopeItem}

/-- Whatever waits for a scope inside decorators is the name of a class. -/
theorem waiting_classNames {kind : ScopeKind}
    (meets : Condition.bindsValues.scope kind own before = true)
    (waiting : ∀ binder ∈ held, binder.form = .classExpression) (decorated : before ≠ []) :
    ∀ binder ∈ held ++ own, binder.form = .classExpression := by
  intro binder member
  rcases List.mem_append.mp member with old | new
  · exact waiting binder old
  · simp only [Condition.bindsValues, Bool.and_eq_true, Bool.or_eq_true, List.isEmpty_iff,
      decorated, false_or, List.all_eq_true, beq_iff_eq] at meets
    exact meets.2 binder new

theorem isRegular_scope {kind : ScopeKind} {inside : List ScopeItem}
    (meets : Condition.bindsValues.scope kind own before = true)
    (waiting : ∀ binder ∈ held, binder.form = .classExpression) :
    (Surrounding.mk ⟨⟨kind, own, inside⟩, before⟩
      (stillHeld (held ++ own) (scopeCountAll before))).IsRegular where
  values := by
    simp only [Condition.bindsValues, Bool.and_eq_true, List.all_eq_true] at meets
    exact meets.1
  given := by
    intro binder member other
    by_cases decorated : before = []
    · subst decorated
      simp only [scopeCountAll, stillHeld, if_true]
      exact List.mem_append_right _ member
    · exact absurd (waiting_classNames meets waiting decorated binder
        (List.mem_append_right _ member)) other
  taken := by
    intro binder member
    simp only [stillHeld] at member
    split at member
    · rcases List.mem_append.mp member with old | new
      · exact .inr (waiting binder old)
      · exact .inl new
    · cases member

mutual

theorem isRegular_places :
    ∀ (item : ScopeItem) {held : List Binder} {around : List Surrounding},
      item.scopesMeet .bindsValues = true →
        (∀ binder ∈ held, binder.form = .classExpression) →
          (∀ surrounding ∈ around, surrounding.IsRegular) →
            ∀ place ∈ item.places held around,
              ∀ surrounding ∈ place.around, surrounding.IsRegular
  | binder _, _, _, _, _, _ => by
      intro place member
      cases member
  | reference _ _, _, _, _, _, regular => by
      intro place member
      obtain rfl := List.mem_singleton.mp member
      exact regular
  | scope kind own before inside, held, around, meets, waiting, regular => by
      simp only [scopesMeet, Bool.and_eq_true] at meets
      intro place member
      rcases List.mem_append.mp member with outside | within
      · by_cases decorated : before = []
        · subst decorated
          cases outside
        · exact isRegular_placesAll before meets.1.2
            (waiting_classNames meets.1.1 waiting decorated) regular place outside
      · exact isRegular_placesAll inside meets.2 (List.forall_mem_nil _)
          (List.forall_mem_cons.mpr ⟨isRegular_scope meets.1.1 waiting, regular⟩) place within

theorem isRegular_placesAll :
    ∀ (items : List ScopeItem) {held : List Binder} {around : List Surrounding},
      allScopesMeet .bindsValues items = true →
        (∀ binder ∈ held, binder.form = .classExpression) →
          (∀ surrounding ∈ around, surrounding.IsRegular) →
            ∀ place ∈ placesAll held around items,
              ∀ surrounding ∈ place.around, surrounding.IsRegular
  | [], _, _, _, _, _ => by
      intro place member
      cases member
  | item :: items, held, around, meets, waiting, regular => by
      simp only [allScopesMeet, Bool.and_eq_true] at meets
      intro place member
      rcases List.mem_append.mp member with first | later
      · exact isRegular_places item meets.1 waiting regular place first
      · refine isRegular_placesAll items meets.2 (fun binder kept => ?_) regular place later
        simp only [stillHeld] at kept
        split at kept
        · exact waiting binder kept
        · cases kept

end

end ScopeItem

theorem Syntax.Program.isRegular_places (program : Program) :
    ∀ place ∈ program.places, ∀ surrounding ∈ place.around, surrounding.IsRegular :=
  ScopeItem.isRegular_placesAll _
    (Node.meet_scopeItemsAll ScopeItem.Condition.holdsOfForms_bindsValues program.body)
    (List.forall_mem_nil _) (List.forall_mem_nil _)

/-! ## Hidden types -/

/-- A scope without a type of the name hides types of it exactly if it binds a value of the name or
has taken the name of a class. -/
theorem Surrounding.IsRegular.declaresIn_type_iff {surrounding : Surrounding}
    (regular : surrounding.IsRegular) {name : String}
    (plain : ∀ binder ∈ surrounding.enclosure.frame.binders,
      binder.name = name → binder.form.introducesType = false) :
    surrounding.frame.DeclaresIn name .type ↔ ∃ binder, binder.name = name ∧
      ((binder ∈ surrounding.enclosure.frame.binders ∧ binder.form.declaresValue = true) ∨
        surrounding.IsStray binder) := by
  have untyped : name ∉ (surrounding.frame.record none).types := by
    simp only [Frame.record, ScopeItem.declaredTypes, List.mem_map, List.mem_filter, not_exists,
      not_and, and_imp]
    intro binder inside type named
    have none := BinderForm.declaresType_of_introducesType
      (plain binder (List.mem_append_left _ (List.mem_append_right _ inside)) named)
    rw [none] at type
    cases type
  rw [Frame.DeclaresIn, or_iff_left untyped]
  simp only [Frame.record, ScopeItem.declaredValues, List.mem_append, List.mem_map,
    List.mem_filter]
  constructor
  · rintro ((⟨binder, given, rfl⟩ | ⟨binder, ⟨inside, value⟩, rfl⟩) | ⟨binder, hoisted, rfl⟩)
    · by_cases own : binder ∈ surrounding.enclosure.frame.own
      · exact ⟨binder, rfl, .inl ⟨List.mem_append_left _ (List.mem_append_left _ own),
          regular.values binder own⟩⟩
      · exact ⟨binder, rfl, .inr ⟨(regular.taken binder given).resolve_left own, given, own⟩⟩
    · exact ⟨binder, rfl, .inl ⟨List.mem_append_left _ (List.mem_append_right _ inside), value⟩⟩
    · refine ⟨binder, rfl, .inl ⟨List.mem_append_right _ hoisted, ?_⟩⟩
      rw [Frame.form_of_mem_hoisted hoisted]
      rfl
  · rintro ⟨binder, rfl, ⟨bound, value⟩ | ⟨-, given, -⟩⟩
    · have untyped := plain binder bound rfl
      simp only [Frame.binders, List.mem_append] at bound
      rcases bound with (own | inside) | hoisted
      · refine .inl (.inl ⟨binder, regular.given binder own ?_, rfl⟩)
        intro isClass
        rw [isClass] at untyped
        cases untyped
      · exact .inl (.inr ⟨binder, ⟨inside, value⟩, rfl⟩)
      · exact .inr ⟨binder, hoisted, rfl⟩
    · exact .inl (.inl ⟨binder, given, rfl⟩)

/-- A reference to a type that no type of its name is bound around means the module's exactly if no
scope around it binds a value of the name or has taken the name of a class. -/
theorem types_hidden_by_values_and_stray_names (program : Program) :
    let analysis := ScopeAnalysis.ofProgram program
    List.Forall₂ (fun reference place => place.site.IsOf reference ∧
        (reference.space = .type →
          (∀ surrounding ∈ place.around, ∀ binder ∈ surrounding.enclosure.frame.binders,
            binder.name = reference.name → binder.form.introducesType = false) →
          (reference.resolve analysis.scopes reference.name = .root ↔
            ∀ surrounding ∈ place.around, ∀ binder, binder.name = reference.name →
              ¬ (binder ∈ surrounding.enclosure.frame.binders ∧
                  binder.form.declaresValue = true) ∧
                ¬ surrounding.IsStray binder)))
      analysis.references program.places := by
  intro analysis
  have resolved := ScopeAnalysis.resolveIn_eq_root_iff program
  rw [List.forall₂_iff_zip] at resolved ⊢
  refine ⟨resolved.1, fun {reference place} member => ?_⟩
  rcases resolved.2 member with ⟨isOf, meaning⟩
  refine ⟨isOf, fun type plain => ?_⟩
  rw [Reference.resolve, type, meaning]
  apply forall₂_congr
  intro surrounding around
  have regular := program.isRegular_places place (List.of_mem_zip member).2 surrounding around
  rw [regular.declaresIn_type_iff (plain surrounding around)]
  simp only [not_exists, not_and, not_or]

/-! ## Types that are hidden -/

/-- Is some reference to a type kept from what the module declares although no type of its name is
bound in a scope around it? -/
def Syntax.Program.hasHiddenType (program : Program) : Bool :=
  let analysis := ScopeAnalysis.ofProgram program
  (analysis.references.zip program.sites).any fun (reference, site) =>
    reference.space == .type && reference.resolve analysis.scopes reference.name != .root &&
      site.around.all fun enclosure => enclosure.frame.binders.all fun binder =>
        binder.name != reference.name || !binder.form.introducesType

/-- `function f(A: A) {}` -/
private def parameterOfItsName : Program :=
  ⟨[.function .declaration (some ⟨"f", ⟨9, 10⟩⟩) [] none
    [.mk [] (.name ⟨"A", ⟨11, 12⟩⟩) (some (.typeReference ⟨"A", ⟨14, 15⟩⟩ [])) none] none []]⟩

/-- `let x: A;` at the offset. -/
private def typedVariable (offset : Nat) : Node :=
  .variables .lexical [.mk (.name ⟨"x", ⟨offset + 4, offset + 5⟩⟩)
    (some (.typeReference ⟨"A", ⟨offset + 7, offset + 8⟩⟩ [])) none]

/-- `{ const A = 1; let x: A; }` -/
private def typeBesideVariable : Program :=
  ⟨[.block .block
    [.variables .const [.mk (.name ⟨"A", ⟨8, 9⟩⟩) none (some (.group .literal []))],
      typedVariable 15]]⟩

/-- `{ function A() {} let x: A; }` -/
private def typeBesideFunction : Program :=
  ⟨[.block .block
    [.function .declaration (some ⟨"A", ⟨11, 12⟩⟩) [] none [] none [], typedVariable 18]]⟩

/-- `try {} catch (A) { let x: A; }` -/
private def typeInCatchClause : Program :=
  ⟨[.group .tryStatement [.block .block [],
    .catchClause (.mk [] (.name ⟨"A", ⟨14, 15⟩⟩) none none)
      (.block .block [typedVariable 19])]]⟩

/-- Parameters, variables, functions and parameters of catch clauses hide types of their names,
although none of them is a type. -/
theorem values_hide_types :
    Program.parse .standard "function f(A: A) \x7b\x7d" = .ok parameterOfItsName ∧
      Program.parse .standard "try \x7b\x7d catch (A) \x7b let x: A; \x7d" = .ok typeInCatchClause ∧
      ∀ program ∈ [parameterOfItsName, typeBesideVariable, typeBesideFunction, typeInCatchClause],
        program.hasHiddenType = true :=
  ⟨by decide +kernel, by decide +kernel, by decide +kernel⟩

end IconSize
