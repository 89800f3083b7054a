import IconSize.Proofs.Scope.Shadowing

/-!
Which types shadow an import. A class, an enumeration, an interface or an alias around a reference
to a type keeps it from the imports of its name; classes and enumerations keep the names in
`implements` and `extends` from them as well. Interfaces and aliases do not, because these names are
looked up among values, and type parameters keep no reference from anything, because no scope has
them.
-/

namespace IconSize
open Syntax

/-! ## Binders of types -/

/-- Do types refer to what is bound in this way? -/
def BinderForm.isType : BinderForm → Bool
  | interface | typeAlias | typeParameter | classDeclaration | classExpression | enumeration => true
  | _ => false

theorem BinderForm.declares_of_isType {form : BinderForm} (type : form.isType = true)
    (kept : form ≠ .typeParameter) : form.declaresType = true ∨ form.declaresValue = true := by
  cases form <;> simp_all [isType, declaresType, declaresValue]

theorem BinderForm.isValue_of_isType {form : BinderForm} (type : form.isType = true)
    (parameter : form ≠ .typeParameter) (plain : form.declaresType = false) :
    form.isValue = true ∧ form.isLeftOut = false := by
  cases form <;> simp_all [isType, declaresType, isValue, isLeftOut]

/-- Does a reference of this kind miss the binder of a type in the scope? The scope table has no
type parameters, and interfaces and aliases are there for references to types only. The name of a
class goes astray where other scopes begin before the class does. -/
def Enclosure.MissesType (enclosure : Enclosure) (space : Namespace) (binder : Binder) : Prop :=
  binder.form = .typeParameter ∨ (space = .value ∧ binder.form.declaresType = true) ∨
    (binder ∈ enclosure.frame.own ∧ ScopeItem.scopeCountAll enclosure.before ≠ 0)

theorem Enclosure.mem_names_or_types {enclosure : Enclosure} {binder : Binder}
    {given : List Binder} (bound : binder ∈ enclosure.frame.binders)
    (type : binder.form.isType = true) (kept : ¬ enclosure.MissesType .type binder)
    (reached : ScopeItem.scopeCountAll enclosure.before = 0 →
      ∀ binder ∈ enclosure.frame.own, binder ∈ given) (parent : Option ScopeHandle) :
    let record := (Frame.mk enclosure.frame.kind given enclosure.frame.inside).record parent
    binder.name ∈ record.names ∨ binder.name ∈ record.types := by
  simp only [MissesType, not_or, not_and, not_not, reduceCtorEq, false_and, not_false_eq_true,
    true_and] at kept
  simp only [Frame.binders, List.mem_append, or_assoc] at bound
  simp only [Frame.record, ScopeItem.declaredValues, ScopeItem.declaredTypes, List.mem_append,
    List.mem_map, List.mem_filter, or_assoc]
  rcases bound with own | inside | hoisted
  · exact .inl ⟨binder, reached (kept.2 own) binder own, rfl⟩
  · rcases BinderForm.declares_of_isType type kept.1 with asType | asValue
    · exact .inr (.inr (.inr ⟨binder, ⟨inside, asType⟩, rfl⟩))
    · exact .inr (.inl ⟨binder, ⟨inside, asValue⟩, rfl⟩)
  · exact .inr (.inr (.inl ⟨binder, hoisted, rfl⟩))

/-- A scope around a place that binds a type is found on the way from the place outwards, as
references of the kind see it. -/
theorem Encloses.exists_declaresIn {table : ScopeTable} {records : List ScopeRecord}
    (same : List.Forall₂ ScopeRecord.Same table.records.toList records)
    {around : List Enclosure} {handle : ScopeHandle} (encloses : Encloses records around handle)
    {enclosure : Enclosure} (member : enclosure ∈ around) {binder : Binder} {space : Namespace}
    (bound : binder ∈ enclosure.frame.binders) (type : binder.form.isType = true)
    (kept : ¬ enclosure.MissesType space binder) {count : Nat} (enough : handle.index < count) :
    ∃ nested ∈ (table.ancestors count handle).takeWhile (· ≠ .root),
      table.declaresIn nested binder.name space = true := by
  cases space with
  | value =>
      simp only [Enclosure.MissesType, true_and, not_or, Bool.not_eq_true] at kept
      rcases BinderForm.isValue_of_isType type kept.1 kept.2.1 with ⟨value, present⟩
      have found : ¬ enclosure.Misses binder := by
        simpa [Enclosure.Misses, present] using kept.2.2
      exact encloses.exists_declares same member bound value found enough
  | type =>
      rcases encloses.exists_nested same member enough with
        ⟨nested, inside, given, parent, found, reached⟩
      refine ⟨nested, inside, ?_⟩
      rw [ScopeTable.declaresIn, Bool.or_eq_true, ScopeTable.declares_iff_of_same same found,
        ScopeTable.declaresType_iff_of_same same found]
      exact Enclosure.mem_names_or_types bound type kept reached parent

/-- Do references of the kind see the binder of the scope, as the scope table has it? -/
def Enclosure.Shows (enclosure : Enclosure) (space : Namespace) (binder : Binder) : Prop :=
  (binder.form.isValue = true ∧ ¬ enclosure.Misses binder) ∨
    (binder.form.isType = true ∧ ¬ enclosure.MissesType space binder)

/-- What a scope around a place shows to its reference is declared between that and the module. -/
theorem Placed.exists_declaresIn {program : Program} {reference : Reference} {site : Site}
    (placed : Placed program.walkedRecords reference site) {enclosure : Enclosure}
    (member : enclosure ∈ site.around) {binder : Binder} (bound : binder ∈ enclosure.frame.binders)
    (shown : enclosure.Shows site.space binder) :
    ∃ nested ∈ (ScopeAnalysis.ofProgram program).scopes.nestedScopes reference.scope,
      (ScopeAnalysis.ofProgram program).scopes.declaresIn nested binder.name reference.space =
        true := by
  rcases placed.scope with ⟨handle, scope, encloses⟩
  have same := ScopeAnalysis.same_walkedRecords program
  rw [scope, placed.isOf.space]
  rcases shown with ⟨value, kept⟩ | ⟨type, kept⟩
  · rcases encloses.exists_declares same member bound value kept (Nat.lt_succ_self _) with
      ⟨nested, inside, declared⟩
    refine ⟨nested, inside, ?_⟩
    cases site.space <;> simp [ScopeTable.declaresIn, declared]
  · exact encloses.exists_declaresIn same member bound type kept (Nat.lt_succ_self _)

/-- A reference in the scope of a type of its name does not mean the import, and no renaming touches
it, unless it misses the binder of the type. -/
theorem type_binders_shadow_unless_missed (program : Program) :
    let analysis := ScopeAnalysis.ofProgram program
    List.Forall₂ (fun reference site => site.IsOf reference ∧
        ∀ enclosure ∈ site.around, ∀ binder ∈ enclosure.frame.binders,
          binder.name = reference.name → binder.form.isType = true →
            ¬ enclosure.MissesType reference.space binder →
              reference.resolve analysis.scopes reference.name ≠ .root ∧
                ∀ binding : ImportBinding, reference ∉ binding.renamedReferences analysis)
      analysis.references program.sites := by
  intro analysis
  refine (ScopeAnalysis.placed_references program).imp fun reference site placed =>
    ⟨placed.isOf, fun enclosure member binder bound named type kept => ?_⟩
  rcases placed.scope with ⟨handle, scope, encloses⟩
  rcases encloses.exists_declaresIn (ScopeAnalysis.same_walkedRecords program) member bound type
    kept (Nat.lt_succ_self _) with ⟨nested, inside, declared⟩
  rw [named] at declared
  exact Reference.not_renamed_of_declared scope inside declared

/-! ## Binders that are missed -/

/-- Does some reference mean what the module itself declares although a type of its name is bound in
a scope around it? -/
def Syntax.Program.hasMissedType (program : Program) : Bool :=
  let analysis := ScopeAnalysis.ofProgram program
  (analysis.references.zip program.sites).any fun (reference, site) =>
    reference.resolve analysis.scopes reference.name == .root &&
      site.around.any fun enclosure => enclosure.frame.binders.any fun binder =>
        binder.name == reference.name && binder.form.isType

/-- `function f<A>(x: A) {}` -/
private def genericFunction : Program :=
  ⟨[.function .declaration (some ⟨"f", ⟨9, 10⟩⟩) [.typeParameter ⟨"A", ⟨11, 12⟩⟩ []] none
    [.mk [] (.name ⟨"x", ⟨14, 15⟩⟩) (some (.typeReference ⟨"A", ⟨17, 18⟩⟩ [])) none] none []]⟩

/-- `type M = { [A in string]: A };` -/
private def mappedType : Program :=
  ⟨[.typeAlias ⟨"M", ⟨5, 6⟩⟩
    [.block .mappedType [.typeParameter ⟨"A", ⟨12, 13⟩⟩ [.group .keywordType []],
      .typeReference ⟨"A", ⟨26, 27⟩⟩ []]]]⟩

/-- `{ interface A {} class C implements A {} }` -/
private def implementedInterface : Program :=
  ⟨[.block .block
    [.interface ⟨"A", ⟨12, 13⟩⟩ [],
      .classNode .declaration [] (some ⟨"C", ⟨23, 24⟩⟩)
        [.group .heritage [.reference ⟨"A", ⟨36, 37⟩⟩]]]]⟩

/-- `{ interface A {} interface B extends A {} }` -/
private def extendedInterface : Program :=
  ⟨[.block .block
    [.interface ⟨"A", ⟨12, 13⟩⟩ [],
      .interface ⟨"B", ⟨27, 28⟩⟩ [.group .heritage [.reference ⟨"A", ⟨37, 38⟩⟩]]]]⟩

/-- References to a parameter of a function, to the key of a mapped type, and to an interface that a
class implements or another interface extends are taken for references to the module's own names. -/
theorem missed_types_taken_for_module_names :
    Program.parse .standard "function f<A>(x: A) \x7b\x7d" = .ok genericFunction ∧
      Program.parse .standard "\x7b interface A \x7b\x7d class C implements A \x7b\x7d \x7d" =
        .ok implementedInterface ∧
      ∀ program ∈ [genericFunction, mappedType, implementedInterface, extendedInterface],
        program.hasMissedType = true :=
  ⟨by decide +kernel, by decide +kernel, by decide +kernel⟩

end IconSize
