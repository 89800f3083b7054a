import IconSize.Proofs.Edits.Outcome
import IconSize.Proofs.Scope.Forms
import IconSize.Proofs.Scope.TypeShadowing

/-!
The names that icons get beside what the module declares at its top. The choice knows the
declarations that the scope table records, which are all of them but those of the form
`import name = target`. It looks up the name of an icon without the suffix and takes the one with
the suffix as it is. So a name is that of a declaration exactly if one of these two slips through,
and a reference that comes to mean a renamed import meant no recorded declaration of the module
before, unless one has the name with the suffix that was needed.
-/

namespace IconSize
open Syntax

/-! ## Declarations at the top of a module -/

namespace BinderForm

/-- Is a name bound in this way bound by a declaration? -/
def isDeclaration : BinderForm → Bool
  | imported | importAlias | lexical | var | functionDeclaration | classDeclaration | enumeration
  | namespaceBlock | interface | typeAlias => true
  | parameter | signatureParameter | catchParameter | functionExpression | classExpression
  | enumMember | typeParameter => false

/-- Is it bound by a declaration that the scope table knows? -/
def isRecorded (form : BinderForm) : Bool := form.isDeclaration && form != .importAlias

/-- Around the forms that bind names in their own scopes the table knows no other names. -/
theorem isRecorded_iff {form : BinderForm} (around : form.isOwn = false) :
    form.isRecorded = true ↔ form.declaresValue = true ∨ form.declaresType = true := by
  cases form <;> simp_all [isOwn, isRecorded, isDeclaration, declaresValue, declaresType]

theorem isDeclaration_iff {form : BinderForm} :
    form.isDeclaration = true ↔ form.isRecorded = true ∨ form = .importAlias := by
  cases form <;> simp [isRecorded, isDeclaration]

end BinderForm

namespace Syntax.Program

/-- The module binds the name at its top in one of these ways: in one of its statements, or by a
`var` in a block. -/
def BindsAtTop (program : Program) (forms : BinderForm → Bool) (name : String) : Prop :=
  ∃ binder ∈ program.frame.binders, forms binder.form = true ∧ binder.name = name

instance (program : Program) (forms : BinderForm → Bool) (name : String) :
    Decidable (program.BindsAtTop forms name) :=
  inferInstanceAs (Decidable (∃ binder ∈ program.frame.binders, _))

/-- The module declares the name at its top, in whatever way. -/
def DeclaresAtTop (program : Program) (name : String) : Prop :=
  program.BindsAtTop BinderForm.isDeclaration name

instance (program : Program) (name : String) : Decidable (program.DeclaresAtTop name) :=
  inferInstanceAs (Decidable (program.BindsAtTop _ _))

/-- An `import name = target` at the top of the module has this name. -/
def NamesAlias (program : Program) (name : String) : Prop :=
  program.BindsAtTop (· == .importAlias) name

instance (program : Program) (name : String) : Decidable (program.NamesAlias name) :=
  inferInstanceAs (Decidable (program.BindsAtTop _ _))

variable {program : Program} {name : String}

/-- The declarations of a module are those that the scope table records and the import aliases. -/
theorem declaresAtTop_iff : program.DeclaresAtTop name ↔
    program.BindsAtTop BinderForm.isRecorded name ∨ program.NamesAlias name := by
  simp only [DeclaresAtTop, NamesAlias, BindsAtTop, BinderForm.isDeclaration_iff, beq_iff_eq]
  constructor
  · rintro ⟨binder, bound, recorded | isAlias, named⟩
    · exact .inl ⟨binder, bound, recorded, named⟩
    · exact .inr ⟨binder, bound, isAlias, named⟩
  · rintro (⟨binder, bound, recorded, named⟩ | ⟨binder, bound, isAlias, named⟩)
    · exact ⟨binder, bound, .inl recorded, named⟩
    · exact ⟨binder, bound, .inr isAlias, named⟩

theorem bindsAtTop_isRecorded_iff : program.BindsAtTop BinderForm.isRecorded name ↔
    (ScopeAnalysis.ofProgram program).scopes.declares .root name = true ∨
      (ScopeAnalysis.ofProgram program).scopes.declaresType .root name = true := by
  have recorded : program.BindsAtTop BinderForm.isRecorded name ↔
      ∃ binder ∈ program.frame.binders,
        (binder.form.declaresValue = true ∨ binder.form.declaresType = true) ∧
          binder.name = name := by
    simp only [BindsAtTop]
    refine exists_congr fun binder => and_congr_right fun bound => and_congr_left' ?_
    exact BinderForm.isRecorded_iff (isOwn_of_mem_binders bound)
  rw [recorded, ScopeAnalysis.declares_root_iff, ScopeAnalysis.declaresType_root_iff]
  simp only [Frame.binders, Frame.record, Frame.hoisted, frame,
    ScopeItem.declaredValues, ScopeItem.declaredTypes, List.mem_append, List.mem_map,
    List.mem_filter, List.map_nil, List.not_mem_nil, false_or, reduceCtorEq, if_false]
  constructor
  · rintro ⟨binder, inside | hoisted, value | type, rfl⟩
    · exact .inl (.inl ⟨binder, ⟨inside, value⟩, rfl⟩)
    · exact .inr ⟨binder, ⟨inside, type⟩, rfl⟩
    · exact .inl (.inr ⟨binder, hoisted, rfl⟩)
    · exact .inl (.inr ⟨binder, hoisted, rfl⟩)
  · rintro ((⟨binder, ⟨inside, value⟩, rfl⟩ | ⟨binder, hoisted, rfl⟩) |
      ⟨binder, ⟨inside, type⟩, rfl⟩)
    · exact ⟨binder, .inl inside, .inl value, rfl⟩
    · -- The record lists all that is hoisted, whatever its form.
      have isVar := ScopeItem.form_of_mem_hoistedBindersAll _ hoisted
      exact ⟨binder, .inr hoisted, .inl (by rw [isVar]; rfl), rfl⟩
    · exact ⟨binder, .inl inside, .inr type, rfl⟩

/-- The name counts as taken for an icon whose entry is read after others got these names. -/
def IsTaken (program : Program) (claimed : List String) (name : String) : Prop :=
  program.BindsAtTop BinderForm.isRecorded name ∨ name ∈ claimed

instance (program : Program) (claimed : List String) (name : String) :
    Decidable (program.IsTaken claimed name) :=
  inferInstanceAs (Decidable (program.BindsAtTop _ _ ∨ _))

/-- A name that is taken is declared in the module or was given before. -/
theorem IsTaken.declared {claimed : List String} (taken : program.IsTaken claimed name) :
    program.DeclaresAtTop name ∨ name ∈ claimed :=
  taken.imp_left fun recorded => declaresAtTop_iff.mpr (.inl recorded)

/-- A name that is not taken is declared in the module by import aliases only. -/
theorem declaresAtTop_of_not_isTaken {claimed : List String}
    (free : ¬ program.IsTaken claimed name) :
    program.DeclaresAtTop name ↔ program.NamesAlias name := by
  rw [declaresAtTop_iff]
  exact or_iff_right fun recorded => free (.inl recorded)

theorem isTaken_iff {claimed : List String} (suffix : String) :
    NameChoice.isTaken ⟨(ScopeAnalysis.ofProgram program).scopes, suffix, claimed⟩ name = true ↔
      program.IsTaken claimed name := by
  rw [IsTaken, bindsAtTop_isRecorded_iff]
  simp [NameChoice.isTaken]

end Syntax.Program

/-! ## Names of icons -/

/-- An icon without an alias gets its own name, unless that is taken, and then the one with the
suffix. What it gets is the name of a declaration of the module exactly if an import alias has its
own name, or if that is taken and the one with the suffix is declared as well. -/
theorem chosen_name_declared_at_top_iff (program : Program) (options : Options)
    (claimed : List String) (specifier : ImportSpecifier) (binding : ImportBinding)
    (bound : NameChoice.bind
      ⟨(ScopeAnalysis.ofProgram program).scopes, options.collisionSuffix, claimed⟩ specifier =
        .ok binding)
    (unaliased : binding.aliased = false) :
    let name := binding.decomposed
    let suffixed := binding.decomposed ++ options.collisionSuffix
    (program.IsTaken claimed name → binding.replacement = suffixed) ∧
      (¬ program.IsTaken claimed name → binding.replacement = name) ∧
      (program.DeclaresAtTop binding.replacement ↔
        (program.IsTaken claimed name ∧ program.DeclaresAtTop suffixed) ∨
          (¬ program.IsTaken claimed name ∧ program.NamesAlias name)) := by
  intro name suffixed
  have taken_iff : NameChoice.isTaken
      ⟨(ScopeAnalysis.ofProgram program).scopes, options.collisionSuffix, claimed⟩ name = true ↔
        program.IsTaken claimed name :=
    Program.isTaken_iff options.collisionSuffix
  rcases NameChoice.bind_cases bound with ⟨aliased, _⟩ | ⟨_, plain, free⟩ | ⟨_, suffix, used⟩
  · simp [aliased] at unaliased
  · rw [← Bool.not_eq_true, taken_iff] at free
    refine ⟨fun taken => absurd taken free, fun _ => plain, ?_⟩
    rw [plain, Program.declaresAtTop_of_not_isTaken free]
    exact ⟨fun isAlias => .inr ⟨free, isAlias⟩, fun cases =>
      cases.elim (fun impossible => absurd impossible.1 free) And.right⟩
  · have taken := taken_iff.mp used
    refine ⟨fun _ => suffix, fun free => absurd taken free, ?_⟩
    rw [suffix]
    exact ⟨fun declared => .inl ⟨taken, declared⟩, fun cases =>
      cases.elim And.right fun impossible => absurd taken impossible.1⟩

/-- `import{A16}from'm';{var B}` -/
private def variableInBlock : Program := .ofSource .standard "import{A16}from'm';\x7bvar B\x7d"

/-- The name `A` is free beside a `var` in a block. -/
theorem icon_name_free_beside_variable : ¬ variableInBlock.DeclaresAtTop "A" := by
  have chosen := chosen_name_declared_at_top_iff variableInBlock (.keeping "m") []
    ⟨⟨"A16", ⟨7, 10⟩, false⟩, ⟨"A16", ⟨7, 10⟩⟩, false, ⟨7, 10⟩⟩
    ⟨"A16", "A16", "A", 16, "A", false, false, ⟨7, 10⟩⟩ (by decide +kernel) rfl
  have free : ¬ variableInBlock.IsTaken [] "A" := by decide +kernel
  have noAlias : ¬ variableInBlock.NamesAlias "A" := by decide +kernel
  rintro declared
  rcases chosen.2.2.mp declared with ⟨taken, _⟩ | ⟨_, isAlias⟩
  · exact free taken
  · exact noAlias isAlias

/-- Some import of the module gets a name that the module declares at its top. -/
def Syntax.Program.HasTopLevelCollision (program : Program) (options : Options) : Prop :=
  ∃ bindings, program.chosenBindings options = .ok bindings ∧
    ∃ binding ∈ bindings, binding.aliased = false ∧ program.DeclaresAtTop binding.replacement

/-- An import alias does not make its name count as taken, and a name with the suffix is given
although the module declares it. -/
theorem icons_get_declared_names :
    (∃ program, Program.parse .standard "import{A16}from'm';import A=B" = .ok program ∧
      program.HasTopLevelCollision (.keeping "m")) ∧
    ∃ program, Program.parse .standard "import{A16}from'm';let A,AIcon" = .ok program ∧
      program.HasTopLevelCollision (.keeping "m") := by
  constructor
  · exact ⟨_, Program.parse_eq_ofSource (by decide +kernel),
      [⟨"A16", "A16", "A", 16, "A", false, false, ⟨7, 10⟩⟩], by decide +kernel,
      _, List.mem_singleton.mpr rfl, rfl, by decide +kernel⟩
  · exact ⟨_, Program.parse_eq_ofSource (by decide +kernel),
      [⟨"A16", "A16", "A", 16, "AIcon", false, false, ⟨7, 10⟩⟩], by decide +kernel,
      _, List.mem_singleton.mpr rfl, rfl, by decide +kernel⟩

/-! ## References that a renamed import takes over -/

/-- The name of a place is bound nowhere around it: no declaration at the top of the module has it,
and no scope in between binds it. -/
structure Site.IsFree (program : Program) (site : Site) : Prop where
  atTop : ¬ program.DeclaresAtTop site.name.name
  nested : ∀ enclosure ∈ site.around, ∀ binder ∈ enclosure.frame.binders,
    binder.name ≠ site.name.name

/-- Something has the name of a place that the scope table does not show to a reference there. It is
an import alias at the top of the module, or bound by a scope in between. -/
def Site.HasUnseenBinder (program : Program) (site : Site) : Prop :=
  program.NamesAlias site.name.name ∨
    ∃ enclosure ∈ site.around, ∃ binder ∈ enclosure.frame.binders,
      binder.name = site.name.name ∧ ¬ enclosure.Shows site.space binder

theorem Site.isFree_or_hasUnseenBinder {program : Program} {site : Site} {reference : Reference}
    (placed : Placed program.walkedRecords reference site)
    (root : reference.resolve (ScopeAnalysis.ofProgram program).scopes reference.name = .root)
    (unrecorded : ¬ program.BindsAtTop BinderForm.isRecorded reference.name) :
    site.IsFree program ∨ site.HasUnseenBinder program := by
  have same : reference.name = site.name.name := placed.isOf.name
  have unbound (enclosure : Enclosure) (member : enclosure ∈ site.around) (binder : Binder)
      (bound : binder ∈ enclosure.frame.binders) (shown : enclosure.Shows site.space binder) :
      binder.name ≠ site.name.name := by
    intro named
    rcases placed.exists_declaresIn member bound shown with ⟨nested, inside, declared⟩
    have undeclared := ((ScopeTable.resolveIn_eq_root_iff ..).mp root).2 nested inside
    rw [named, ← same, undeclared] at declared
    cases declared
  by_cases unseen : site.HasUnseenBinder program
  · exact .inr unseen
  · simp only [HasUnseenBinder, not_or, not_exists, not_and, not_not] at unseen
    rcases unseen with ⟨noAlias, shown⟩
    refine .inl ⟨?_, fun enclosure member binder bound named => ?_⟩
    · rw [Program.declaresAtTop_iff, ← same]
      exact not_or.mpr ⟨unrecorded, same ▸ noAlias⟩
    · exact unbound enclosure member binder bound
        (shown enclosure member binder bound named) named

/-- The reference is called like the import will be, and no scope around it binds the name. -/
def ImportBinding.TakesOver (binding : ImportBinding) (scopes : ScopeTable)
    (reference : Reference) : Prop :=
  reference.name = binding.replacement ∧ reference.resolve scopes reference.name = .root

/-- A renamed import has no alias, and the references that are called like it already, which it
takes over, are free, as far as the scope table shows what is bound around them. Only if it gets the
suffix, because the name of its icon is declared in the module or was given before, the module can
declare what it gets. -/
theorem renamed_import_takes_over_free_names
    (program : Program) (options : Options) (before after : List ImportBinding)
    (binding : ImportBinding)
    (chosen : program.chosenBindings options = .ok (before ++ binding :: after))
    (renamed : binding.replacement ≠ binding.localName) :
    let analysis := ScopeAnalysis.ofProgram program
    let claimed := before.map (·.replacement)
    binding.aliased = false ∧
      ((binding.replacement = binding.decomposed ∧ binding.replacement ∉ claimed ∧
          List.Forall₂ (fun reference site => site.IsOf reference ∧
              (binding.TakesOver analysis.scopes reference →
                site.IsFree program ∨ site.HasUnseenBinder program))
            analysis.references program.sites) ∨
        (binding.replacement = binding.decomposed ++ options.collisionSuffix ∧
          (program.DeclaresAtTop binding.decomposed ∨ binding.decomposed ∈ claimed) ∧
          List.Forall₂ (fun reference site => site.IsOf reference ∧
              (binding.TakesOver analysis.scopes reference →
                site.IsFree program ∨ site.HasUnseenBinder program ∨
                  program.DeclaresAtTop binding.replacement))
            analysis.references program.sites)) := by
  intro analysis claimed
  rcases NameChoice.bindAll_eq_ok_append chosen with ⟨specifier, _, bound⟩
  have taken_iff : ((NameChoice.start analysis.scopes options).claimAll before).isTaken
      binding.decomposed = true ↔ program.IsTaken claimed binding.decomposed := by
    rw [NameChoice.isTaken_claimAll_start, ← or_assoc, Program.IsTaken,
      Program.bindsAtTop_isRecorded_iff, List.mem_map]
  rcases NameChoice.bind_cases bound with ⟨_, kept⟩ | ⟨unaliased, plain, free⟩ |
    ⟨unaliased, suffixed, taken⟩
  · exact absurd (kept.trans (NameChoice.bind_eq_ok bound).1.symm) renamed
  · rw [← Bool.not_eq_true, taken_iff, ← plain] at free
    refine ⟨unaliased, .inl ⟨plain, fun given => free (.inr given), ?_⟩⟩
    refine (ScopeAnalysis.placed_references program).imp fun reference site placed =>
      ⟨placed.isOf, fun ⟨named, root⟩ => ?_⟩
    exact Site.isFree_or_hasUnseenBinder placed root fun recorded =>
      free (.inl (named ▸ recorded))
  · rw [NameChoice.claimAll_collisionSuffix] at suffixed
    refine ⟨unaliased, .inr ⟨suffixed, (taken_iff.mp taken).declared, ?_⟩⟩
    refine (ScopeAnalysis.placed_references program).imp fun reference site placed =>
      ⟨placed.isOf, fun ⟨named, root⟩ => ?_⟩
    by_cases recorded : program.BindsAtTop BinderForm.isRecorded binding.replacement
    · exact .inr (.inr (Program.declaresAtTop_iff.mpr (.inl recorded)))
    · rw [← or_assoc]
      exact .inl (Site.isFree_or_hasUnseenBinder placed root (named ▸ recorded))

/-- `import{A16}from'm';A` -/
private def freeReference : Program := .ofSource .standard "import{A16}from'm';A"

/-- The reference that `A16` takes over is free. -/
theorem reference_beside_icon_is_free :
    ∃ site ∈ freeReference.sites, site.IsFree freeReference := by
  have takenOver := renamed_import_takes_over_free_names freeReference (.keeping "m") [] []
    ⟨"A16", "A16", "A", 16, "A", false, false, ⟨7, 10⟩⟩ (by decide +kernel) (by decide)
  have plain : ∀ site ∈ freeReference.sites, site.around.isEmpty = true ∧
      ¬ freeReference.NamesAlias site.name.name := by decide +kernel
  rcases takenOver.2 with ⟨_, _, free⟩ | ⟨suffixed, _⟩
  · have reference : (⟨"A", ⟨19, 20⟩, some .root, .other false, .value⟩ : Reference) ∈
        (ScopeAnalysis.ofProgram freeReference).references := by decide +kernel
    rcases exists_mem_of_forall₂_left free reference with ⟨site, member, _, freeOrUnseen⟩
    rcases freeOrUnseen ⟨rfl, by decide +kernel⟩ with isFree | isAlias | ⟨_, inside, _⟩
    · exact ⟨site, member, isFree⟩
    · exact absurd isAlias (plain site member).2
    · rw [List.isEmpty_iff.mp (plain site member).1] at inside
      exact absurd inside List.not_mem_nil
  · exact absurd suffixed (by decide)

/-- Some import of the module is renamed and takes a reference over. -/
def Syntax.Program.HasTakeover (program : Program) (options : Options) : Prop :=
  let analysis := ScopeAnalysis.ofProgram program
  ∃ bindings, program.chosenBindings options = .ok bindings ∧
    ∃ binding ∈ bindings, binding.replacement ≠ binding.localName ∧
      ∃ reference ∈ analysis.references, binding.TakesOver analysis.scopes reference

/-- An import can take over a free reference, one to an import alias, and, where the suffix is
needed and the name with the suffix is declared as well, one to another declaration of the
module. -/
theorem imports_take_over_references :
    (∃ program, Program.parse .standard "import{A16}from'm';A" = .ok program ∧
      program.HasTakeover (.keeping "m")) ∧
    (∃ program, Program.parse .standard "import{A16}from'm';import A=B;A" = .ok program ∧
      program.HasTakeover (.keeping "m")) ∧
    ∃ program, Program.parse .standard "import{A16}from'm';let A,AIcon;AIcon" = .ok program ∧
      program.HasTakeover (.keeping "m") := by
  refine ⟨?free, ?isAlias, ?suffixed⟩
  case free =>
    exact ⟨_, Program.parse_eq_ofSource (by decide +kernel),
      [⟨"A16", "A16", "A", 16, "A", false, false, ⟨7, 10⟩⟩], by decide +kernel,
      _, List.mem_singleton.mpr rfl, by decide,
      ⟨"A", ⟨19, 20⟩, some .root, .other false, .value⟩, by decide +kernel, rfl, by decide +kernel⟩
  case isAlias =>
    exact ⟨_, Program.parse_eq_ofSource (by decide +kernel),
      [⟨"A16", "A16", "A", 16, "A", false, false, ⟨7, 10⟩⟩], by decide +kernel,
      _, List.mem_singleton.mpr rfl, by decide,
      ⟨"A", ⟨30, 31⟩, some .root, .other false, .value⟩, by decide +kernel, rfl, by decide +kernel⟩
  case suffixed =>
    exact ⟨_, Program.parse_eq_ofSource (by decide +kernel),
      [⟨"A16", "A16", "A", 16, "AIcon", false, false, ⟨7, 10⟩⟩], by decide +kernel,
      _, List.mem_singleton.mpr rfl, by decide,
      ⟨"AIcon", ⟨31, 36⟩, some .root, .other false, .value⟩, by decide +kernel, rfl,
      by decide +kernel⟩

end IconSize
