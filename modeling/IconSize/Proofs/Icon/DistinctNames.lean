import IconSize.Proofs.Edits.Confinement

/-!
When the names that icons get are different. Without the suffix they always are: an alias is a name
that the module declares, and a name that is chosen is neither declared nor claimed. A name with the
suffix is not looked up again, so that it may be one that is there already.
-/

namespace IconSize
open Syntax

theorem nodup_map_iff_filter {Element Result : Type} (value : Element → Result)
    (holds : Element → Bool) (elements : List Element) :
    (elements.map value).Nodup ↔
      ((elements.filter holds).map value).Nodup ∧
        ((elements.filter (!holds ·)).map value).Nodup ∧
        ∀ first ∈ elements, holds first = true → ∀ second ∈ elements, holds second = false →
          value second ≠ value first := by
  rw [← ((List.filter_append_perm holds elements).map value).nodup_iff, List.map_append,
    List.nodup_append]
  simp only [List.mem_map, List.mem_filter, Bool.not_eq_true']
  grind

namespace ImportBinding

/-- Did the binding get the collision suffix? -/
def isSuffixed (binding : ImportBinding) : Bool :=
  !binding.aliased && binding.replacement != binding.decomposed

end ImportBinding

namespace NameChoice

variable {choice : NameChoice} {specifier : ImportSpecifier} {specifiers : List ImportSpecifier}
  {binding : ImportBinding} {bindings : List ImportBinding}

/-- A binding without the suffix has its alias or a name that is neither declared nor claimed. -/
theorem bind_of_not_isSuffixed (bound : choice.bind specifier = .ok binding)
    (suffix : choice.collisionSuffix ≠ "") (unsuffixed : binding.isSuffixed = false) :
    binding.replacement = specifier.binder.name ∨
      (choice.scopes.declares .root binding.replacement = false ∧
        binding.replacement ∉ choice.claimed) := by
  rcases bind_cases bound with ⟨_, aliased⟩ | ⟨_, plain, free⟩ | ⟨aliased, suffixed, _⟩
  · exact .inl aliased
  · simp only [isTaken, Bool.or_eq_false_iff, List.contains_eq_mem, decide_eq_false_iff_not]
      at free
    rw [plain]
    exact .inr ⟨free.1.1, free.2⟩
  · simp [ImportBinding.isSuffixed, aliased, suffixed, suffix] at unsuffixed

theorem isSuffixed_iff (bound : choice.bind specifier = .ok binding)
    (suffix : choice.collisionSuffix ≠ "") :
    binding.isSuffixed = true ↔
      binding.aliased = false ∧ choice.isTaken binding.decomposed = true := by
  rcases bind_cases bound with ⟨aliased, _⟩ | ⟨aliased, plain, free⟩ | ⟨aliased, suffixed, taken⟩
  · simp [ImportBinding.isSuffixed, aliased]
  · simp [ImportBinding.isSuffixed, plain, free]
  · simp [ImportBinding.isSuffixed, aliased, suffixed, suffix, taken]

theorem replacement_of_isSuffixed (bound : choice.bind specifier = .ok binding)
    (suffixed : binding.isSuffixed = true) :
    binding.replacement = binding.decomposed ++ choice.collisionSuffix := by
  simp only [ImportBinding.isSuffixed, Bool.and_eq_true, Bool.not_eq_true', bne_iff_ne] at suffixed
  rcases bind_cases bound with ⟨aliased, _⟩ | ⟨_, plain, _⟩ | ⟨_, replacement, _⟩
  · simp [aliased] at suffixed
  · exact absurd plain suffixed.2
  · exact replacement

theorem bindAll_of_not_isSuffixed (chosen : choice.bindAll specifiers = .ok bindings)
    (suffix : choice.collisionSuffix ≠ "") (member : binding ∈ bindings)
    (unsuffixed : binding.isSuffixed = false) :
    (∃ specifier ∈ specifiers, binding.replacement = specifier.binder.name) ∨
      (choice.scopes.declares .root binding.replacement = false ∧
        binding.replacement ∉ choice.claimed) := by
  rcases List.append_of_mem member with ⟨before, after, rfl⟩
  rcases bindAll_eq_ok_append chosen with ⟨specifier, listed, bound⟩
  rcases bind_of_not_isSuffixed bound (by simpa using suffix) unsuffixed with
    aliased | ⟨undeclared, unclaimed⟩
  · exact .inl ⟨specifier, listed, aliased⟩
  · rw [claimAll_scopes] at undeclared
    rw [mem_claimed_claimAll, not_or] at unclaimed
    exact .inr ⟨undeclared, unclaimed.1⟩

/-- Names without the suffix are different if the local names are different and declared. -/
theorem pairwise_unsuffixed (chosen : choice.bindAll specifiers = .ok bindings)
    (suffix : choice.collisionSuffix ≠ "")
    (locals : (specifiers.map (·.binder.name)).Nodup)
    (declared : ∀ specifier ∈ specifiers,
      choice.scopes.declares .root specifier.binder.name = true) :
    bindings.Pairwise fun first second => first.isSuffixed = false →
      second.isSuffixed = false → first.replacement ≠ second.replacement := by
  induction specifiers generalizing choice bindings with
  | nil =>
      cases chosen
      exact .nil
  | cons specifier specifiers induction =>
      rcases bindAll_cons_eq_ok chosen with ⟨head, others, first, remaining, rfl⟩
      rw [List.map_cons, List.nodup_cons] at locals
      have ofOthers := fun other member => declared other (List.mem_cons_of_mem _ member)
      refine .cons (fun later member headUnsuffixed unsuffixed same => ?_)
        (induction remaining suffix locals.2 ofOthers)
      have claimed : head.replacement ∈ (choice.claim head).claimed := List.mem_insert_self
      -- A later name is that of an entry, which is declared, or neither declared nor claimed.
      rcases bindAll_of_not_isSuffixed remaining suffix member unsuffixed with
        ⟨source, listed, laterLocal⟩ | ⟨_, unclaimed⟩
      · rcases bind_of_not_isSuffixed first suffix headUnsuffixed with
          headLocal | ⟨undeclared, _⟩
        · refine locals.1 (List.mem_map.mpr ⟨source, listed, ?_⟩)
          rw [← laterLocal, ← same, headLocal]
        · rw [same, laterLocal, ofOthers source listed] at undeclared
          cases undeclared
      · exact unclaimed (same ▸ claimed)

end NameChoice

/-- An icon gets the suffix exactly if its name is declared or claimed, and names without the suffix
are different. All names are different exactly if no two icons of one name get the suffix and no
name without the suffix equals one with it. -/
theorem replacements_distinct_iff (scopes : ScopeTable) (options : Options)
    (specifiers : List ImportSpecifier) (suffix : options.collisionSuffix ≠ "")
    (wellNamed : ∀ specifier ∈ specifiers, ∃ icon,
      IconName.decompose specifier.imported.name = .ok icon)
    (locals : (specifiers.map (·.binder.name)).Nodup)
    (declared : ∀ specifier ∈ specifiers, scopes.declares .root specifier.binder.name = true) :
    ∃ bindings : List ImportBinding,
      (NameChoice.start scopes options).bindAll specifiers = .ok bindings ∧
      (∀ before binding after, bindings = before ++ binding :: after →
        (binding.isSuffixed = true ↔ binding.aliased = false ∧
          (scopes.declares .root binding.decomposed = true ∨
            scopes.declaresType .root binding.decomposed = true ∨
            ∃ earlier ∈ before, earlier.replacement = binding.decomposed))) ∧
      ((bindings.filter (!·.isSuffixed)).map ImportBinding.replacement).Nodup ∧
      ((bindings.map ImportBinding.replacement).Nodup ↔
        ((bindings.filter (·.isSuffixed)).map ImportBinding.decomposed).Nodup ∧
          ∀ suffixed ∈ bindings, suffixed.isSuffixed = true →
            ∀ other ∈ bindings, other.isSuffixed = false →
              other.replacement ≠ suffixed.decomposed ++ options.collisionSuffix) := by
  rcases NameChoice.exists_bindAll_eq_ok wellNamed (NameChoice.start scopes options) with
    ⟨bindings, chosen⟩
  have suffixedIff : ∀ before binding after, bindings = before ++ binding :: after →
      (binding.isSuffixed = true ↔ binding.aliased = false ∧
        (scopes.declares .root binding.decomposed = true ∨
          scopes.declaresType .root binding.decomposed = true ∨
          ∃ earlier ∈ before, earlier.replacement = binding.decomposed)) := by
    rintro before binding after rfl
    rcases NameChoice.bindAll_eq_ok_append chosen with ⟨specifier, _, bound⟩
    have suffix : ((NameChoice.start scopes options).claimAll before).collisionSuffix ≠ "" := by
      rwa [NameChoice.claimAll_collisionSuffix]
    rw [NameChoice.isSuffixed_iff bound suffix, NameChoice.isTaken_claimAll_start]
  have unsuffixed : ((bindings.filter (!·.isSuffixed)).map ImportBinding.replacement).Nodup := by
    rw [List.Nodup, List.pairwise_map, List.pairwise_filter]
    simpa using NameChoice.pairwise_unsuffixed chosen suffix locals declared
  have replacement : ∀ binding ∈ bindings, binding.isSuffixed = true →
      binding.replacement = binding.decomposed ++ options.collisionSuffix := by
    intro binding member suffixed
    rcases List.append_of_mem member with ⟨before, after, rfl⟩
    rcases NameChoice.bindAll_eq_ok_append chosen with ⟨specifier, _, bound⟩
    have named := NameChoice.replacement_of_isSuffixed bound suffixed
    rwa [NameChoice.claimAll_collisionSuffix] at named
  have suffixed : (bindings.filter (·.isSuffixed)).map ImportBinding.replacement =
      ((bindings.filter (·.isSuffixed)).map ImportBinding.decomposed).map
        (· ++ options.collisionSuffix) := by
    rw [List.map_map]
    refine List.map_congr_left fun binding member => ?_
    rcases List.mem_filter.mp member with ⟨inside, holds⟩
    exact replacement binding inside holds
  have injective : Function.Injective (· ++ options.collisionSuffix) := fun first second same =>
    (String.append_left_inj options.collisionSuffix).mp same
  refine ⟨bindings, chosen, suffixedIff, unsuffixed, ?_⟩
  rw [nodup_map_iff_filter _ ImportBinding.isSuffixed, suffixed, List.nodup_map_iff injective]
  refine and_congr_right fun _ => ⟨fun distinct first member holds => ?_, fun distinct => ?_⟩
  · rw [← replacement first member holds]
    exact distinct.2 first member holds
  · refine ⟨unsuffixed, fun first member holds => ?_⟩
    rw [replacement first member holds]
    exact distinct first member holds

private def entryOf (name : String) : ImportSpecifier :=
  ⟨⟨name, ⟨0, 0⟩, false⟩, ⟨name, ⟨0, 0⟩⟩, false, ⟨0, 0⟩⟩

/-- The table of a module that declares these values and nothing else. -/
private def declaring (names : List String) : ScopeTable := ⟨#[⟨none, .module, names, []⟩]⟩

/-- Two sizes of one icon get different names. -/
theorem two_sizes_get_distinct_names :
    ∃ bindings,
      (NameChoice.start (declaring ["Add16", "Add20"]) .standard).bindAll
          [entryOf "Add16", entryOf "Add20"] = .ok bindings ∧
        bindings.map ImportBinding.replacement = ["Add", "AddIcon"] ∧
        (bindings.map ImportBinding.replacement).Nodup := by
  rcases replacements_distinct_iff (declaring ["Add16", "Add20"]) .standard
      [entryOf "Add16", entryOf "Add20"] (by decide)
      (by
        simp only [List.forall_mem_cons, List.not_mem_nil, false_implies, implies_true, and_true]
        exact ⟨⟨⟨"Add", 16⟩, by decide +kernel⟩, ⟨⟨"Add", 20⟩, by decide +kernel⟩⟩)
      (by decide) (by decide) with ⟨bindings, chosen, -, -, distinct⟩
  have computed : (NameChoice.start (declaring ["Add16", "Add20"]) .standard).bindAll
      [entryOf "Add16", entryOf "Add20"] =
        .ok [⟨"Add16", "Add16", "Add", 16, "Add", false, false, ⟨0, 0⟩⟩,
          ⟨"Add20", "Add20", "Add", 20, "AddIcon", false, false, ⟨0, 0⟩⟩] := by
    decide +kernel
  cases chosen.symm.trans computed
  exact ⟨_, computed, rfl, distinct.mpr (by decide)⟩

/-- Do two imports of the module get one name? -/
def Syntax.Program.HasDuplicateName (program : Program) (options : Options) : Prop :=
  ∃ bindings, program.chosenBindings options = .ok bindings ∧
    ¬ (bindings.map ImportBinding.replacement).Nodup

/-- `import { A16, A20 } from 'icons'; let A;` -/
private def sizesBesideName : Program :=
  ⟨[.importing ⟨[.named ⟨⟨"A16", ⟨9, 12⟩, false⟩, ⟨"A16", ⟨9, 12⟩⟩, false, ⟨9, 12⟩⟩,
      .named ⟨⟨"A20", ⟨14, 17⟩, false⟩, ⟨"A20", ⟨14, 17⟩⟩, false, ⟨14, 17⟩⟩], "icons", ⟨25, 32⟩⟩,
    .variables .lexical [.mk (.name ⟨"A", ⟨38, 39⟩⟩) none none]]⟩

/-- `import { A16, A20, A24 } from 'icons';` -/
private def threeSizes : Program :=
  ⟨[.importing ⟨[.named ⟨⟨"A16", ⟨9, 12⟩, false⟩, ⟨"A16", ⟨9, 12⟩⟩, false, ⟨9, 12⟩⟩,
      .named ⟨⟨"A20", ⟨14, 17⟩, false⟩, ⟨"A20", ⟨14, 17⟩⟩, false, ⟨14, 17⟩⟩,
      .named ⟨⟨"A24", ⟨19, 22⟩, false⟩, ⟨"A24", ⟨19, 22⟩⟩, false, ⟨19, 22⟩⟩], "icons",
    ⟨30, 37⟩⟩]⟩

/-- Two sizes of an icon whose name the module declares get one name, and so do the second and the
third of three sizes. -/
theorem sizes_get_one_name :
    (Program.parse .standard "import { A16, A20 } from 'icons'; let A;" = .ok sizesBesideName ∧
      sizesBesideName.HasDuplicateName (.keeping "icons")) ∧
    (Program.parse .standard "import { A16, A20, A24 } from 'icons';" = .ok threeSizes ∧
      threeSizes.HasDuplicateName (.keeping "icons")) :=
  ⟨⟨by decide +kernel,
      [⟨"A16", "A16", "A", 16, "AIcon", false, false, ⟨9, 12⟩⟩,
        ⟨"A20", "A20", "A", 20, "AIcon", false, false, ⟨14, 17⟩⟩],
      by decide +kernel, by decide⟩,
    ⟨by decide +kernel,
      [⟨"A16", "A16", "A", 16, "A", false, false, ⟨9, 12⟩⟩,
        ⟨"A20", "A20", "A", 20, "AIcon", false, false, ⟨14, 17⟩⟩,
        ⟨"A24", "A24", "A", 24, "AIcon", false, false, ⟨19, 22⟩⟩],
      by decide +kernel, by decide⟩⟩

end IconSize
