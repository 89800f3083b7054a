import IconSize.Transform
import Mathlib

/-!
The choice of names, entry by entry: what a binding has from its entry, how it comes to its name,
and which names count as taken when it does.
-/

namespace IconSize
open Syntax

namespace Syntax

theorem ImportDeclaration.mem_specifiers {declaration : ImportDeclaration}
    {specifier : ImportSpecifier} :
    specifier ∈ declaration.specifiers ↔ .named specifier ∈ declaration.clauses := by
  rw [ImportDeclaration.specifiers, List.mem_filterMap]
  constructor
  · rintro ⟨clause, member, equal⟩
    cases clause with
    | named other =>
        cases equal
        exact member
    | _ => cases equal
  · intro member
    exact ⟨_, member, rfl⟩

theorem Program.mem_importsOf {program : Program} {target : String}
    {declaration : ImportDeclaration} :
    declaration ∈ program.importsOf target ↔
      .importing declaration ∈ program.body ∧ declaration.module = target := by
  rw [Program.importsOf, List.mem_filterMap]
  constructor
  · rintro ⟨node, member, equal⟩
    cases node with
    | importing other =>
        rcases Option.ite_none_right_eq_some.mp equal with ⟨same, equal⟩
        cases equal
        exact ⟨member, same⟩
    | _ => cases equal
  · rintro ⟨member, same⟩
    exact ⟨_, member, if_pos same⟩

/-- The bindings of the imports of the target module, with the names that they get. -/
def Program.chosenBindings (program : Program) (options : Options) :
    Except NamingError (List ImportBinding) :=
  (NameChoice.start (ScopeAnalysis.ofProgram program).scopes options).bindAll
    ((program.importsOf options.targetModule).flatMap (·.specifiers))

end Syntax

namespace NameChoice

def claimAll (choice : NameChoice) (bindings : List ImportBinding) : NameChoice :=
  bindings.foldl claim choice

@[simp] theorem claimAll_nil (choice : NameChoice) : choice.claimAll [] = choice := rfl

@[simp] theorem claimAll_cons (choice : NameChoice) (binding : ImportBinding)
    (bindings : List ImportBinding) :
    choice.claimAll (binding :: bindings) = (choice.claim binding).claimAll bindings := rfl

@[simp] theorem claim_scopes (choice : NameChoice) (binding : ImportBinding) :
    (choice.claim binding).scopes = choice.scopes := rfl

@[simp] theorem claim_collisionSuffix (choice : NameChoice) (binding : ImportBinding) :
    (choice.claim binding).collisionSuffix = choice.collisionSuffix := rfl

@[simp] theorem claimAll_scopes (choice : NameChoice) (bindings : List ImportBinding) :
    (choice.claimAll bindings).scopes = choice.scopes := by
  induction bindings generalizing choice with
  | nil => rfl
  | cons binding bindings induction => exact induction (choice.claim binding)

@[simp] theorem claimAll_collisionSuffix (choice : NameChoice) (bindings : List ImportBinding) :
    (choice.claimAll bindings).collisionSuffix = choice.collisionSuffix := by
  induction bindings generalizing choice with
  | nil => rfl
  | cons binding bindings induction => exact induction (choice.claim binding)

theorem mem_claimed_claimAll (choice : NameChoice) (bindings : List ImportBinding)
    (name : String) :
    name ∈ (choice.claimAll bindings).claimed ↔
      name ∈ choice.claimed ∨ ∃ binding ∈ bindings, binding.replacement = name := by
  induction bindings generalizing choice with
  | nil => simp
  | cons binding bindings induction =>
      rw [claimAll_cons, induction, claim, List.mem_insert_iff]
      simp only [List.mem_cons, exists_eq_or_imp]
      constructor
      · rintro ((equal | claimed) | later)
        · exact .inr (.inl equal.symm)
        · exact .inl claimed
        · exact .inr (.inr later)
      · rintro (claimed | equal | later)
        · exact .inl (.inr claimed)
        · exact .inl (.inl equal.symm)
        · exact .inr later

theorem bind_eq_ok {choice : NameChoice} {specifier : ImportSpecifier} {binding : ImportBinding}
    (chosen : choice.bind specifier = .ok binding) :
    binding.localName = specifier.binder.name ∧
      binding.span = specifier.span ∧
      IconName.decompose specifier.imported.name = .ok ⟨binding.decomposed, binding.size⟩ ∧
      binding.replacement =
        if binding.aliased then binding.localName else choice.safeName binding.decomposed := by
  unfold bind at chosen
  cases divided : IconName.decompose specifier.imported.name with
  | error fault => simp [divided] at chosen
  | ok icon =>
      simp only [divided, Except.ok.injEq] at chosen
      subst chosen
      exact ⟨rfl, rfl, rfl, by simp⟩

/-- An entry keeps its alias, gets the name of its icon, or gets that with the suffix. -/
theorem bind_cases {choice : NameChoice} {specifier : ImportSpecifier} {binding : ImportBinding}
    (bound : choice.bind specifier = .ok binding) :
    (binding.aliased = true ∧ binding.replacement = specifier.binder.name) ∨
      (binding.aliased = false ∧ binding.replacement = binding.decomposed ∧
        choice.isTaken binding.decomposed = false) ∨
      (binding.aliased = false ∧
        binding.replacement = binding.decomposed ++ choice.collisionSuffix ∧
        choice.isTaken binding.decomposed = true) := by
  rcases bind_eq_ok bound with ⟨localName, _, _, replacement⟩
  cases aliased : binding.aliased with
  | true => exact .inl ⟨rfl, by simpa [aliased, localName] using replacement⟩
  | false =>
      simp only [aliased, safeName, Bool.false_eq_true, if_false] at replacement
      cases taken : choice.isTaken binding.decomposed with
      | true => exact .inr (.inr ⟨rfl, by simpa [taken] using replacement, rfl⟩)
      | false => exact .inr (.inl ⟨rfl, by simpa [taken] using replacement, rfl⟩)

theorem bindAll_cons_eq_ok {choice : NameChoice} {specifier : ImportSpecifier}
    {specifiers : List ImportSpecifier} {bindings : List ImportBinding}
    (chosen : choice.bindAll (specifier :: specifiers) = .ok bindings) :
    ∃ head others, choice.bind specifier = .ok head ∧
      (choice.claim head).bindAll specifiers = .ok others ∧ bindings = head :: others := by
  unfold bindAll at chosen
  cases first : choice.bind specifier with
  | error error => simp [first] at chosen
  | ok head =>
      simp only [first] at chosen
      cases rest : (choice.claim head).bindAll specifiers with
      | error error => simp [rest, Except.map] at chosen
      | ok others =>
          simp only [rest, Except.map, Except.ok.injEq] at chosen
          exact ⟨head, others, rfl, rest, chosen.symm⟩

/-- Each binding of a list was chosen when those before it had claimed their names. -/
theorem bindAll_eq_ok_append {choice : NameChoice} {specifiers : List ImportSpecifier}
    {before after : List ImportBinding} {binding : ImportBinding}
    (chosen : choice.bindAll specifiers = .ok (before ++ binding :: after)) :
    ∃ specifier ∈ specifiers, (choice.claimAll before).bind specifier = .ok binding := by
  induction specifiers generalizing choice before with
  | nil => simp [bindAll] at chosen
  | cons specifier specifiers induction =>
      rcases bindAll_cons_eq_ok chosen with ⟨head, others, first, rest, equal⟩
      cases before with
      | nil =>
          rcases List.cons.inj equal with ⟨rfl, rfl⟩
          exact ⟨specifier, List.mem_cons_self, first⟩
      | cons earlier before =>
          rcases List.cons.inj equal with ⟨rfl, rfl⟩
          rcases induction rest with ⟨source, member, found⟩
          exact ⟨source, List.mem_cons_of_mem _ member, found⟩

theorem isTaken_claimAll_start (scopes : ScopeTable) (options : Options)
    (bindings : List ImportBinding) (name : String) :
    ((start scopes options).claimAll bindings).isTaken name = true ↔
      scopes.declares .root name = true ∨ scopes.declaresType .root name = true ∨
        ∃ binding ∈ bindings, binding.replacement = name := by
  have claimed := mem_claimed_claimAll (start scopes options) bindings name
  simp only [isTaken, claimAll_scopes, Bool.or_eq_true, List.contains_iff_mem, claimed]
  simp [start, or_assoc]

end NameChoice

end IconSize
