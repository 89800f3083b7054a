import IconSize.Proofs.Edits.Confinement

/-!
Names that others see: keys of properties and names of exports. Where an identifier spells one of
them and refers to an import as well, the transform has to write the name out beside the new value.
It does so for the short properties of object literals and for entries of export lists; a short
property of an assignment target loses its key.
-/

namespace IconSize
open Syntax Text

/-! ## Texts that keep a name -/

namespace Syntax.Role

/-- The text puts a value in the place of an identifier in this role and keeps the name that others
see there. -/
def Keeps (role : Role) (name value text : String) : Prop :=
  match role with
  | property true | targetShorthand =>
    text = if value = name then name else name ++ ": " ++ value
  | exported true => text = if value = name then name else value ++ " as " ++ name
  | _ => True

end Syntax.Role

/-- What the binding stands for where an identifier in this role is replaced. -/
def ImportBinding.newValue (binding : ImportBinding) (source : List Char) (options : Options)
    (mention : Mention) : String :=
  match mention.role with
  | .property _ => binding.valueText source options mention.name.span.start
  | _ => binding.replacement

/-! ## Texts of references -/

namespace ImportBinding

variable (binding : ImportBinding) (source : List Char) (options : Options)

/-- The text of a reference keeps the public name that is spelled there, except in an assignment
target. -/
theorem keeps_referenceText {reference : Reference} {mention : Mention}
    (records : reference.Records mention) (other : mention.role ≠ .targetShorthand) :
    mention.role.Keeps binding.localName (binding.newValue source options mention)
      (binding.referenceText source options reference) := by
  rcases mention with ⟨name, role⟩
  have span : reference.span = name.span := records.span
  cases role with
  | property shorthand =>
      cases shorthand with
      | false => trivial
      | true =>
          rw [referenceText, records.usage]
          simp only [Role.usage, Role.Keeps, newValue, span, Bool.true_and, bne_iff_ne]
          split <;> simp_all
  | exported writtenOnce =>
      cases writtenOnce with
      | false => trivial
      | true =>
          rw [referenceText, records.usage]
          simp only [Role.usage, Role.Keeps, newValue, Bool.true_and, bne_iff_ne]
          split <;> simp_all
  | targetShorthand => exact absurd rfl other
  | openingTag | foreign | typeName | plain => trivial

/-- Where nothing is marked, only the new name stands in the place of a reference. -/
theorem referenceText_of_plain {reference : Reference} (plain : reference.usage = .plain) :
    binding.referenceText source options reference = binding.replacement := by
  rw [referenceText, plain]
  rfl

end ImportBinding

theorem Syntax.Program.replacementEdit_mem_plan {program : Program} {source : List Char}
    {options : Options} {bindings : List ImportBinding} {binding : ImportBinding}
    {reference : Reference} (bound : binding ∈ bindings)
    (refers : reference ∈ binding.renamedReferences (ScopeAnalysis.ofProgram program)) :
    binding.replacementEdit source options reference ∈
      (program.plan source options bindings).edits := by
  rw [edits_plan]
  refine List.mem_append_right _ (List.mem_flatMap.mpr ⟨binding, bound, List.mem_cons_of_mem _ ?_⟩)
  refine List.mem_flatMap.mpr ⟨reference, refers, ?_⟩
  rw [ImportBinding.referenceEdits_eq]
  exact List.mem_cons_self

/-! ## The whole transform -/

/-- Where a transform that succeeds replaces an identifier that spells the key of a property or the
name of an export, the text restates that name as the key or the public name, unless the new value
is spelled like it. Only the short property of an assignment target gets the new name alone. -/
theorem public_names_kept_outside_targets
    (dialect : Dialect) (path source : String) (options : Options) (output : TransformOutput)
    (transformed : transformAs dialect path source options = .ok output) :
    ∃ program, Program.parse dialect source = .ok program ∧
      ((program.importsOf options.targetModule = [] ∧ output = .unchanged source) ∨
        ∃ bindings, program.chosenBindings options = .ok bindings ∧
          (program.plan source.toList options bindings).apply source = .ok output.code ∧
          List.Forall₂ (fun reference mention =>
              reference.name = mention.name.name ∧ reference.span = mention.name.span ∧
              ∀ binding ∈ bindings,
                reference ∈ binding.renamedReferences (ScopeAnalysis.ofProgram program) →
                let text := binding.referenceText source.toList options reference
                ⟨reference.span.start, reference.span.stop, text⟩ ∈
                  (program.plan source.toList options bindings).edits ∧
                (mention.role ≠ .targetShorthand →
                  mention.role.Keeps binding.localName
                    (binding.newValue source.toList options mention) text) ∧
                (mention.role = .targetShorthand → text = binding.replacement))
            (ScopeAnalysis.ofProgram program).references
            (program.mentions.filter (·.role.refers))) := by
  cases parsed : Program.parse dialect source with
  | error error => simp [transformAs, parsed] at transformed
  | ok program =>
      refine ⟨program, rfl, ?_⟩
      rw [transformAs_of_parse parsed] at transformed
      by_cases imports : program.importsOf options.targetModule = []
      · left
        rw [transformProgram_of_no_imports imports] at transformed
        exact ⟨imports, (Except.ok.inj transformed).symm⟩
      · right
        rcases (transformProgram_eq_ok_iff imports).mp transformed
            with ⟨bindings, _, chosen, applied, _⟩
        have recorded := ScopeAnalysis.records_references program
          (Program.nodup_mentions_of_parse parsed)
        refine ⟨bindings, chosen, applied, recorded.imp fun {reference mention} records => ?_⟩
        refine ⟨records.name, records.span, fun binding bound refers => ⟨?_, ?_, ?_⟩⟩
        · exact Program.replacementEdit_mem_plan bound refers
        · exact binding.keeps_referenceText source.toList options records
        · intro assigned
          refine binding.referenceText_of_plain source.toList options ?_
          rw [records.usage, assigned]
          rfl

/-- The import of an icon. -/
private def iconImport (name : String) : Node :=
  .importing ⟨[.named ⟨⟨name, ⟨8, 11⟩, false⟩, ⟨name, ⟨8, 11⟩⟩, false, ⟨8, 11⟩⟩], "icons", ⟨18, 25⟩⟩

private def iconBinding (name : String) (size : Nat) : ImportBinding :=
  ⟨name, name, "A", size, "A", false, false, ⟨8, 11⟩⟩

private def iconSpelledTwiceSource : String :=
  "import \x7bA32\x7d from 'icons';(\x7bA32\x7d);export\x7bA32\x7d"

private def iconSpelledTwice : Program :=
  ⟨[iconImport "A32",
    .group .expressionStatement
      [.parenthesized (.group (.object false) [.shorthand ⟨"A32", ⟨28, 31⟩⟩])],
    .group .exporting
      [.exportSpecifier ⟨⟨"A32", ⟨41, 44⟩, false⟩, ⟨"A32", ⟨41, 44⟩, false⟩, false⟩]]⟩

private def iconSpelledTwiceOutput : TransformOutput :=
  ⟨"import \x7bA\x7d from 'icons';(\x7bA32: A\x7d);export\x7bA as A32\x7d", true,
    [⟨"A32", "A", 32, 2, 0, 0⟩]⟩

/-- The key of the property and the name of the export are written out. -/
theorem property_and_export_keep_name :
    let text :=
      (iconBinding "A32" 32).referenceText iconSpelledTwiceSource.toList (.keeping "icons")
    transformSource iconSpelledTwiceSource (.keeping "icons") = .ok iconSpelledTwiceOutput ∧
      Role.Keeps (.property true) "A32" "A"
        (text ⟨"A32", ⟨28, 31⟩, some .root, .value true, .value⟩) ∧
      Role.Keeps (.exported true) "A32" "A"
        (text ⟨"A32", ⟨41, 44⟩, some .root, .other true, .value⟩) := by
  intro text
  have parsed : Program.parse .standard iconSpelledTwiceSource = .ok iconSpelledTwice := by
    decide +kernel
  have imports : iconSpelledTwice.importsOf (Options.keeping "icons").targetModule ≠ [] := by
    decide +kernel
  obtain ⟨result, reparsed⟩ : ∃ result,
      Program.parse .standard iconSpelledTwiceOutput.code = .ok result :=
    exists_eq_ok (by decide +kernel)
  have chosen : iconSpelledTwice.chosenBindings (.keeping "icons") = .ok [iconBinding "A32" 32] :=
    rfl
  have transformed : transformAs .standard "<input>" iconSpelledTwiceSource (.keeping "icons") =
      .ok iconSpelledTwiceOutput := by
    rw [transformAs_of_parse parsed, transformProgram_eq_ok_iff imports]
    refine ⟨_, result, chosen, ?_, reparsed, by decide +kernel, by decide +kernel⟩
    rw [Plan.apply_of_pairwise (by decide +kernel)]
    decide +kernel
  rcases public_names_kept_outside_targets _ _ _ _ _ transformed with ⟨program, same, alternatives⟩
  obtain rfl : iconSpelledTwice = program := Except.ok.inj (parsed.symm.trans same)
  rcases alternatives with ⟨none, _⟩ | ⟨bindings, sameChosen, _, kept⟩
  · exact absurd none imports
  · obtain rfl : [iconBinding "A32" 32] = bindings := Except.ok.inj (chosen.symm.trans sameChosen)
    have listed : (ScopeAnalysis.ofProgram iconSpelledTwice).references =
        [⟨"A32", ⟨28, 31⟩, some .root, .value true, .value⟩,
          ⟨"A32", ⟨41, 44⟩, some .root, .other true, .value⟩] := by decide +kernel
    have refers : ∀ reference ∈ (ScopeAnalysis.ofProgram iconSpelledTwice).references,
        reference ∈ (iconBinding "A32" 32).renamedReferences
          (ScopeAnalysis.ofProgram iconSpelledTwice) := by
      intro reference member
      refine ImportBinding.mem_renamedReferences.mpr ⟨member, ?_⟩
      rw [listed] at member
      rcases List.mem_pair.mp member with rfl | rfl <;> exact ⟨rfl, by decide +kernel⟩
    rw [listed] at kept refers
    rcases kept with _ | ⟨⟨-, -, property⟩, _ | ⟨⟨-, -, exported⟩, -⟩⟩
    refine ⟨transformed, ?_, ?_⟩
    · exact (property _ List.mem_cons_self (refers _ (by simp))).2.1 (by decide)
    · exact (exported _ List.mem_cons_self (refers _ (by simp))).2.1 (by decide)

private def iconAssignedSource : String := "import \x7bA16\x7d from 'icons';(\x7bA16\x7d=x)"

private def iconAssigned : Program :=
  ⟨[iconImport "A16",
    .group .expressionStatement [.parenthesized (.group .assignment
      [.group .objectTarget [.targetShorthand ⟨"A16", ⟨28, 31⟩⟩], .reference ⟨"x", ⟨33, 34⟩⟩])]]⟩

private def iconAssignedOutput : TransformOutput :=
  ⟨"import \x7bA\x7d from 'icons';(\x7bA\x7d=x)", true, [⟨"A16", "A", 16, 1, 0, 0⟩]⟩

/-- The property that is read from `x` gets another name. -/
theorem assignment_target_loses_key :
    let options := Options.keeping "icons"
    let reference : Reference := ⟨"A16", ⟨28, 31⟩, some .root, .plain, .value⟩
    let mention : Mention := ⟨⟨"A16", ⟨28, 31⟩⟩, .targetShorthand⟩
    Program.parse .standard iconAssignedSource = .ok iconAssigned ∧
      transformSource iconAssignedSource options = .ok iconAssignedOutput ∧
      mention ∈ iconAssigned.mentions ∧
      reference ∈ (iconBinding "A16" 16).renamedReferences (ScopeAnalysis.ofProgram iconAssigned) ∧
      ¬ mention.role.Keeps "A16"
        ((iconBinding "A16" 16).newValue iconAssignedSource.toList options mention)
        ((iconBinding "A16" 16).referenceText iconAssignedSource.toList options reference) := by
  intro options reference mention
  have parsed : Program.parse .standard iconAssignedSource = .ok iconAssigned := by decide +kernel
  have imports : iconAssigned.importsOf (Options.keeping "icons").targetModule ≠ [] := by
    decide +kernel
  obtain ⟨result, reparsed⟩ : ∃ result,
      Program.parse .standard iconAssignedOutput.code = .ok result :=
    exists_eq_ok (by decide +kernel)
  refine ⟨parsed, ?_, List.mem_cons_self, ?_, ?_⟩
  · rw [transformSource, transformAs_of_parse parsed, transformProgram_eq_ok_iff imports]
    refine ⟨[iconBinding "A16" 16], result, rfl, ?_, reparsed, by decide +kernel, by decide +kernel⟩
    rw [Plan.apply_of_pairwise (by decide +kernel)]
    decide +kernel
  · exact ImportBinding.mem_renamedReferences.mpr ⟨List.mem_cons_self, rfl, by decide +kernel⟩
  · show ¬ "A" = if "A" = "A16" then "A16" else "A16" ++ ": " ++ "A"
    decide

end IconSize
