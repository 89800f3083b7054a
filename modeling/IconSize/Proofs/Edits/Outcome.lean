import IconSize.Proofs.Edits.Splicing
import IconSize.Proofs.Icon.ChosenNames
import IconSize.Proofs.Syntax.Comparison

/-!
How a transform ends. Where the module imports icons, it ends well exactly if their names follow the
convention, the plan can be applied, and the result is a module again.
-/

namespace IconSize
open Syntax

theorem ImportBinding.mem_renamedReferences {binding : ImportBinding} {analysis : ScopeAnalysis}
    {reference : Reference} : reference ∈ binding.renamedReferences analysis ↔
      reference ∈ analysis.references ∧ reference.name = binding.localName ∧
        reference.resolve analysis.scopes binding.localName = .root := by
  simp only [renamedReferences, ScopeAnalysis.referencesTo, isReferredBy, List.mem_filter,
    beq_iff_eq, and_assoc]

/-- The plan of the transform of a module, once the names are chosen. -/
def Syntax.Program.plan (program : Program) (source : List Char) (options : Options)
    (bindings : List ImportBinding) : Plan :=
  planEdits source (ScopeAnalysis.ofProgram program) options
    (program.importsOf options.targetModule) bindings

/-- Options for icons that come from one module and stay there. -/
def Options.keeping (module : String) : Options :=
  { Options.standard with targetModule := module, newModule := none }

section

variable {dialect : Dialect} {path source : String} {options : Options} {program : Program}

theorem transformAs_of_parse (parsed : Program.parse dialect source = .ok program) :
    transformAs dialect path source options = transformProgram dialect source program options := by
  simp only [transformAs, parsed]

theorem transformProgram_of_no_imports (none : program.importsOf options.targetModule = []) :
    transformProgram dialect source program options = .ok (.unchanged source) := by
  simp only [transformProgram, none]

theorem transformProgram_of_imports (some : program.importsOf options.targetModule ≠ []) :
    transformProgram dialect source program options =
      match program.chosenBindings options with
      | .error error => .error (.naming error)
      | .ok bindings =>
        match (program.plan source.toList options bindings).apply source with
        | .error fault => .error (.plan fault)
        | .ok code =>
          match Program.parse dialect code with
          | .error error => .error (.invalidOutput error)
          | .ok _ =>
            .ok ⟨code, code != source,
              bindings.map (·.report (ScopeAnalysis.ofProgram program))⟩ := by
  unfold transformProgram
  split
  · rename_i none
    exact absurd none some
  · rfl

/-- The transform of a module that imports icons succeeds exactly if each stage does. -/
theorem transformProgram_eq_ok_iff (some : program.importsOf options.targetModule ≠ [])
    {output : TransformOutput} :
    transformProgram dialect source program options = .ok output ↔
      ∃ bindings result, program.chosenBindings options = .ok bindings ∧
        (program.plan source.toList options bindings).apply source = .ok output.code ∧
        Program.parse dialect output.code = .ok result ∧
        output.changed = (output.code != source) ∧
        output.bindings = bindings.map (·.report (ScopeAnalysis.ofProgram program)) := by
  rw [transformProgram_of_imports some]
  constructor
  · intro transformed
    cases chosen : program.chosenBindings options with
    | error error => simp [chosen] at transformed
    | ok bindings =>
        simp only [chosen] at transformed
        cases applied : (program.plan source.toList options bindings).apply source with
        | error fault => simp [applied] at transformed
        | ok code =>
            simp only [applied] at transformed
            cases parsed : Program.parse dialect code with
            | error error => simp [parsed] at transformed
            | ok result =>
                simp only [parsed, Except.ok.injEq] at transformed
                subst transformed
                exact ⟨bindings, result, rfl, applied, parsed, rfl, rfl⟩
  · rintro ⟨bindings, result, chosen, applied, parsed, changed, reports⟩
    simp only [chosen, applied, parsed, ← changed, ← reports]

/-- The transform of a module that imports icons fails by its plan exactly if that cannot be
applied. -/
theorem transformProgram_eq_plan_iff (some : program.importsOf options.targetModule ≠ [])
    {bindings : List ImportBinding} (chosen : program.chosenBindings options = .ok bindings)
    {fault : PlanFault} :
    transformProgram dialect source program options = .error (.plan fault) ↔
      (program.plan source.toList options bindings).apply source = .error fault := by
  rw [transformProgram_of_imports some]
  simp only [chosen]
  constructor
  · intro failed
    cases applied : (program.plan source.toList options bindings).apply source with
    | error other =>
        simp only [applied, Except.error.injEq, TransformError.plan.injEq] at failed
        rw [failed]
    | ok code =>
        simp only [applied] at failed
        cases parsed : Program.parse dialect code <;> simp [parsed] at failed
  · intro applied
    simp only [applied]

/-- What a transform yields is a module in the dialect of the source. -/
theorem exists_parse_of_transformAs {output : TransformOutput}
    (transformed : transformAs dialect path source options = .ok output) :
    ∃ result, Program.parse dialect output.code = .ok result := by
  cases parsed : Program.parse dialect source with
  | error error => simp [transformAs, parsed] at transformed
  | ok program =>
      rw [transformAs_of_parse parsed] at transformed
      by_cases imports : program.importsOf options.targetModule = []
      · rw [transformProgram_of_no_imports imports] at transformed
        cases transformed
        exact ⟨program, parsed⟩
      · rcases (transformProgram_eq_ok_iff imports).mp transformed
          with ⟨_, result, _, _, reparsed, _⟩
        exact ⟨result, reparsed⟩

/-- The transform of a module that imports icons fails by its output exactly if that, once the edits
are made, is no module. -/
theorem transformProgram_eq_invalidOutput_iff
    (some : program.importsOf options.targetModule ≠ []) {bindings : List ImportBinding}
    (chosen : program.chosenBindings options = .ok bindings) {error : SyntaxError} :
    transformProgram dialect source program options = .error (.invalidOutput error) ↔
      ∃ code, (program.plan source.toList options bindings).apply source = .ok code ∧
        Program.parse dialect code = .error error := by
  rw [transformProgram_of_imports some]
  simp only [chosen]
  cases applied : (program.plan source.toList options bindings).apply source with
  | error fault => simp
  | ok code => cases parsed : Program.parse dialect code <;> simp [parsed]

end

end IconSize
