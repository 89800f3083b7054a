import IconSize.Proofs.Edits.Outcome
import IconSize.Proofs.Edits.Splicing
import IconSize.Proofs.Scope.ModuleScopes
import IconSize.Proofs.Scope.ParsedSpans

/-!
The transform edits what it owns and nothing else: the module specifiers and the entries of the
imports, the references that mean an import, and the places in opening tags where a size belongs.
Its reports account for every reference.
-/

namespace IconSize
open Syntax

section

variable {First Second : Type} {Related : First → Second → Prop} {firsts : List First}
  {seconds : List Second}

theorem map_eq_of_forall₂ {Result : Type} {left : First → Result} {right : Second → Result}
    (related : List.Forall₂ Related firsts seconds)
    (same : ∀ first second, Related first second → right second = left first) :
    seconds.map right = firsts.map left := by
  induction related with
  | nil => rfl
  | cons holds _ induction => rw [List.map_cons, List.map_cons, same _ _ holds, induction]

end

namespace NameChoice

/-- Each entry gets a binding that keeps its local name and its span. -/
theorem forall₂_of_bindAll {choice : NameChoice} {specifiers : List ImportSpecifier}
    {bindings : List ImportBinding} (chosen : choice.bindAll specifiers = .ok bindings) :
    List.Forall₂ (fun specifier binding =>
      binding.localName = specifier.binder.name ∧ binding.span = specifier.span)
      specifiers bindings := by
  induction specifiers generalizing choice bindings with
  | nil =>
      cases chosen
      exact .nil
  | cons specifier specifiers induction =>
      rcases bindAll_cons_eq_ok chosen with ⟨binding, others, first, remaining, rfl⟩
      rcases bind_eq_ok first with ⟨localName, span, _⟩
      exact .cons ⟨localName, span⟩ (induction remaining)

/-- Names are chosen for all entries whose imported names follow the convention. -/
theorem exists_bindAll_eq_ok {specifiers : List ImportSpecifier}
    (wellNamed : ∀ specifier ∈ specifiers, ∃ icon,
      IconName.decompose specifier.imported.name = .ok icon) (choice : NameChoice) :
    ∃ bindings, choice.bindAll specifiers = .ok bindings := by
  induction specifiers generalizing choice with
  | nil => exact ⟨[], rfl⟩
  | cons specifier specifiers induction =>
      rcases wellNamed specifier List.mem_cons_self with ⟨icon, divided⟩
      obtain ⟨binding, bound⟩ : ∃ binding, choice.bind specifier = .ok binding := by
        simp [bind, divided]
      rcases induction
        (fun other member => wellNamed other (List.mem_cons_of_mem specifier member))
        (choice.claim binding) with ⟨others, remaining⟩
      exact ⟨binding :: others, by simp [bindAll, bound, remaining, Except.map]⟩

end NameChoice

/-! ## What the transform owns -/

namespace Syntax.Program

variable (program : Program) (options : Options)

/-- The entries of the imports of the target module. -/
def specifiers : List ImportSpecifier :=
  (program.importsOf options.targetModule).flatMap (·.specifiers)

/-- A reference that means one of the imports. -/
def IsImportReference (bindings : List ImportBinding) (reference : Reference) : Prop :=
  let analysis := ScopeAnalysis.ofProgram program
  reference ∈ analysis.references ∧ reference.resolve analysis.scopes reference.name = .root ∧
    ∃ binding ∈ bindings, binding.localName = reference.name

/-- The spans that the transform replaces. -/
inductive Owns (bindings : List ImportBinding) : Span → Prop
  | literal {declaration : ImportDeclaration}
      (imported : declaration ∈ program.importsOf options.targetModule)
      (renamed : options.newModule.isSome = true) : Owns bindings declaration.literal
  | entry {specifier : ImportSpecifier} (imported : specifier ∈ program.specifiers options) :
      Owns bindings specifier.span
  | reference {reference : Reference} (refers : program.IsImportReference bindings reference) :
      Owns bindings reference.span

/-- The offsets at which the transform inserts the size of a binding. -/
def InsertsSizeAt (binding : ImportBinding) (offset : Nat) : Prop :=
  binding.size ≠ options.defaultSize.toNat ∧
    ∃ reference ∈ binding.renamedReferences (ScopeAnalysis.ofProgram program),
      reference.usage = .tag offset

/-- In a module that was read, what the transform owns is not empty. -/
theorem Owns.filled {program : Program} {options : Options} {bindings : List ImportBinding}
    {span : Span} (owned : program.Owns options bindings span) {dialect : Dialect}
    {source : String} (parsed : Program.parse dialect source = .ok program) :
    span.start < span.stop := by
  cases owned with
  | literal imported =>
      refine import_filled_of_parse parsed (mem_importsOf.mp imported).1 ?_
      exact List.mem_append_right _ (List.mem_singleton_self _)
  | entry imported =>
      rcases List.mem_flatMap.mp imported with ⟨declaration, imported, member⟩
      refine import_filled_of_parse parsed (mem_importsOf.mp imported).1 ?_
      exact List.mem_append_left _ (List.mem_map_of_mem member)
  | reference refers => exact reference_filled_of_parse parsed refers.1

end Syntax.Program

/-! ## The edits of the plan -/

namespace ImportBinding

variable (binding : ImportBinding) (source : List Char) (options : Options)

def entryEdit : Edit := ⟨binding.span.start, binding.span.stop, binding.specifierText⟩

def replacementEdit (reference : Reference) : Edit :=
  ⟨reference.span.start, reference.span.stop, binding.referenceText source options reference⟩

def sizeEdits (reference : Reference) : List Edit :=
  match reference.usage with
  | .tag insertAt =>
    if binding.needsSize options.defaultSize then [⟨insertAt, insertAt, binding.sizeAttribute⟩]
    else []
  | _ => []

theorem referenceEdits_eq (reference : Reference) :
    binding.referenceEdits source options reference =
      binding.replacementEdit source options reference :: binding.sizeEdits options reference := by
  unfold referenceEdits sizeEdits
  cases reference.usage with
  | tag insertAt =>
      simp only
      split <;> rfl
  | _ => rfl

theorem mem_sizeEdits {reference : Reference} {edit : Edit} :
    edit ∈ binding.sizeEdits options reference ↔
      ∃ offset, reference.usage = .tag offset ∧ binding.size ≠ options.defaultSize.toNat ∧
        edit = ⟨offset, offset, binding.sizeAttribute⟩ := by
  unfold sizeEdits needsSize
  cases reference.usage <;> simp

end ImportBinding

namespace Syntax.Program

variable (program : Program) (source : List Char) (options : Options)
  (bindings : List ImportBinding)

def literalEdits : List Edit :=
  options.newModule.toList.flatMap fun module =>
    (program.importsOf options.targetModule).map (moduleEdit source options module)

def replacements : List Edit :=
  program.literalEdits source options ++ bindings.flatMap fun binding => binding.entryEdit ::
    (binding.renamedReferences (ScopeAnalysis.ofProgram program)).map
      (binding.replacementEdit source options)

def insertions : List Edit :=
  bindings.flatMap fun binding =>
    (binding.renamedReferences (ScopeAnalysis.ofProgram program)).flatMap
      (binding.sizeEdits options)

theorem edits_plan :
    (program.plan source options bindings).edits =
      program.literalEdits source options ++ bindings.flatMap fun binding =>
        binding.entryEdit :: binding.edits source (ScopeAnalysis.ofProgram program) options := by
  simp only [plan, planEdits, literalEdits, ImportBinding.entryEdit]
  cases options.newModule <;> simp

theorem plan_perm : (program.plan source options bindings).edits.Perm
    (program.replacements source options bindings ++ program.insertions options bindings) := by
  have renamings (binding : ImportBinding) :
      (binding.edits source (ScopeAnalysis.ofProgram program) options).Perm
        ((binding.renamedReferences (ScopeAnalysis.ofProgram program)).map
            (binding.replacementEdit source options) ++
          (binding.renamedReferences (ScopeAnalysis.ofProgram program)).flatMap
            (binding.sizeEdits options)) := by
    unfold ImportBinding.edits
    rw [funext (binding.referenceEdits_eq source options)]
    exact (List.map_append_flatMap_perm _ _ _).symm
  rw [edits_plan, replacements, insertions, List.append_assoc]
  refine List.Perm.append_left _ ?_
  refine List.Perm.trans ?_ (List.flatMap_append_perm bindings _ _).symm
  exact List.Perm.flatMap_left bindings fun binding _ => (renamings binding).cons _

variable {program source options bindings}

theorem forall₂_of_chosenBindings (chosen : program.chosenBindings options = .ok bindings) :
    List.Forall₂ (fun specifier binding =>
      binding.localName = specifier.binder.name ∧ binding.span = specifier.span)
      (program.specifiers options) bindings :=
  NameChoice.forall₂_of_bindAll chosen

theorem isImportReference_iff {reference : Reference} :
    program.IsImportReference bindings reference ↔
      ∃ binding ∈ bindings,
        reference ∈ binding.renamedReferences (ScopeAnalysis.ofProgram program) := by
  simp only [IsImportReference, ImportBinding.mem_renamedReferences]
  constructor
  · rintro ⟨member, root, binding, bound, named⟩
    exact ⟨binding, bound, member, named.symm, named ▸ root⟩
  · rintro ⟨binding, bound, member, named, root⟩
    exact ⟨member, named ▸ root, binding, bound, named.symm⟩

/-- The spans that the transform owns are those that its plan replaces. -/
theorem owns_iff (source : List Char) (chosen : program.chosenBindings options = .ok bindings)
    {span : Span} :
    program.Owns options bindings span ↔
      ∃ edit ∈ program.replacements source options bindings, edit.span = span := by
  have entries := forall₂_of_chosenBindings chosen
  unfold replacements literalEdits
  constructor
  · intro owned
    cases owned with
    | @literal declaration imported renamed =>
        rcases Option.isSome_iff_exists.mp renamed with ⟨module, renamed⟩
        refine ⟨moduleEdit source options module declaration, List.mem_append_left _ ?_, rfl⟩
        rw [renamed]
        simpa using ⟨declaration, imported, rfl⟩
    | entry imported =>
        rcases exists_mem_of_forall₂_left entries imported with ⟨binding, bound, _, span⟩
        exact ⟨binding.entryEdit, List.mem_append_right _
          (List.mem_flatMap.mpr ⟨binding, bound, List.mem_cons_self⟩), span⟩
    | reference refers =>
        rcases isImportReference_iff.mp refers with ⟨binding, bound, member⟩
        exact ⟨binding.replacementEdit source options _, List.mem_append_right _
          (List.mem_flatMap.mpr ⟨binding, bound,
            List.mem_cons_of_mem _ (List.mem_map_of_mem member)⟩), rfl⟩
  · rintro ⟨edit, member, rfl⟩
    rcases List.mem_append.mp member with literal | other
    · rcases List.mem_flatMap.mp literal with ⟨module, renamed, member⟩
      rcases List.mem_map.mp member with ⟨declaration, imported, rfl⟩
      exact .literal imported (Option.isSome_of_mem (Option.mem_toList.mp renamed))
    · rcases List.mem_flatMap.mp other with ⟨binding, bound, member⟩
      rcases List.mem_cons.mp member with rfl | member
      · rcases exists_mem_of_forall₂_right entries bound with ⟨specifier, imported, _, span⟩
        rw [ImportBinding.entryEdit, Edit.span, span]
        exact .entry imported
      · rcases List.mem_map.mp member with ⟨reference, refers, rfl⟩
        exact .reference (isImportReference_iff.mpr ⟨binding, bound, refers⟩)

/-- What the plan inserts is the size of a binding, in the opening tags that name it. -/
theorem mem_insertions {edit : Edit} : edit ∈ program.insertions options bindings ↔
    ∃ binding ∈ bindings, ∃ offset, program.InsertsSizeAt options binding offset ∧
      edit = ⟨offset, offset, binding.sizeAttribute⟩ := by
  simp only [insertions, InsertsSizeAt, List.mem_flatMap, ImportBinding.mem_sizeEdits]
  constructor
  · rintro ⟨binding, bound, reference, refers, offset, usage, sized, rfl⟩
    exact ⟨binding, bound, offset, ⟨sized, reference, refers, usage⟩, rfl⟩
  · rintro ⟨binding, bound, offset, ⟨sized, reference, refers, usage⟩, rfl⟩
    exact ⟨binding, bound, reference, refers, offset, usage, sized, rfl⟩

end Syntax.Program

/-! ## Edits that follow each other -/

/-- No two edits that follow each other replace the same span, unless that is empty. -/
theorem countP_span_le_one {edits : List Edit}
    (follow : edits.Pairwise fun left right => left.stop ≤ right.start) {span : Span}
    (nonempty : span.start < span.stop) : edits.countP (·.span == span) ≤ 1 := by
  induction edits with
  | nil => simp
  | cons edit later induction =>
      rcases List.pairwise_cons.mp follow with ⟨first, follow⟩
      rw [List.countP_cons]
      split
      · rename_i same
        obtain rfl : edit.span = span := by simpa using same
        have none : later.countP (·.span == edit.span) = 0 := by
          refine List.countP_eq_zero.mpr fun other member equal => ?_
          have start : other.start = edit.start := congrArg Span.start (by simpa using equal)
          have := first other member
          simp only [Edit.span] at nonempty
          omega
        omega
      · exact induction follow

/-! ## Reports -/

/-- A report accounts for every reference of its name: those that mean the import are renamed, the
others skipped. -/
theorem ImportBinding.report_counts (binding : ImportBinding) (analysis : ScopeAnalysis) :
    (binding.report analysis).renamed = analysis.references.countP (fun reference =>
        reference.name == binding.localName &&
          reference.resolve analysis.scopes binding.localName == .root) ∧
      (binding.report analysis).renamed + (binding.report analysis).skipped =
        analysis.references.countP (·.name == binding.localName) ∧
      (binding.report analysis).captured ≤ (binding.report analysis).renamed := by
  have all : (analysis.referencesTo binding.localName).length =
      analysis.references.countP (·.name == binding.localName) :=
    List.countP_eq_length_filter.symm
  have some : (binding.renamedReferences analysis).length ≤
      (analysis.referencesTo binding.localName).length := List.length_filter_le _ _
  refine ⟨?_, ?_, List.countP_le_length⟩
  · show (binding.renamedReferences analysis).length = _
    rw [renamedReferences, ScopeAnalysis.referencesTo, List.filter_filter,
      List.countP_eq_length_filter]
    simp only [isReferredBy, Bool.and_comm]
  · rw [← all]
    simp only [report]
    omega

/-! ## The whole transform -/

/-- How a successful transform of a module that imports icons relates its output to the source. -/
structure IsConfined (program : Program) (source : String) (options : Options)
    (bindings : List ImportBinding) (edits : List Edit) (output : TransformOutput) : Prop where
  chosen : program.chosenBindings options = .ok bindings
  /-- The edits, in the order of the source, with what lies between them kept. -/
  spliced : Spliced 0 source.toList edits output.code.toList
  planned : edits.Perm
    (program.replacements source.toList options bindings ++ program.insertions options bindings)
  replaced : ∀ span, program.Owns options bindings span ↔
    ∃ edit ∈ program.replacements source.toList options bindings, edit.span = span
  once : ∀ span, program.Owns options bindings span → edits.countP (·.span == span) = 1
  inserted : ∀ edit, edit ∈ program.insertions options bindings ↔
    ∃ binding ∈ bindings, ∃ offset, program.InsertsSizeAt options binding offset ∧
      edit = ⟨offset, offset, " size=\x7b" ++ toString binding.size ++ "\x7d"⟩
  reports : output.bindings = bindings.map (·.report (ScopeAnalysis.ofProgram program))

/-- A transform that succeeds leaves a module without imports of icons as it is, and edits any other
one only where it owns the source, each place once. -/
theorem transform_confined_to_owned_spans
    (dialect : Dialect) (path source : String) (options : Options) (output : TransformOutput)
    (transformed : transformAs dialect path source options = .ok output) :
    ∃ program, Program.parse dialect source = .ok program ∧
      ((program.importsOf options.targetModule = [] ∧ output = .unchanged source) ∨
        (program.importsOf options.targetModule ≠ [] ∧
          ∃ bindings edits, IsConfined program source options bindings edits output ∧
            ∀ binding ∈ bindings,
              let analysis := ScopeAnalysis.ofProgram program
              let report := binding.report analysis
              report.renamed = analysis.references.countP (fun reference =>
                reference.name == binding.localName &&
                  reference.resolve analysis.scopes binding.localName == .root) ∧
              report.renamed + report.skipped =
                analysis.references.countP (·.name == binding.localName) ∧
              report.captured ≤ report.renamed)) := by
  cases parsed : Program.parse dialect source with
  | error error => simp [transformAs, parsed] at transformed
  | ok program =>
      refine ⟨program, rfl, ?_⟩
      rw [transformAs_of_parse parsed] at transformed
      by_cases imports : program.importsOf options.targetModule = []
      · left
        rw [transformProgram_of_no_imports imports] at transformed
        exact ⟨imports, (Except.ok.inj transformed).symm⟩
      · right
        rcases (transformProgram_eq_ok_iff imports).mp transformed
            with ⟨bindings, _, chosen, applied, _, _, reports⟩
        let plan := program.plan source.toList options bindings
        have spliced : Spliced 0 source.toList plan.ordered output.code.toList :=
          Plan.apply_eq_ok_iff.mp applied
        have planned := plan.ordered_perm.trans
          (Program.plan_perm program source.toList options bindings)
        refine ⟨imports, bindings, plan.ordered, ?_, fun binding _ => binding.report_counts _⟩
        refine ⟨chosen, spliced, planned, fun span => Program.owns_iff source.toList chosen, ?_,
          fun edit => Program.mem_insertions, reports⟩
        -- The splice has the edit of an owned span, and a second one would overlap it.
        intro span owned
        rcases (Program.owns_iff source.toList chosen).mp owned with ⟨edit, member, same⟩
        have present : 0 < plan.ordered.countP (·.span == span) :=
          List.countP_pos_iff.mpr
            ⟨edit, planned.mem_iff.mpr (List.mem_append_left _ member), by simpa using same⟩
        have := countP_span_le_one spliced.pairwise (owned.filled parsed)
        omega

private def iconElementSource : String := "import \x7b A16 \x7d from 'icons'; <A16/>"

/-- A module with one element that is an icon. -/
private def iconElement : Program :=
  let specifier : ImportSpecifier := ⟨⟨"A16", ⟨9, 12⟩, false⟩, ⟨"A16", ⟨9, 12⟩⟩, false, ⟨9, 12⟩⟩
  ⟨[.importing ⟨[.named specifier], "icons", ⟨20, 27⟩⟩,
    .group .expressionStatement
      [.element (.reference ⟨"A16", ⟨30, 33⟩⟩) [] 33 [] [] none]]⟩

private def iconElementOutput : TransformOutput :=
  ⟨"import \x7b A \x7d from 'icons'; <A size=\x7b16\x7d/>", true, [⟨"A16", "A", 16, 1, 0, 0⟩]⟩

/-- The name of the element is replaced once. -/
theorem element_name_replaced_once :
    ∃ bindings edits, IsConfined iconElement iconElementSource (.keeping "icons") bindings edits
      iconElementOutput ∧ edits.countP (·.span == ⟨30, 33⟩) = 1 := by
  have parsed : Program.parse .standard iconElementSource = .ok iconElement := by decide +kernel
  have imports : iconElement.importsOf (Options.keeping "icons").targetModule ≠ [] := by
    decide +kernel
  obtain ⟨result, reparsed⟩ : ∃ result,
      Program.parse .standard iconElementOutput.code = .ok result :=
    exists_eq_ok (by decide +kernel)
  have transformed : transformAs .standard "<input>" iconElementSource (.keeping "icons") =
      .ok iconElementOutput := by
    rw [transformAs_of_parse parsed, transformProgram_eq_ok_iff imports]
    refine ⟨[⟨"A16", "A16", "A", 16, "A", false, false, ⟨9, 12⟩⟩], result, rfl, ?_, reparsed,
      ?_, ?_⟩
    · rw [Plan.apply_of_pairwise (by decide +kernel)]
      decide +kernel
    · decide +kernel
    · decide +kernel
  rcases transform_confined_to_owned_spans _ _ _ _ _ transformed with ⟨program, same, alternatives⟩
  obtain rfl : iconElement = program := Except.ok.inj (parsed.symm.trans same)
  rcases alternatives with ⟨none, _⟩ | ⟨_, bindings, edits, confined, _⟩
  · exact absurd none imports
  · have refers : iconElement.IsImportReference bindings
        ⟨"A16", ⟨30, 33⟩, some .root, .tag 33, .value⟩ := by
      obtain rfl : [⟨"A16", "A16", "A", 16, "A", false, false, ⟨9, 12⟩⟩] = bindings :=
        Except.ok.inj confined.chosen
      exact ⟨List.mem_cons_self, by decide +kernel, _, List.mem_cons_self, rfl⟩
    exact ⟨bindings, edits, confined, confined.once _ (.reference refers)⟩

end IconSize
