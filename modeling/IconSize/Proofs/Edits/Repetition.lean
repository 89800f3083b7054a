import IconSize.Proofs.Edits.Outcome
import IconSize.Proofs.Syntax.ModuleLiterals

/-!
Repeating a transform. The literal that an import gets is read back as the new module, so a
transform that leaves its source as it is has found no import of icons there. A second run is
without effect exactly if the first one has left no such import. It can leave one: an imported name
in quotes is written without them, and then it is read as a part of the module.
-/

namespace IconSize
open Syntax Text Lexer

/-! ## Module specifiers read back -/

/-- A module as it stands between the quotes of a specifier. -/
def escapedModule (quote : Char) (module : List Char) : List Char :=
  module.flatMap fun character =>
    if character = quote ∨ character = '\\' then ['\\', character] else [character]

theorem moduleLiteral_eq (quote : Char) (module : List Char) :
    moduleLiteral quote module = quote :: escapedModule quote module ++ [quote] := rfl

theorem escapedModule_cons_of_marked {quote character : Char}
    (marked : character = quote ∨ character = '\\') (module : List Char) :
    escapedModule quote (character :: module) =
      '\\' :: character :: escapedModule quote module := by
  simp [escapedModule, marked]

theorem escapedModule_cons_of_plain {quote character : Char}
    (plain : ¬(character = quote ∨ character = '\\')) (module : List Char) :
    escapedModule quote (character :: module) = character :: escapedModule quote module := by
  simp [escapedModule, plain]

section

variable {quote : Char} (isQuote : quote = '\'' ∨ quote = '"')
include isQuote

theorem spanString_marked {character : Char} (marked : character = quote ∨ character = '\\')
    (rest : List Char) : spanString quote ('\\' :: character :: rest) =
      (spanString quote rest).map fun found => ('\\' :: character :: found.1, found.2) := by
  rcases marked with rfl | rfl
  · rcases isQuote with rfl | rfl <;> rfl
  · rfl

/-- If the quote after a module is found, what is read up to it is what was written. -/
theorem raw_eq_of_spanString_escapedModule {module rest : List Char} : ∀ {raw after : List Char},
    spanString quote (escapedModule quote module ++ quote :: rest) = some (raw, after) →
      raw = escapedModule quote module := by
  induction module with
  | nil =>
      intro raw after spanned
      rcases isQuote with rfl | rfl <;> cases spanned <;> rfl
  | cons character module induction =>
      intro raw after spanned
      by_cases marked : character = quote ∨ character = '\\'
      · rw [escapedModule_cons_of_marked marked] at spanned ⊢
        rw [List.cons_append, List.cons_append, spanString_marked isQuote marked] at spanned
        rcases Option.map_eq_some_iff.mp spanned with ⟨⟨inner, _⟩, found, same⟩
        rw [← induction found]
        exact (Prod.mk.inj same).1.symm
      · rw [escapedModule_cons_of_plain marked] at spanned ⊢
        rcases not_or.mp marked with ⟨other, plain⟩
        rw [List.cons_append, spanString, if_neg (by simpa using other)] at spanned
        · split at spanned
          · cases spanned
          · rcases Option.map_eq_some_iff.mp spanned with ⟨⟨inner, _⟩, found, same⟩
            rw [← induction found]
            exact (Prod.mk.inj same).1.symm
        · simp [plain]
        · simp [plain]

theorem afterBackslash?_marked {character : Char}
    (marked : character = quote ∨ character = '\\') (rest : List Char) :
    Escape.afterBackslash? false (character :: rest) = some ([character.toNat], rest) := by
  rcases marked with rfl | rfl
  · rcases isQuote with rfl | rfl <;> rfl
  · rfl

theorem decode?_escapedModule (module : List Char) : ∀ {steps : Nat},
    (escapedModule quote module).length ≤ steps →
      Escape.decode? false steps (escapedModule quote module) = some (module.map Char.toNat) := by
  induction module with
  | nil =>
      intro steps _
      cases steps <;> rfl
  | cons character module induction =>
      intro steps enough
      by_cases marked : character = quote ∨ character = '\\'
      · rw [escapedModule_cons_of_marked marked] at enough ⊢
        cases steps with
        | zero => simp at enough
        | succ steps =>
            have decoded := @induction steps (by simp only [List.length_cons] at enough; omega)
            simp [Escape.decode?, afterBackslash?_marked isQuote marked, decoded]
      · rw [escapedModule_cons_of_plain marked] at enough ⊢
        cases steps with
        | zero => simp at enough
        | succ steps =>
            have decoded := @induction steps (by simpa using enough)
            rw [Escape.decode?, decoded]
            · rfl
            · simp [(not_or.mp marked).2]

end

theorem not_isSurrogate (character : Char) : isHighSurrogate character.toNat = false ∧
    isLowSurrogate character.toNat = false := by
  have valid := character.valid
  simp only [UInt32.isValidChar, Nat.isValidChar] at valid
  simp only [isHighSurrogate, isLowSurrogate, Char.toNat, Bool.and_eq_false_iff,
    decide_eq_false_iff_not]
  omega

theorem joinSurrogates_map_toNat : ∀ text : List Char,
    joinSurrogates (text.map Char.toNat) = text.map Char.toNat
  | [] => rfl
  | [_] => rfl
  | first :: second :: rest => by
      have joined := joinSurrogates_map_toNat (second :: rest)
      simp only [List.map_cons] at joined ⊢
      rw [joinSurrogates, (not_isSurrogate first).1, joined]
      rfl

theorem textOf_map_toNat (text : List Char) :
    Escape.textOf (text.map Char.toNat) = (String.ofList text, false) := by
  have whole : (text.map Char.toNat).any
      (fun code => isHighSurrogate code || isLowSurrogate code) = false := by
    simp [not_isSurrogate]
  simp [Escape.textOf, whole, not_isSurrogate, List.flatMap_map]

/-- Where a module specifier begins, a string is read exactly as the module that was written. -/
theorem module_eq_of_beginsLiteral {quote : Char} (isQuote : quote = '\'' ∨ quote = '"')
    {module rest : List Char} {value : String}
    (literal : BeginsLiteral (moduleLiteral quote module ++ rest) value) :
    value = String.ofList module := by
  rcases literal with ⟨mark, text, raw, after, malformed, opens, spanned, decoded⟩
  rw [moduleLiteral_eq] at opens
  simp only [List.cons_append, List.append_assoc, List.nil_append, List.cons.injEq] at opens
  rcases opens with ⟨rfl, rfl⟩
  obtain rfl := raw_eq_of_spanString_escapedModule isQuote spanned
  rw [Escape.stringValue?, decode?_escapedModule isQuote module le_rfl, Option.map_some,
    joinSurrogates_map_toNat, textOf_map_toNat] at decoded
  exact (congrArg Prod.fst (Option.some.inj decoded)).symm

theorem QuoteStyle.resolve_isQuote (style : QuoteStyle) (raw : List Char) :
    style.resolve raw = '\'' ∨ style.resolve raw = '"' := by
  unfold resolve
  split
  · exact .inl rfl
  · exact .inr rfl
  · split
    · exact .inr rfl
    · exact .inl rfl

/-! ## Sources that stay as they are -/

theorem append_eq_of_byteLength_eq {front back front' back' : List Char}
    (same : front ++ back = front' ++ back') (length : byteLength front = byteLength front') :
    front = front' ∧ back = back' := by
  have divided := splitAt?_append front back
  rw [same, length, splitAt?_append, Option.some.injEq, Prod.mk.injEq] at divided
  exact ⟨divided.1.symm, divided.2.symm⟩

/-- The text of the first edit stands in the result where the edit begins. -/
theorem Spliced.exists_first {cursor : Nat} {rest result : List Char} {edit : Edit}
    {later : List Edit} (spliced : Spliced cursor rest (edit :: later) result) :
    ∃ before after, result = before ++ (edit.text.toList ++ after) ∧
      cursor + byteLength before = edit.start := by
  cases spliced with
  | edit start _ _ => exact ⟨_, _, List.append_assoc .., start⟩

section

variable {dialect : Dialect} {path source : String} {options : Options} {program : Program}
  {module : String}

/-- A specifier that is replaced by the literal of another module does not stay as it is. -/
theorem ImportDeclaration.not_moduleEdit_first {declaration : ImportDeclaration}
    (written : declaration.IsWritten source.toList) (moves : module ≠ declaration.module)
    {later : List Edit} :
    ¬Spliced 0 source.toList (moduleEdit source.toList options module declaration :: later)
      source.toList := by
  intro spliced
  rcases spliced.exists_first with ⟨before, after, same, start⟩
  rcases written with ⟨front, back, parts, offset, literal⟩
  have equal : front = before ∧ back = _ :=
    append_eq_of_byteLength_eq (parts.symm.trans same) (by
      rw [offset, ← Nat.zero_add (byteLength before), start]
      rfl)
  rw [equal.2, moduleEdit, String.toList_ofList] at literal
  have value := module_eq_of_beginsLiteral (QuoteStyle.resolve_isQuote ..) literal
  rw [String.ofList_toList] at value
  exact moves value.symm

/-- A transform to another module leaves a source as it is, with nothing to report, exactly if the
source imports no icons. -/
theorem transformAs_eq_unchanged_iff (parsed : Program.parse dialect source = .ok program)
    (rewrites : options.newModule = some module) (moves : module ≠ options.targetModule) :
    transformAs dialect path source options = .ok (.unchanged source) ↔
      program.importsOf options.targetModule = [] := by
  rw [transformAs_of_parse parsed]
  constructor
  · intro unchanged
    by_contra imports
    rcases (transformProgram_eq_ok_iff imports).mp unchanged
      with ⟨bindings, _, _, applied, _, _, reports⟩
    obtain rfl : bindings = [] := List.map_eq_nil_iff.mp reports.symm
    -- Without bindings all edits replace specifiers, and one of them comes first.
    have edits : (program.plan source.toList options []).edits =
        (program.importsOf options.targetModule).map (moduleEdit source.toList options module) := by
      simp [Program.plan, planEdits, rewrites]
    have spliced := Plan.apply_eq_ok_iff.mp applied
    have permuted := (program.plan source.toList options []).ordered_perm
    rw [edits] at permuted
    cases ordered : (program.plan source.toList options []).ordered with
    | nil =>
        rw [ordered] at permuted
        exact imports (List.map_eq_nil_iff.mp permuted.symm.eq_nil)
    | cons edit later =>
        rw [ordered] at permuted spliced
        have member := permuted.mem_iff.mp List.mem_cons_self
        rcases List.mem_map.mp member with ⟨declaration, imported, rfl⟩
        rcases Program.mem_importsOf.mp imported with ⟨top, target⟩
        rw [← target] at moves
        exact ImportDeclaration.not_moduleEdit_first (Program.import_isWritten parsed top) moves
          spliced
  · exact transformProgram_of_no_imports

end

/-! ## The second run -/

/-- After a transform to another module that succeeds, a second run leaves the output as it is, with
nothing to report, exactly if the output imports no icons. -/
theorem second_transform_unchanged_iff
    (dialect : Dialect) (path source module : String) (options : Options)
    (output : TransformOutput)
    (rewrites : options.newModule = some module) (moves : module ≠ options.targetModule)
    (transformed : transformAs dialect path source options = .ok output) :
    ∃ result, Program.parse dialect output.code = .ok result ∧
      (transformAs dialect path output.code options = .ok (.unchanged output.code) ↔
        result.importsOf options.targetModule = []) := by
  rcases exists_parse_of_transformAs transformed with ⟨result, parsed⟩
  exact ⟨result, parsed, transformAs_eq_unchanged_iff parsed rewrites moves⟩

/-- Icons that come from the module `t` and move to the module `m`. -/
private def movingOptions : Options :=
  { Options.standard with targetModule := "t", newModule := some "m" }

/-- A transform with two edits, the specifier of the module and the entry before it. -/
theorem transformSource_of_two_edits {source : String} {program result : Program}
    {options : Options} {bindings : List ImportBinding} {entry specifier : Edit}
    {output : TransformOutput} (parsed : Program.parse .standard source = .ok program)
    (imports : program.importsOf options.targetModule ≠ [])
    (chosen : program.chosenBindings options = .ok bindings)
    (planned : (program.plan source.toList options bindings).edits = [specifier, entry])
    (inOrder : entry.isBefore specifier = true ∧ specifier.isBefore entry = false)
    (spliced : Plan.splice (byteLength source.toList) 0 (some source.toList) [entry, specifier] =
      .ok output.code.toList)
    (reparsed : Program.parse .standard output.code = .ok result)
    (reports : output.changed = (output.code != source) ∧
      output.bindings = bindings.map (·.report (ScopeAnalysis.ofProgram program))) :
    transformSource source options = .ok output := by
  rw [transformSource, transformAs_of_parse parsed, transformProgram_eq_ok_iff imports]
  refine ⟨bindings, result, chosen, ?_, reparsed, reports⟩
  have permuted : [entry, specifier].Perm (program.plan source.toList options bindings).edits := by
    rw [planned]
    exact List.Perm.swap ..
  rw [Plan.apply_of_perm permuted (List.pairwise_pair.mpr inOrder), spliced, Except.map,
    String.ofList_toList]

private def quotedNameSource : String :=
  "import \x7b 'A16 \x7d from \"t\"; import \x7b B16' as C \x7d from 't'"

/-- A module that imports an icon under a name in quotes, which itself looks like imports. -/
private def quotedName : Program :=
  ⟨[.importing ⟨[.named
      ⟨⟨"A16 \x7d from \"t\"; import \x7b B16", ⟨9, 39⟩, true⟩, ⟨"C", ⟨43, 44⟩⟩, false, ⟨9, 44⟩⟩],
    "t", ⟨52, 55⟩⟩]⟩

private def quotedNameBinding : ImportBinding :=
  ⟨"A16 \x7d from \"t\"; import \x7b B16", "C", "A16 \x7d from \"t\"; import \x7b B", 16, "C",
    true, false, ⟨9, 44⟩⟩

private def quotedNameOutput : TransformOutput :=
  ⟨"import \x7b A16 \x7d from \"t\"; import \x7b B as C \x7d from 'm'", true,
    [⟨"A16 \x7d from \"t\"; import \x7b B16", "C", 16, 0, 0, 0⟩]⟩

/-- The output, in which the name is read as the end of one import and the beginning of another. -/
private def unquotedName : Program :=
  ⟨[.importing ⟨[.named ⟨⟨"A16", ⟨9, 12⟩, false⟩, ⟨"A16", ⟨9, 12⟩⟩, false, ⟨9, 12⟩⟩],
      "t", ⟨20, 23⟩⟩,
    .importing ⟨[.named ⟨⟨"B", ⟨34, 35⟩, false⟩, ⟨"C", ⟨39, 40⟩⟩, false, ⟨34, 40⟩⟩],
      "m", ⟨48, 51⟩⟩]⟩

private theorem parse_quotedNameOutput :
    Program.parse .standard quotedNameOutput.code = .ok unquotedName := by decide +kernel

private theorem transformSource_quotedName :
    transformSource quotedNameSource movingOptions = .ok quotedNameOutput := by
  have parsed : Program.parse .standard quotedNameSource = .ok quotedName := by decide +kernel
  have chosen : quotedName.chosenBindings movingOptions = .ok [quotedNameBinding] := by rfl
  have planned : (quotedName.plan quotedNameSource.toList movingOptions [quotedNameBinding]).edits =
      [⟨52, 55, "'m'"⟩, ⟨9, 44, "A16 \x7d from \"t\"; import \x7b B as C"⟩] := by decide +kernel
  exact transformSource_of_two_edits parsed (by decide +kernel) chosen planned (by decide)
    (by decide +kernel) parse_quotedNameOutput (by decide +kernel)

/-- The second run finds an import of icons that the first one has made from a name. -/
theorem second_run_finds_smuggled_import :
    transformSource quotedNameOutput.code movingOptions ≠
      .ok (.unchanged quotedNameOutput.code) := by
  rcases second_transform_unchanged_iff .standard "<input>" quotedNameSource "m" movingOptions
    quotedNameOutput rfl (by decide +kernel) transformSource_quotedName
    with ⟨result, parsed, unchanged⟩
  obtain rfl : unquotedName = result := Except.ok.inj (parse_quotedNameOutput.symm.trans parsed)
  intro same
  exact absurd (unchanged.mp same) (by decide +kernel)

/-- Two runs with options as the documentation has them, of which the second changes the output of
the first. -/
theorem second_run_changes_output :
    ∃ first second,
      (∃ module, movingOptions.newModule = some module ∧ module ≠ movingOptions.targetModule) ∧
      movingOptions.collisionSuffix.toList.all Char.isAlphanum = true ∧
      transformSource quotedNameSource movingOptions = .ok first ∧
      transformSource first.code movingOptions = .ok second ∧
      second.code ≠ first.code ∧ second.changed = true ∧ second.bindings ≠ [] := by
  have chosen : unquotedName.chosenBindings movingOptions =
      .ok [⟨"A16", "A16", "A", 16, "A", false, false, ⟨9, 12⟩⟩] := by rfl
  have planned : (unquotedName.plan quotedNameOutput.code.toList movingOptions
        [⟨"A16", "A16", "A", 16, "A", false, false, ⟨9, 12⟩⟩]).edits =
      [⟨20, 23, "\"m\""⟩, ⟨9, 12, "A"⟩] := by decide +kernel
  let second : TransformOutput :=
    ⟨"import \x7b A \x7d from \"m\"; import \x7b B as C \x7d from 'm'", true,
      [⟨"A16", "A", 16, 0, 0, 0⟩]⟩
  obtain ⟨result, reparsed⟩ : ∃ result, Program.parse .standard second.code = .ok result :=
    exists_eq_ok (by decide +kernel)
  refine ⟨quotedNameOutput, second, ⟨"m", rfl, by decide +kernel⟩, by decide +kernel,
    transformSource_quotedName, ?_, by decide +kernel, rfl, nofun⟩
  exact transformSource_of_two_edits parse_quotedNameOutput (by decide +kernel) chosen planned
    (by decide) (by decide +kernel) reparsed (by decide +kernel)

end IconSize
