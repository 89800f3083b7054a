import IconSize.Proofs.Edits.Confinement
import IconSize.Proofs.Edits.Offsets
import IconSize.Proofs.Edits.Repetition

/-!
The literal that an import gets. Only its ends are quotes that no backslash escapes, and it is read
as one string, of which the value is the module, unless a line ends in the module: then it is not
read as a token at all. So what a transform gives out names no other module there; but the literal
need not be read as a specifier, because the name of an icon may begin a comment that takes it in.
-/

namespace IconSize
open Syntax Text Lexer

/-! ## Quotes that end a string -/

/-- The positions at which the quote stands with no backslash that escapes it. -/
def unescapedPositions (quote : Char) : Nat → List Char → List Nat
  | _, [] => []
  | position, '\\' :: _ :: rest => unescapedPositions quote (position + 2) rest
  | position, character :: rest =>
    if character = quote then position :: unescapedPositions quote (position + 1) rest
    else unescapedPositions quote (position + 1) rest

/-- May this character not stand in a string as it is? -/
def breaksString (character : Char) : Bool := character == '\n' || character == '\r'

/-- No quote in an escaped module ends a string. -/
theorem unescapedPositions_escapedModule (quote : Char) (module rest : List Char)
    (position : Nat) :
    unescapedPositions quote position (escapedModule quote module ++ rest) =
      unescapedPositions quote (position + (escapedModule quote module).length) rest := by
  induction module generalizing position with
  | nil => rfl
  | cons character module induction =>
      by_cases marked : character = quote ∨ character = '\\'
      · rw [escapedModule_cons_of_marked marked, List.cons_append, List.cons_append,
          unescapedPositions, induction, List.length_cons, List.length_cons, Nat.add_assoc,
          Nat.add_comm 2]
      · rw [escapedModule_cons_of_plain marked, List.cons_append, unescapedPositions,
          if_neg (not_or.mp marked).1, induction, List.length_cons, Nat.add_assoc, Nat.add_comm 1]
        · simp [(not_or.mp marked).2]

section

variable {quote : Char} (isQuote : quote = '\'' ∨ quote = '"')
include isQuote

/-- Only the first and the last character of a literal are quotes that no backslash escapes. -/
theorem unescapedPositions_moduleLiteral (module : List Char) :
    unescapedPositions quote 0 (moduleLiteral quote module) =
      [0, (moduleLiteral quote module).length - 1] := by
  have plain : quote ≠ '\\' := by rcases isQuote with rfl | rfl <;> decide
  rw [moduleLiteral_eq, List.cons_append, unescapedPositions, if_pos rfl,
    unescapedPositions_escapedModule, unescapedPositions, if_pos rfl]
  · simp [unescapedPositions, Nat.add_comm]
  · simp [plain]
  · simp [plain]

/-- The text between the quotes of a literal is found, unless a line ends in it. -/
theorem spanString_escapedModule (module rest : List Char) :
    spanString quote (escapedModule quote module ++ quote :: rest) =
      if module.any breaksString then none else some (escapedModule quote module, rest) := by
  induction module with
  | nil => rcases isQuote with rfl | rfl <;> rfl
  | cons character module induction =>
      by_cases marked : character = quote ∨ character = '\\'
      · have unbroken : breaksString character = false := by
          rcases marked with rfl | rfl
          · rcases isQuote with rfl | rfl <;> rfl
          · rfl
        rw [escapedModule_cons_of_marked marked, List.cons_append, List.cons_append,
          spanString_marked isQuote marked, induction, List.any_cons, unbroken, Bool.false_or]
        split <;> rfl
      · rcases not_or.mp marked with ⟨other, plain⟩
        rw [escapedModule_cons_of_plain marked, List.cons_append, spanString,
          if_neg (by simpa using other), induction, List.any_cons, breaksString]
        · by_cases breaks : (character == '\n' || character == '\r') = true
          · simp [breaks]
          · rw [if_neg breaks, Bool.eq_false_iff.mpr breaks, Bool.false_or]
            split <;> rfl
        · simp [plain]
        · simp [plain]

theorem stringValue?_escapedModule (module : List Char) :
    Escape.stringValue? (escapedModule quote module) = some (String.ofList module, false) := by
  rw [Escape.stringValue?, decode?_escapedModule isQuote module le_rfl, Option.map_some,
    joinSurrogates_map_toNat, textOf_map_toNat]

/-- A literal is read as one string, unless a line ends in the module. -/
theorem tokenAt_moduleLiteral (module rest : List Char) (newLine : Bool) (offset : Nat) :
    let literal := moduleLiteral quote module
    let here : Ahead := ⟨offset, literal ++ rest⟩
    let stop := offset + byteLength literal
    tokenAt newLine here =
      if module.any breaksString then Step.invalid newLine here
      else ⟨⟨.string, String.ofList module, ⟨offset, stop⟩, newLine, false, false⟩, here,
        ⟨stop, rest⟩⟩ := by
  intro literal here stop
  have opens : here.chars = quote :: (escapedModule quote module ++ quote :: rest) := by
    simp [here, literal, moduleLiteral_eq]
  have read : tokenAt newLine here =
      string newLine here quote (escapedModule quote module ++ quote :: rest) := by
    unfold tokenAt
    rw [opens]
    rcases isQuote with rfl | rfl <;> rfl
  have skipped : here.skip ((escapedModule quote module).length + 2) = ⟨stop, rest⟩ := by
    have length : (escapedModule quote module).length + 2 = literal.length := by
      simp [literal, moduleLiteral_eq]
    rw [length]
    simp [Ahead.skip, here, stop]
  rw [read, string, spanString_escapedModule isQuote]
  by_cases broken : module.any breaksString = true
  · rw [if_pos broken, if_pos broken]
  · rw [if_neg broken, if_neg broken]
    simp only [stringValue?_escapedModule isQuote, Step.of, skipped]
    rfl

/-- A string that is read where a literal was written has the module as its value, and no line ends
in that. -/
theorem unbroken_of_beginsLiteral {module rest : List Char} {value : String}
    (literal : BeginsLiteral (moduleLiteral quote module ++ rest) value) :
    module.any breaksString = false ∧ value = String.ofList module := by
  refine ⟨?_, module_eq_of_beginsLiteral isQuote literal⟩
  rcases literal with ⟨mark, text, raw, after, malformed, opens, spanned, -⟩
  rw [moduleLiteral_eq] at opens
  simp only [List.cons_append, List.append_assoc, List.nil_append, List.cons.injEq] at opens
  rcases opens with ⟨rfl, rfl⟩
  rw [spanString_escapedModule isQuote] at spanned
  split at spanned
  · cases spanned
  · simp_all

end

/-! ## The literals of a result -/

/-- An import that is read where an edit has put the literal of a module names that module. -/
theorem Syntax.Program.module_eq_of_written {dialect : Dialect} {code : String} {result : Program}
    (parsed : Program.parse dialect code = .ok result) {quote : Char}
    (isQuote : quote = '\'' ∨ quote = '"') {module front back : List Char}
    (written : code.toList = front ++ moduleLiteral quote module ++ back)
    {declaration : ImportDeclaration} (imported : .importing declaration ∈ result.body)
    (place : declaration.literal.start = byteLength front) :
    module.any breaksString = false ∧ declaration.module = String.ofList module := by
  rcases Program.import_isWritten parsed imported with ⟨before, after, split, offset, literal⟩
  rw [written, List.append_assoc] at split
  rcases append_eq_of_byteLength_eq split (place.symm.trans offset.symm) with ⟨rfl, rfl⟩
  exact unbroken_of_beginsLiteral isQuote literal

/-- The literal that an import gets is delimited by its first and its last character only, and it
is read as one string that denotes the module; if a line ends in the module, it is not read as a
token. Where a transform that succeeds has put such a literal, its result is read as importing that
very module, or not as importing anything; the latter always, if a line ends in the module. -/
theorem module_literal_denotes_module (style : QuoteStyle) (raw module : List Char) :
    let literal := moduleLiteral (style.resolve raw) module
    unescapedPositions (style.resolve raw) 0 literal = [0, literal.length - 1] ∧
      (∀ rest newLine offset,
        let here : Ahead := ⟨offset, literal ++ rest⟩
        let stop := offset + byteLength literal
        tokenAt newLine here =
          if module.any breaksString then Step.invalid newLine here
          else ⟨⟨.string, String.ofList module, ⟨offset, stop⟩, newLine, false, false⟩, here,
            ⟨stop, rest⟩⟩) ∧
      ∀ dialect path source options output program,
        options.newModule = some (String.ofList module) →
        Program.parse dialect source = .ok program →
        transformAs dialect path source options = .ok output →
        ∀ declaration ∈ program.importsOf options.targetModule,
          let edit := moduleEdit source.toList options (String.ofList module) declaration
          ∃ bindings earlier later front back result,
            program.chosenBindings options = .ok bindings ∧
            (program.plan source.toList options bindings).edits = earlier ++ edit :: later ∧
            output.code.toList = front ++ edit.text.toList ++ back ∧
            (byteLength front : Int) =
              edit.start + Edit.growthOfAll (edit.preceding earlier later) ∧
            Program.parse dialect output.code = .ok result ∧
            ∀ read, .importing read ∈ result.body → read.literal.start = byteLength front →
              module.any breaksString = false ∧ read.module = String.ofList module := by
  refine ⟨unescapedPositions_moduleLiteral (style.resolve_isQuote raw) module,
    tokenAt_moduleLiteral (style.resolve_isQuote raw) module, ?_⟩
  intro dialect path source options output program rewrites parsed transformed declaration imported
  have imports : program.importsOf options.targetModule ≠ [] := List.ne_nil_of_mem imported
  rw [transformAs_of_parse parsed, transformProgram_eq_ok_iff imports] at transformed
  rcases transformed with ⟨bindings, result, chosen, applied, reparsed, -⟩
  have planned : moduleEdit source.toList options (String.ofList module) declaration ∈
      (program.plan source.toList options bindings).edits := by
    rw [Program.edits_plan]
    refine List.mem_append_left _ ?_
    rw [Program.literalEdits, rewrites]
    simpa using ⟨declaration, imported, rfl⟩
  rcases List.append_of_mem planned with ⟨earlier, later, split⟩
  have spliced := Plan.apply_eq_ok_iff.mp applied
  rw [Plan.ordered_eq_append split] at spliced
  rcases spliced.exists_text with ⟨front, back, written, place⟩
  rw [Nat.cast_zero, zero_add, Edit.growthOfAll_perm (Plan.ordered_perm _)] at place
  refine ⟨bindings, earlier, later, front, back, result, chosen, split, written, place, reparsed,
    fun read member here => ?_⟩
  rw [moduleEdit, String.toList_ofList, String.toList_ofList] at written
  exact Program.module_eq_of_written reparsed (QuoteStyle.resolve_isQuote ..) written member here

/-- Icons that come from the module `t` and move to another module. -/
private def movingTo (module : String) : Options :=
  { Options.standard with targetModule := "t", newModule := some module }

private def iconMovedSource : String := "import \x7bA32\x7d from 't'"

private def iconMoved : Program :=
  ⟨[.importing ⟨[.named ⟨⟨"A32", ⟨8, 11⟩, false⟩, ⟨"A32", ⟨8, 11⟩⟩, false, ⟨8, 11⟩⟩],
    "t", ⟨18, 21⟩⟩]⟩

private def iconMovedOutput : TransformOutput :=
  ⟨"import \x7bA\x7d from 'it\\'s\\\\'", true, [⟨"A32", "A", 32, 0, 0, 0⟩]⟩

private def iconMovedBinding : ImportBinding :=
  ⟨"A32", "A32", "A", 32, "A", false, false, ⟨8, 11⟩⟩

private def writtenEdit : Edit := ⟨18, 21, "'it\\'s\\\\'"⟩

private theorem edits_iconMoved :
    (iconMoved.plan iconMovedSource.toList (movingTo "it's\\") [iconMovedBinding]).edits =
      [writtenEdit, ⟨8, 11, "A"⟩] := by decide +kernel

/-- A module that has a quote in it and ends in a backslash is read back. -/
theorem quote_and_backslash_read_back :
    let module := "it's\\"
    Program.parse .standard iconMovedSource = .ok iconMoved ∧
      transformSource iconMovedSource (movingTo module) = .ok iconMovedOutput ∧
      ∃ result, Program.parse .standard iconMovedOutput.code = .ok result ∧
        ∀ read, .importing read ∈ result.body → read.literal.start = 16 →
          read.module = module := by
  intro module
  have parsed : Program.parse .standard iconMovedSource = .ok iconMoved := by decide +kernel
  have chosen : iconMoved.chosenBindings (movingTo module) = .ok [iconMovedBinding] := rfl
  obtain ⟨result, reparsed⟩ : ∃ result,
      Program.parse .standard iconMovedOutput.code = .ok result :=
    exists_eq_ok (by decide +kernel)
  have transformed : transformSource iconMovedSource (movingTo module) = .ok iconMovedOutput :=
    transformSource_of_two_edits parsed (by decide +kernel) chosen edits_iconMoved (by decide)
      (by decide +kernel) reparsed (by decide +kernel)
  refine ⟨parsed, transformed, result, reparsed, fun read member start => ?_⟩
  have imported : ⟨[.named ⟨⟨"A32", ⟨8, 11⟩, false⟩, ⟨"A32", ⟨8, 11⟩⟩, false, ⟨8, 11⟩⟩], "t",
      ⟨18, 21⟩⟩ ∈ iconMoved.importsOf (movingTo module).targetModule := by decide +kernel
  rcases (module_literal_denotes_module .auto [] module.toList).2.2 .standard "<input>"
      iconMovedSource (movingTo module) iconMovedOutput iconMoved (by decide +kernel) parsed
      transformed _ imported
    with ⟨bindings, earlier, later, front, back, result', sameChosen, split, -, place, same, names⟩
  obtain rfl : bindings = [iconMovedBinding] := Except.ok.inj (sameChosen.symm.trans chosen)
  obtain rfl : result = result' := Except.ok.inj (reparsed.symm.trans same)
  have edit : moduleEdit iconMovedSource.toList (movingTo module) (String.ofList module.toList)
      ⟨[.named ⟨⟨"A32", ⟨8, 11⟩, false⟩, ⟨"A32", ⟨8, 11⟩⟩, false, ⟨8, 11⟩⟩], "t", ⟨18, 21⟩⟩ =
        writtenEdit := by decide +kernel
  rw [edit] at split place
  obtain ⟨rfl, rfl⟩ : earlier = [] ∧ later = [⟨8, 11, "A"⟩] := by
    have listed := edits_iconMoved.symm.trans split
    rcases earlier with _ | ⟨first, _ | ⟨second, others⟩⟩
    · exact ⟨rfl, (List.cons.inj listed).2.symm⟩
    · simp [writtenEdit] at listed
    · simp at listed
  have growth : Edit.growthOfAll (writtenEdit.preceding [] [⟨8, 11, "A"⟩]) = -2 := by
    decide +kernel
  have here : byteLength front = 16 := by
    rw [growth] at place
    have written : writtenEdit.start = 18 := rfl
    omega
  exact (names read member (start.trans here.symm)).2.trans String.ofList_toList

/-! ## Literals that are not read -/

private def commentedSource : String :=
  "import \x7b'a \x7d from \"x\"; /*16' as B\x7d from 't'; /**/"

/-- A module that imports an icon under a name in quotes, in which a comment begins. -/
private def commented : Program :=
  ⟨[.importing ⟨[.named
      ⟨⟨"a \x7d from \"x\"; /*16", ⟨8, 28⟩, true⟩, ⟨"B", ⟨32, 33⟩⟩, false, ⟨8, 33⟩⟩],
    "t", ⟨40, 43⟩⟩]⟩

private def commentedBinding : ImportBinding :=
  ⟨"a \x7d from \"x\"; /*16", "B", "a \x7d from \"x\"; /*", 16, "B", true, false, ⟨8, 33⟩⟩

private def commentedOutput : TransformOutput :=
  ⟨"import \x7ba \x7d from \"x\"; /* as B\x7d from 'm\nn'; /**/", true,
    [⟨"a \x7d from \"x\"; /*16", "B", 16, 0, 0, 0⟩]⟩

/-- A rewrite to a module in which a line ends succeeds. Its literal stands in a comment of the
result, which imports from another module. -/
theorem broken_literal_passes_in_comment :
    ("m\nn".toList.any breaksString = true ∧ (movingTo "m\nn").newModule = some "m\nn") ∧
      Program.parse .standard commentedSource = .ok commented ∧
      commented.importsOf (movingTo "m\nn").targetModule ≠ [] ∧
      transformSource commentedSource (movingTo "m\nn") = .ok commentedOutput ∧
      ∃ result, Program.parse .standard commentedOutput.code = .ok result ∧
        result.importsOf "x" ≠ [] := by
  have parsed : Program.parse .standard commentedSource = .ok commented := by decide +kernel
  have imports : commented.importsOf (movingTo "m\nn").targetModule ≠ [] := by decide +kernel
  have chosen : commented.chosenBindings (movingTo "m\nn") = .ok [commentedBinding] := by rfl
  have planned : (commented.plan commentedSource.toList (movingTo "m\nn")
        [commentedBinding]).edits =
      [⟨40, 43, "'m\nn'"⟩, ⟨8, 33, "a \x7d from \"x\"; /* as B"⟩] := by decide +kernel
  let result : Program :=
    ⟨[.importing ⟨[.named ⟨⟨"a", ⟨8, 9⟩, false⟩, ⟨"a", ⟨8, 9⟩⟩, false, ⟨8, 9⟩⟩], "x", ⟨17, 20⟩⟩]⟩
  have reparsed : Program.parse .standard commentedOutput.code = .ok result := by decide +kernel
  refine ⟨⟨by decide +kernel, rfl⟩, parsed, imports, ?_, result, reparsed, by decide +kernel⟩
  exact transformSource_of_two_edits parsed imports chosen planned (by decide) (by decide +kernel)
    reparsed (by decide +kernel)

end IconSize
