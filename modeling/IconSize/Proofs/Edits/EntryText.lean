import IconSize.Proofs.Edits.Repetition
import IconSize.Proofs.Icon.NamingConvention
import IconSize.Proofs.Syntax.EntryForms

/-!
The text that replaces an entry of an import. It is read as one entry that imports the name without
the size exactly where both of its names may be written without quotes: the imported one has to be a
name, and the local one a name that an import may bind.
-/

namespace IconSize
open Syntax Syntax.Grammar Text

namespace IconName

/-- A name with its size is the name and two more characters. -/
theorem toList_of_decompose {imported : String} {icon : IconName}
    (decomposed : decompose imported = .ok icon) :
    icon.name.toList ≠ [] ∧ ∃ tens units, imported.toList = icon.name.toList ++ [tens, units] := by
  rcases decompose_eq_ok_iff.mp decomposed with ⟨tens, units, suffixed, -⟩
  exact ⟨suffixed.nonempty, tens, units, suffixed.spelled⟩

/-- What stands before the size in a name is a name. -/
theorem isName_of_decompose {imported : String} {icon : IconName}
    (decomposed : decompose imported = .ok icon) (plain : Lexer.isName imported.toList = true) :
    Lexer.isName icon.name.toList = true := by
  rcases toList_of_decompose decomposed with ⟨some, tens, units, split⟩
  rw [split] at plain
  cases spelled : icon.name.toList with
  | nil => exact absurd spelled some
  | cons first letters =>
      rw [spelled] at plain
      simp only [List.cons_append, Lexer.isName, List.all_append, Bool.and_eq_true] at plain ⊢
      exact ⟨plain.1, plain.2.1⟩

end IconName

namespace ImportBinding

/-- The rule for entries of imports reads the text of the entry, and nothing of what follows it, as
one entry that imports the name without the size under the new local name. -/
def IsReadBack (binding : ImportBinding) (surroundings : Surroundings) (cursor : Cursor)
    (start : Nat) (rest : List Char) : Prop :=
  let stop := start + byteLength binding.specifierText.toList
  ∃ specifier, importSpecifier.read surroundings cursor =
      .ok (.named specifier, .at ⟨stop, rest⟩ stop cursor.openDefaults) ∧
    specifier.imported.name = binding.decomposed ∧ specifier.imported.quoted = false ∧
    specifier.binder.name = binding.replacement ∧ specifier.typeOnly = binding.typeOnly ∧
    specifier.span = ⟨start, stop⟩

variable {binding : ImportBinding} {surroundings : Surroundings} {cursor : Cursor} {start : Nat}
  {rest : List Char}

theorem isReadBack_of_entry {firstAt secondAt stop : Nat} (binds : IsBindable binding.replacement)
    (read : entry.read surroundings cursor =
      .ok (⟨.plain binding.decomposed firstAt, .plain binding.replacement secondAt,
        binding.typeOnly, ⟨start, stop⟩⟩, .at ⟨stop, rest⟩ stop cursor.openDefaults))
    (whole : stop = start + byteLength binding.specifierText.toList) :
    binding.IsReadBack surroundings cursor start rest := by
  have binder : isImportBinder (.plain binding.replacement secondAt) = true :=
    (isImportBinder_iff fun _ => binds.1).mpr ⟨rfl, binds⟩
  subst whole
  exact ⟨_, read_importSpecifier read binder, rfl, rfl, rfl, rfl, rfl⟩

theorem isReadBack_of_names (ends : Lexer.EndsEntry rest)
    (typed : binding.typeOnly = true → surroundings.dialect.typescript = true)
    (looks : cursor.LooksAt ⟨start, binding.specifierText.toList ++ rest⟩)
    (decomposed : Lexer.isName binding.decomposed.toList = true)
    (binds : IsBindable binding.replacement) :
    binding.IsReadBack surroundings cursor start rest := by
  have text : binding.specifierText.toList =
      (if binding.typeOnly then "type".toList ++ [' '] else []) ++
        if binding.decomposed = binding.replacement then binding.replacement.toList
        else binding.decomposed.toList ++
          ' ' :: ("as".toList ++ ' ' :: binding.replacement.toList) := by
    unfold specifierText
    cases binding.typeOnly <;> by_cases same : binding.decomposed = binding.replacement <;>
      simp [same]
  have blank : ' '.utf8Size = 1 := rfl
  cases mark : binding.typeOnly with
  | false =>
      by_cases same : binding.decomposed = binding.replacement
      · simp only [mark, same, Bool.false_eq_true, if_false, if_true, List.nil_append] at text
        rw [text] at looks
        refine isReadBack_of_entry binds (by
          rw [same, mark]
          exact read_entry_name binds.1 ends looks) ?_
        rw [text]
      · simp only [mark, same, Bool.false_eq_true, if_false, List.nil_append] at text
        rw [text] at looks
        refine isReadBack_of_entry binds (by
          rw [mark]
          exact read_entry_renamed decomposed binds.1 ends (by simpa using looks)) ?_
        simp only [text, byteLength_append, byteLength_cons, byteLength_as, blank]
        omega
  | true =>
      by_cases same : binding.decomposed = binding.replacement
      · simp only [mark, same, if_true] at text
        rw [text] at looks
        refine isReadBack_of_entry binds (by
          rw [same, mark]
          exact read_entry_type binds.1 ends (typed mark) (by simpa using looks)) ?_
        simp only [text, byteLength_append, byteLength_cons, byteLength_nil, byteLength_type, blank]
        omega
      · simp only [mark, same, if_true, if_false] at text
        rw [text] at looks
        refine isReadBack_of_entry binds (by
          rw [mark]
          exact read_entry_type_renamed decomposed binds.1 ends (typed mark)
            (by simpa using looks)) ?_
        simp only [text, byteLength_append, byteLength_cons, byteLength_nil, byteLength_as,
          byteLength_type, blank]
        omega

/-- The text is read back exactly if both names may be written without quotes. -/
theorem isReadBack_iff (ends : Lexer.EndsEntry rest)
    (typed : binding.typeOnly = true → surroundings.dialect.typescript = true)
    (looks : cursor.LooksAt ⟨start, binding.specifierText.toList ++ rest⟩) :
    binding.IsReadBack surroundings cursor start rest ↔
      Lexer.isName binding.decomposed.toList = true ∧ IsBindable binding.replacement := by
  constructor
  · rintro ⟨specifier, read, imported, unquoted, bound, -⟩
    rcases importSpecifier_isReadBetween looks.isExact read with ⟨found, between, binds, rfl⟩
    rw [← imported, ← bound]
    exact ⟨between.first unquoted, binds⟩
  · rintro ⟨decomposed, binds⟩
    exact isReadBack_of_names ends typed looks decomposed binds

end ImportBinding

/-- A binding is marked as its entry is, and has an alias if the names of that differ. -/
theorem NameChoice.bind_marks {choice : NameChoice} {specifier : ImportSpecifier}
    {binding : ImportBinding} (bound : choice.bind specifier = .ok binding) :
    binding.typeOnly = specifier.typeOnly ∧
      (binding.aliased = false → specifier.imported.name = specifier.binder.name) := by
  unfold bind at bound
  dsimp only at bound
  split at bound
  · cases bound
  · cases bound
    exact ⟨rfl, fun unaliased => by simpa using unaliased⟩

/-- The text of an entry of an import, where it stands instead of the entry, is read back exactly
if both of its names may be written without quotes. The imported name may if it was written without
quotes, or if the entry has no alias; the new local name may if it is an alias. -/
theorem entry_text_read_back_iff {dialect : Dialect} {source : String} {program : Program}
    (parsed : Program.parse dialect source = .ok program) {declaration : ImportDeclaration}
    (imports : .importing declaration ∈ program.body) {specifier : ImportSpecifier}
    (entry : specifier ∈ declaration.specifiers) {choice : NameChoice} {binding : ImportBinding}
    (bound : choice.bind specifier = .ok binding) :
    (specifier.imported.quoted = false ∨ binding.aliased = false →
      Lexer.isName binding.decomposed.toList = true) ∧
    (binding.aliased = true → IsBindable binding.replacement) ∧
    ∃ front original rest, source.toList = front ++ original ++ rest ∧
      byteLength front = specifier.span.start ∧
      byteLength (front ++ original) = specifier.span.stop ∧ Lexer.EndsEntry rest ∧
      ∀ surroundings cursor, surroundings.dialect = dialect →
        cursor.LooksAt ⟨specifier.span.start, binding.specifierText.toList ++ rest⟩ →
        (binding.IsReadBack surroundings cursor specifier.span.start rest ↔
          Lexer.isName binding.decomposed.toList = true ∧ IsBindable binding.replacement) := by
  rcases NameChoice.bind_eq_ok bound with ⟨-, -, decomposed, -⟩
  rcases NameChoice.bind_marks bound with ⟨mark, unaliasedSame⟩
  have read := Program.entry_isReadIn parsed imports (ImportDeclaration.mem_specifiers.mp entry)
  rcases read.split with ⟨front, original, rest, split, start, stop, ends⟩
  rcases read with ⟨around, here, after, spoken, -, exact, read, -⟩
  rcases importSpecifier_isReadBetween exact read with ⟨found, between, binds, rfl⟩
  refine ⟨fun plain => ?_, fun aliased => ?_, front, original, rest, split, start, stop,
    ends, fun surroundings cursor sameDialect looks => ?_⟩
  · refine IconName.isName_of_decompose decomposed ?_
    rcases plain with unquoted | unaliased
    · exact between.first unquoted
    · rw [unaliasedSame unaliased]
      exact binds.1
  · rcases NameChoice.bind_cases bound with ⟨-, kept⟩ | ⟨unaliased, -⟩ | ⟨unaliased, -⟩
    · rw [kept]
      exact binds
    · simp [unaliased] at aliased
    · simp [unaliased] at aliased
  · refine ImportBinding.isReadBack_iff ends (fun typeOnly => ?_) looks
    rw [sameDialect, ← spoken]
    exact between.typeOnly (mark.symm.trans typeOnly)

/-- Icons that come from the module `t` and move to the module `u`. -/
private def fromModuleT : Options :=
  { Options.standard with targetModule := "t", newModule := some "u" }

private def typeMarkSource : String := "import \x7btype as16 as type\x7d from 't'"

private def typeMarkEntry : ImportSpecifier :=
  ⟨⟨"as16", ⟨13, 17⟩, false⟩, ⟨"type", ⟨21, 25⟩⟩, true, ⟨8, 25⟩⟩

private def typeMarkImport : ImportDeclaration := ⟨[.named typeMarkEntry], "t", ⟨32, 35⟩⟩

private def typeMarkBinding : ImportBinding :=
  ⟨"as16", "type", "as", 16, "type", true, true, ⟨8, 25⟩⟩

/-- A type `as` that is called `type` keeps its mark and both names. -/
theorem words_of_entries_read_back :
    Program.parse .standard typeMarkSource = .ok ⟨[.importing typeMarkImport]⟩ ∧
      (NameChoice.start .empty fromModuleT).bind typeMarkEntry = .ok typeMarkBinding ∧
      typeMarkBinding.specifierText = "type as as type" ∧
      ∀ surroundings, surroundings.dialect = .standard →
        typeMarkBinding.IsReadBack surroundings
          (.at ⟨8, "type as as type\x7d from 't'".toList⟩ 8 []) 8 "\x7d from 't'".toList := by
  have parsed : Program.parse .standard typeMarkSource = .ok ⟨[.importing typeMarkImport]⟩ := by
    cbv
  have entry : typeMarkEntry ∈ typeMarkImport.specifiers := by decide +kernel
  have bound : (NameChoice.start .empty fromModuleT).bind typeMarkEntry = .ok typeMarkBinding := by
    decide +kernel
  refine ⟨parsed, bound, by decide +kernel, fun surroundings dialect => ?_⟩
  rcases entry_text_read_back_iff parsed List.mem_cons_self entry bound
    with ⟨plain, bindable, front, original, rest, split, -, stop, -, reads⟩
  -- The rest of the source is what stands behind the entry.
  obtain rfl : "\x7d from 't'".toList = rest := by
    have divided := splitAt?_append (front ++ original) rest
    rw [← split, stop] at divided
    have behind : splitAt? 25 typeMarkSource.toList =
        some ("import \x7btype as16 as type".toList, "\x7d from 't'".toList) := by decide +kernel
    exact (Prod.mk.inj (Option.some.inj (behind.symm.trans divided))).2
  exact (reads surroundings _ dialect ⟨_, rfl⟩).mpr ⟨plain (.inl rfl), bindable rfl⟩

/-! ## Names that are written in quotes -/

private def quotedListSource : String := "import \x7b'A, B16' as C\x7d from 't'"

private def quotedListEntry : ImportSpecifier :=
  ⟨⟨"A, B16", ⟨8, 16⟩, true⟩, ⟨"C", ⟨20, 21⟩⟩, false, ⟨8, 21⟩⟩

/-- A module that imports an icon under a name with a comma. -/
private def quotedList : Program := ⟨[.importing ⟨[.named quotedListEntry], "t", ⟨28, 31⟩⟩]⟩

private def quotedListBinding : ImportBinding :=
  ⟨"A, B16", "C", "A, B", 16, "C", true, false, ⟨8, 21⟩⟩

private def quotedListOutput : TransformOutput :=
  ⟨"import \x7bA, B as C\x7d from 'u'", true, [⟨"A, B16", "C", 16, 0, 0, 0⟩]⟩

private def unquotedList : Program :=
  ⟨[.importing ⟨[.named ⟨⟨"A", ⟨8, 9⟩, false⟩, ⟨"A", ⟨8, 9⟩⟩, false, ⟨8, 9⟩⟩,
    .named ⟨⟨"B", ⟨11, 12⟩, false⟩, ⟨"C", ⟨16, 17⟩⟩, false, ⟨11, 17⟩⟩], "u", ⟨24, 27⟩⟩]⟩

/-- The text of an entry with a quoted name is read as two entries, neither of which imports the
name without the size. -/
theorem quoted_name_read_as_two_entries :
    Program.parse .standard quotedListSource = .ok quotedList ∧
      quotedList.chosenBindings fromModuleT = .ok [quotedListBinding] ∧
      quotedListBinding.decomposed = "A, B" ∧
      transformSource quotedListSource fromModuleT = .ok quotedListOutput ∧
      ∃ declaration, Program.parse .standard quotedListOutput.code =
          .ok ⟨[.importing declaration]⟩ ∧
        declaration.specifiers.map (fun specifier =>
          (specifier.imported.name, specifier.binder.name)) = [("A", "A"), ("B", "C")] := by
  have parsed : Program.parse .standard quotedListSource = .ok quotedList := by decide +kernel
  have chosen : quotedList.chosenBindings fromModuleT = .ok [quotedListBinding] := by rfl
  have reparsed : Program.parse .standard quotedListOutput.code = .ok unquotedList := by
    decide +kernel
  have planned : (quotedList.plan quotedListSource.toList fromModuleT [quotedListBinding]).edits =
      [⟨28, 31, "'u'"⟩, ⟨8, 21, "A, B as C"⟩] := by decide +kernel
  refine ⟨parsed, chosen, rfl, ?_, _, reparsed, by decide +kernel⟩
  exact transformSource_of_two_edits parsed (by decide +kernel) chosen planned (by decide)
    (by decide +kernel) reparsed (by decide +kernel)

end IconSize
