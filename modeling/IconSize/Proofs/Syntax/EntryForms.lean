import IconSize.Proofs.Syntax.ImportEntries

/-!
The four forms of an entry by its names: `a`, `a as b`, `type a` and `type a as b`. Written out with
single blanks, each of them is read as it is meant, also where one of the names is `type` or `as`.
-/

namespace IconSize.Syntax
open Text

/-- The same cursor, with or without a line that ends before its token. -/
def Cursor.withNewLine (cursor : Cursor) (newLine : Bool) : Cursor :=
  { cursor with token := { cursor.token with onNewLine := newLine } }

/-- The cursor looks at the first token of what lies ahead; a line may end before it. -/
def Cursor.LooksAt (cursor : Cursor) (ahead : Ahead) : Prop :=
  ∃ newLine, cursor =
    (Cursor.at ahead cursor.lastStop cursor.openDefaults).withNewLine newLine

/-- A name as it is written without quotes or escapes. -/
def ModuleName.plain (name : String) (offset : Nat) : ModuleName :=
  ⟨name, ⟨offset, offset + byteLength name.toList⟩, false⟩

/-- The cursor at a name. -/
def Cursor.word (name : String) (newLine : Bool) (offset : Nat) (rest : List Char)
    (lastStop : Nat) (openDefaults : List Nat) : Cursor :=
  ⟨⟨.word, name, ⟨offset, offset + byteLength name.toList⟩, newLine, false, false⟩,
    ⟨offset, name.toList ++ rest⟩, ⟨offset + byteLength name.toList, rest⟩, lastStop,
    openDefaults⟩

namespace Cursor

variable {cursor : Cursor} {ahead : Ahead} {name : String} {rest : List Char} {newLine : Bool}
  {offset lastStop : Nat} {openDefaults : List Nat}

theorem LooksAt.at_ahead (ahead : Ahead) (lastStop : Nat) (openDefaults : List Nat) :
    (Cursor.at ahead lastStop openDefaults).LooksAt ahead :=
  ⟨_, rfl⟩

theorem LooksAt.isExact (looks : cursor.LooksAt ahead) : cursor.IsExact := by
  rcases looks with ⟨newLine, same⟩
  have stands := Lexer.next_isAt ahead
  rw [same]
  exact ⟨⟨.refl _, stands.covers, stands.span, stands.takes, stands.literal⟩, rfl, stands.word,
    stands.punctuator⟩

section

variable (plain : Lexer.isName name.toList = true) (ends : Lexer.EndsName rest)
include plain ends

theorem at_name : Cursor.at ⟨offset, name.toList ++ rest⟩ lastStop openDefaults =
    .word name false offset rest lastStop openDefaults := by
  rcases ends with ⟨character, others, rfl, stops, noEscape⟩
  rw [Cursor.at, Lexer.next_of_isName plain character stops noEscape]
  simp [Cursor.word, Lexer.Step.of, Ahead.skip]

@[simp]
theorem at_blank_name : Cursor.at ⟨offset, ' ' :: (name.toList ++ rest)⟩ lastStop openDefaults =
    .word name false (offset + 1) rest lastStop openDefaults := by
  rw [← at_name plain ends]
  cases spelled : name.toList with
  | nil => simp [spelled, Lexer.isName] at plain
  | cons first letters =>
      rw [spelled] at plain
      have part := Lexer.isIdentifierPart_of_isName plain first List.mem_cons_self
      rw [Cursor.at, List.cons_append, Lexer.next_blank part]
      rfl

theorem LooksAt.eq_word (looks : cursor.LooksAt ⟨offset, name.toList ++ rest⟩) :
    ∃ newLine, cursor = .word name newLine offset rest cursor.lastStop cursor.openDefaults := by
  rcases looks with ⟨newLine, same⟩
  rw [at_name plain ends] at same
  exact ⟨newLine, same⟩

end

@[simp]
theorem lastStop_at : (Cursor.at ahead lastStop openDefaults).lastStop = lastStop := rfl

@[simp]
theorem openDefaults_at :
    (Cursor.at ahead lastStop openDefaults).openDefaults = openDefaults := rfl

@[simp]
theorem openDefaults_word :
    (Cursor.word name newLine offset rest lastStop openDefaults).openDefaults = openDefaults := rfl

@[simp]
theorem start_word :
    (Cursor.word name newLine offset rest lastStop openDefaults).token.span.start = offset := rfl

@[simp]
theorem stop_word : (Cursor.word name newLine offset rest lastStop openDefaults).token.span.stop =
    offset + byteLength name.toList := rfl

@[simp]
theorem after_word : (Cursor.word name newLine offset rest lastStop openDefaults).after =
    ⟨offset + byteLength name.toList, rest⟩ := rfl

@[simp]
theorem isKeyword_word (text : String) :
    (Cursor.word name newLine offset rest lastStop openDefaults).token.isKeyword text =
      (name == text) := rfl

end Cursor

namespace Grammar
open IconSize.Syntax.Parser

variable {surroundings : Surroundings} {cursor : Cursor} {name : String} {rest : List Char}
  {newLine : Bool} {offset lastStop : Nat} {openDefaults : List Nat}

@[simp]
theorem read_moduleName_word :
    moduleName.read surroundings (.word name newLine offset rest lastStop openDefaults) =
      .ok (.plain name offset, .at ⟨offset + byteLength name.toList, rest⟩
        (offset + byteLength name.toList) openDefaults) := rfl

@[simp]
theorem read_atModuleName_word :
    atModuleName.read surroundings (.word name newLine offset rest lastStop openDefaults) =
      .ok (true, .word name newLine offset rest lastStop openDefaults) := rfl

section

variable (ends : Lexer.EndsEntry rest)
include ends

theorem kind_at_end :
    (Cursor.at ⟨offset, rest⟩ lastStop openDefaults).token.kind = .punctuator := by
  have token := ends offset
  simp only [Lexer.isSeparator, Token.isPunctuator, Bool.or_eq_true, Bool.and_eq_true,
    beq_iff_eq] at token
  rcases token with ⟨kind, _⟩ | ⟨kind, _⟩ <;> exact kind

@[simp]
theorem isKeyword_at_end (text : String) :
    (Cursor.at ⟨offset, rest⟩ lastStop openDefaults).token.isKeyword text = false := by
  simp [Token.isKeyword, kind_at_end ends]

@[simp]
theorem read_atModuleName_end :
    atModuleName.read surroundings (.at ⟨offset, rest⟩ lastStop openDefaults) =
      .ok (false, .at ⟨offset, rest⟩ lastStop openDefaults) := by
  simp [atModuleName, Token.isWord, kind_at_end ends]

end

section

variable {binder : String} (plain : Lexer.isName name.toList = true)
  (binds : Lexer.isName binder.toList = true) (ends : Lexer.EndsEntry rest)

theorem isName_as : Lexer.isName "as".toList = true := by decide

theorem byteLength_as : byteLength "as".toList = 2 := rfl

theorem isName_type : Lexer.isName "type".toList = true := by decide

theorem byteLength_type : byteLength "type".toList = 4 := rfl

include plain ends in
/-- An entry `a` is read as the name for both. -/
theorem read_entry_name (looks : cursor.LooksAt ⟨offset, name.toList ++ rest⟩) :
    entry.read surroundings cursor =
      .ok (⟨.plain name offset, .plain name offset, false,
          ⟨offset, offset + byteLength name.toList⟩⟩,
        .at ⟨offset + byteLength name.toList, rest⟩ (offset + byteLength name.toList)
          cursor.openDefaults) := by
  rcases looks.eq_word plain ends.endsName with ⟨newLine, same⟩
  rw [same]
  simp [entry, ends]

include plain binds ends in
/-- An entry `a as b` is read as both names. -/
theorem read_entry_renamed (looks : cursor.LooksAt
      ⟨offset, name.toList ++ ' ' :: ("as".toList ++ ' ' :: (binder.toList ++ rest))⟩) :
    entry.read surroundings cursor =
      .ok (⟨.plain name offset, .plain binder (offset + byteLength name.toList + 4), false,
          ⟨offset, offset + byteLength name.toList + 4 + byteLength binder.toList⟩⟩,
        .at ⟨offset + byteLength name.toList + 4 + byteLength binder.toList, rest⟩
          (offset + byteLength name.toList + 4 + byteLength binder.toList)
          cursor.openDefaults) := by
  have behind := ends.endsName
  rcases looks.eq_word plain (Lexer.endsName_blank _) with ⟨newLine, same⟩
  rw [same]
  cases typed : surroundings.dialect.typescript with
  | false =>
      simp [-String.reduceToList, entry, behind, isName_as, byteLength_as, binds, typed]
  | true =>
      by_cases named : name = "type"
      · -- What follows `as` tells that `type` is the first name here and no mark.
        subst named
        by_cases again : binder = "as"
        · subst again
          simp [-String.reduceToList, entry, ends, behind, isName_as, byteLength_as, typed]
        · simp [-String.reduceToList, entry, behind, isName_as, byteLength_as, binds, typed, again]
      · have unmarked : (name == "type") = false := by simpa using named
        simp [-String.reduceToList, entry, behind, isName_as, byteLength_as, binds, unmarked]

include plain ends in
/-- An entry `type a` is read as a type under this name. -/
theorem read_entry_type (typed : surroundings.dialect.typescript = true)
    (looks : cursor.LooksAt ⟨offset, "type".toList ++ ' ' :: (name.toList ++ rest)⟩) :
    entry.read surroundings cursor =
      .ok (⟨.plain name (offset + 5), .plain name (offset + 5), true,
          ⟨offset, offset + 5 + byteLength name.toList⟩⟩,
        .at ⟨offset + 5 + byteLength name.toList, rest⟩ (offset + 5 + byteLength name.toList)
          cursor.openDefaults) := by
  have behind := ends.endsName
  rcases looks.eq_word isName_type (Lexer.endsName_blank _) with ⟨newLine, same⟩
  rw [same]
  by_cases again : name = "as"
  · subst again
    simp [-String.reduceToList, entry, ends, behind, isName_as, byteLength_type, typed]
  · simp [-String.reduceToList, entry, ends, behind, plain, byteLength_type, typed, again]

include plain binds ends in
/-- An entry `type a as b` is read as a type under both names. -/
theorem read_entry_type_renamed (typed : surroundings.dialect.typescript = true)
    (looks : cursor.LooksAt ⟨offset, "type".toList ++ ' ' :: (name.toList ++
      ' ' :: ("as".toList ++ ' ' :: (binder.toList ++ rest)))⟩) :
    entry.read surroundings cursor =
      .ok (⟨.plain name (offset + 5), .plain binder (offset + 5 + byteLength name.toList + 4), true,
          ⟨offset, offset + 5 + byteLength name.toList + 4 + byteLength binder.toList⟩⟩,
        .at ⟨offset + 5 + byteLength name.toList + 4 + byteLength binder.toList, rest⟩
          (offset + 5 + byteLength name.toList + 4 + byteLength binder.toList)
          cursor.openDefaults) := by
  have behind := ends.endsName
  rcases looks.eq_word isName_type (Lexer.endsName_blank _) with ⟨newLine, same⟩
  rw [same]
  by_cases again : name = "as"
  · subst again
    simp [-String.reduceToList, entry, behind, isName_as, binds, byteLength_type, byteLength_as,
      typed]
  · simp [-String.reduceToList, entry, behind, plain, isName_as, binds, byteLength_type,
      byteLength_as, typed, again]

end

/-- An entry whose second name may be bound is an entry of an import. -/
theorem read_importSpecifier {found : Entry} {after : Cursor}
    (read : entry.read surroundings cursor = .ok (found, after))
    (binds : isImportBinder found.second = true) :
    importSpecifier.read surroundings cursor =
      .ok (.named ⟨found.first, ⟨found.second.name, found.second.span⟩, found.typeOnly,
        found.span⟩, after) := by
  simp [importSpecifier, read, failIf, binds]

end Grammar
end IconSize.Syntax
