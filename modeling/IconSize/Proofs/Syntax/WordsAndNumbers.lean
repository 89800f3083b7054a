import IconSize.Syntax.Reader
import Mathlib.Data.List.TakeDrop

/-!
Names and numbers as tokens. Where a plain name or a row of digits lies ahead, the next token is
made of just these characters, provided that what follows them ends it.
-/

namespace IconSize.Syntax.Lexer
open Text

/-! ## Names -/

section

variable {character : Char} (part : isIdentifierPart character = true)
include part

theorem ne_of_part {other : Char} (no : isIdentifierPart other = false) : character ≠ other := by
  rintro rfl
  exact Bool.noConfusion (no.symm.trans part)

theorem not_isLineEnd_of_part : Escape.isLineEnd character = false := by
  have different {other : Char} (no : isIdentifierPart other = false) : character ≠ other :=
    ne_of_part part no
  simp only [Escape.isLineEnd, Bool.or_eq_false_iff, beq_eq_false_iff_ne]
  exact ⟨⟨⟨different (by decide), different (by decide)⟩, different (by decide +kernel)⟩,
    different (by decide +kernel)⟩

theorem not_isBlank_of_part : isBlank character = false := by
  have different {other : Char} (no : isIdentifierPart other = false) : character ≠ other :=
    ne_of_part part no
  -- The spaces of fixed width are the only range among the blanks.
  have outside : ∀ range ∈ identifierStarts.ranges ++ identifierParts.ranges,
      range.2 < 0x2000 ∨ 0x200A < range.1 := by
    decide +kernel
  have notSpace : ('\u2000' ≤ character && character ≤ '\u200a') = false := by
    rw [Bool.eq_false_iff]
    intro inside
    simp only [Bool.and_eq_true, decide_eq_true_eq, Char.le_def,
      UInt32.le_iff_toNat_le] at inside
    have low : 0x2000 ≤ character.toNat := inside.1
    have high : character.toNat ≤ 0x200A := inside.2
    rw [isIdentifierPart, if_neg (by omega), Bool.or_eq_true, CodePoints.contains_iff,
      CodePoints.contains_iff] at part
    obtain ⟨range, member, above, below⟩ :
        ∃ range ∈ identifierStarts.ranges ++ identifierParts.ranges,
          range.1 ≤ character.toNat ∧ character.toNat ≤ range.2 := by
      rcases part with ⟨range, member, inside⟩ | ⟨range, member, inside⟩
      · exact ⟨range, List.mem_append_left _ member, inside⟩
      · exact ⟨range, List.mem_append_right _ member, inside⟩
    have := outside range member
    omega
  simp only [isBlank, Bool.or_eq_false_iff, beq_eq_false_iff_ne]
  refine ⟨⟨⟨⟨⟨⟨⟨⟨⟨⟨?_, ?_⟩, ?_⟩, ?_⟩, ?_⟩, ?_⟩, ?_⟩, notSpace⟩, ?_⟩, ?_⟩, ?_⟩ <;>
    exact different (by decide +kernel)

/-- No gap lies before what may go on a name. -/
theorem skipGap_of_part (newLine : Bool) (offset : Nat) (rest : List Char) :
    skipGap .between newLine offset (character :: rest) =
      some (newLine, ⟨offset, character :: rest⟩) := by
  rw [skipGap]
  · simp only [not_isLineEnd_of_part part, not_isBlank_of_part part, Bool.false_eq_true, if_false]
  · exact fun _ slash => absurd slash (ne_of_part part (by decide))
  · exact fun _ slash => absurd slash (ne_of_part part (by decide))

/-- A blank before a name or a number is passed over. -/
theorem next_blank (offset : Nat) (rest : List Char) :
    Lexer.next ⟨offset, ' ' :: character :: rest⟩ =
      Lexer.next ⟨offset + 1, character :: rest⟩ := by
  have gap : skipGap .between false offset (' ' :: character :: rest) =
      skipGap .between false (offset + 1) (character :: rest) := by
    rfl
  rw [Lexer.next, Lexer.next, gap, skipGap_of_part part]

end

section

variable {character : Char} (start : isIdentifierStart character = true)
include start

theorem ne_of_start {other : Char} (no : isIdentifierStart other = false) : character ≠ other := by
  rintro rfl
  exact Bool.noConfusion (no.symm.trans start)

theorem not_isDigit_of_start : character.isDigit = false := by
  rw [Bool.eq_false_iff]
  intro digit
  simp only [Char.isDigit, Bool.and_eq_true, decide_eq_true_eq, ge_iff_le,
    UInt32.le_iff_toNat_le] at digit
  have low : 48 ≤ character.toNat := digit.1
  have high : character.toNat ≤ 57 := digit.2
  have dollar : character ≠ '$' := by
    rintro rfl
    exact absurd low (by decide)
  have underscore : character ≠ '_' := by
    rintro rfl
    exact absurd high (by decide)
  rw [isIdentifierStart, if_pos (by omega)] at start
  delta Char.isAlpha Char.isUpper Char.isLower at start
  simp only [dollar, underscore, Bool.or_eq_true, Bool.and_eq_true, decide_eq_true_eq, beq_iff_eq,
    or_false, ge_iff_le, UInt32.le_iff_toNat_le] at start
  rcases start with ⟨above, _⟩ | ⟨above, _⟩
  · have : 65 ≤ character.toNat := above
    omega
  · have : 97 ≤ character.toNat := above
    omega

theorem isIdentifierPart_of_start : isIdentifierPart character = true := by
  unfold isIdentifierStart at start
  unfold isIdentifierPart
  split
  · rename_i ascii
    simp only [ascii, if_true, Bool.or_eq_true] at start
    rcases start with (letter | dollar) | underscore
    · simp [Char.isAlphanum, letter]
    · simp [dollar]
    · simp [underscore]
  · rename_i other
    simp only [other, if_false] at start
    rw [start, Bool.true_or]

end

section

variable {name : List Char} (parts : ∀ character ∈ name, isIdentifierPart character = true)
include parts

theorem spanWord_append {next : Char} (ends : isIdentifierPart next = false) (plain : next ≠ '\\')
    (rest : List Char) : spanWord false (name ++ next :: rest) = (name, next :: rest) := by
  induction name with
  | nil =>
      rw [List.nil_append, spanWord]
      · simp [ends, plain]
      · rintro _ rfl
        exact absurd rfl plain
  | cons character name induction =>
      have part := parts character List.mem_cons_self
      have spanned := induction fun other member => parts other (List.mem_cons_of_mem _ member)
      rw [List.cons_append, spanWord, spanned]
      · simp [part]
      · rintro _ rfl
        exact absurd part (by decide)

theorem nameLetters?_of_parts : Escape.nameLetters? name.length name = some name := by
  induction name with
  | nil => rfl
  | cons character name induction =>
      have part := parts character List.mem_cons_self
      have letters := induction fun other member => parts other (List.mem_cons_of_mem _ member)
      have plain : character ≠ '\\' := by
        rintro rfl
        exact absurd part (by decide)
      rw [List.length_cons, Escape.nameLetters?, letters]
      · simp [plain]
      · rintro _ rfl
        exact absurd rfl plain

end

theorem isIdentifierPart_of_isName {name : List Char} (plain : isName name = true) :
    ∀ character ∈ name, isIdentifierPart character = true := by
  cases name with
  | nil => cases plain
  | cons first letters =>
      simp only [isName, Bool.and_eq_true, List.all_eq_true] at plain
      exact List.forall_mem_cons.mpr ⟨isIdentifierPart_of_start plain.1, plain.2⟩

theorem exists_start_of_isName {name : List Char} (plain : isName name = true) :
    ∃ first letters, name = first :: letters ∧ isIdentifierStart first = true := by
  cases name with
  | nil => cases plain
  | cons first letters =>
      simp only [isName, Bool.and_eq_true] at plain
      exact ⟨first, letters, rfl, plain.1⟩

theorem word_of_isName {name : List Char} (plain : isName name = true) {next : Char}
    (ends : isIdentifierPart next = false) (noEscape : next ≠ '\\') (newLine : Bool)
    (offset : Nat) (rest : List Char) : word newLine ⟨offset, name ++ next :: rest⟩ =
      Step.of .word (String.ofList name) newLine ⟨offset, name ++ next :: rest⟩ name.length := by
  have parts := isIdentifierPart_of_isName plain
  have unescaped : name.contains '\\' = false := by
    rw [List.contains_eq_mem, decide_eq_false_iff_not]
    intro member
    exact absurd (parts _ member) (by decide)
  simp only [word, spanWord_append parts ends noEscape, nameLetters?_of_parts parts, plain,
    unescaped, if_true]
  rfl

theorem tokenAt_of_start {first : Char} (start : isIdentifierStart first = true) (newLine : Bool)
    (offset : Nat) (rest : List Char) :
    tokenAt newLine ⟨offset, first :: rest⟩ = word newLine ⟨offset, first :: rest⟩ := by
  have different {other : Char} (no : isIdentifierStart other = false) : first ≠ other :=
    ne_of_start start no
  unfold tokenAt
  dsimp only
  split
  · rename_i empty
    cases empty
  all_goals
    rename_i opens
    obtain ⟨rfl, _⟩ := List.cons.inj opens
  · exact absurd rfl (different (by decide))
  · exact absurd rfl (different (by decide))
  · exact absurd rfl (different (by decide))
  · exact absurd rfl (different (by decide))
  · exact absurd rfl (different (by decide))
  · exact absurd rfl (different (by decide))
  · simp only [not_isDigit_of_start start, start, Bool.true_or, Bool.false_eq_true, if_false,
      if_true]

/-- A name that lies ahead is the next token. -/
theorem next_of_isName {name : List Char} (plain : isName name = true) (next : Char)
    (ends : isIdentifierPart next = false) (noEscape : next ≠ '\\') (offset : Nat)
    (rest : List Char) : Lexer.next ⟨offset, name ++ next :: rest⟩ =
      Step.of .word (String.ofList name) false ⟨offset, name ++ next :: rest⟩ name.length := by
  rw [← word_of_isName plain ends noEscape]
  rcases exists_start_of_isName plain with ⟨first, letters, rfl, start⟩
  rw [List.cons_append, ← tokenAt_of_start start, Lexer.next,
    skipGap_of_part (isIdentifierPart_of_start start)]

/-- An angle that lies ahead before a name is the next token. -/
theorem next_angle {first : Char} (start : isIdentifierStart first = true) (offset : Nat)
    (rest : List Char) : Lexer.next ⟨offset, ' ' :: '<' :: first :: rest⟩ =
      Step.of .punctuator "<" false ⟨offset + 1, '<' :: first :: rest⟩ 1 := by
  have angle : '<' ≠ first := (ne_of_start start (by decide)).symm
  have equals : '=' ≠ first := (ne_of_start start (by decide)).symm
  have found : firstOf punctuators ('<' :: first :: rest) = some "<" := by
    simp [firstOf, punctuators, openBrace, closeBrace, List.isPrefixOf, angle, equals]
  have gap : skipGap .between false offset (' ' :: '<' :: first :: rest) =
      some (false, ⟨offset + 1, '<' :: first :: rest⟩) := by
    rfl
  have token : tokenAt false ⟨offset + 1, '<' :: first :: rest⟩ =
      punctuator punctuators false ⟨offset + 1, '<' :: first :: rest⟩ := by
    rfl
  simp only [Lexer.next, gap, token, punctuator, found]
  rfl

/-! ## Lines that begin with an indentation -/

theorem skipGap_indentation {indent : List Char}
    (all : ∀ letter ∈ indent, isIndentation letter = true) (newLine : Bool) (offset : Nat)
    (rest : List Char) :
    skipGap .between newLine offset (indent ++ rest) =
      skipGap .between newLine (offset + byteLength indent) rest := by
  induction indent generalizing offset with
  | nil => simp
  | cons letter indent induction =>
      have others := induction (fun other member => all other (List.mem_cons_of_mem _ member))
        (offset + letter.utf8Size)
      have first := all letter List.mem_cons_self
      simp only [isIndentation, Bool.or_eq_true, beq_iff_eq] at first
      rw [byteLength_cons, ← Nat.add_assoc, ← others]
      rcases first with rfl | rfl
      · rfl
      · rfl

/-- After the end of a line and an indentation the next token is on a new line. -/
theorem next_line {indent : List Char} (all : ∀ letter ∈ indent, isIndentation letter = true)
    (offset : Nat) {rest : List Char}
    (noGap : ∀ offset, skipGap .between true offset rest = some (true, ⟨offset, rest⟩)) :
    Lexer.next ⟨offset, '\n' :: (indent ++ rest)⟩ =
      tokenAt true ⟨offset + 1 + byteLength indent, rest⟩ := by
  have ended : skipGap .between false offset ('\n' :: (indent ++ rest)) =
      skipGap .between true (offset + 1) (indent ++ rest) := by
    rfl
  rw [Lexer.next, ended, skipGap_indentation all, noGap]

/-! ## Digits before a closing brace or a comma -/

section

variable {digit : Char} (isDigit : digit.isDigit = true)
include isDigit

theorem ne_of_isDigit {other : Char} (no : other.isDigit = false) : digit ≠ other := by
  rintro rfl
  exact Bool.noConfusion (no.symm.trans isDigit)

theorem isIdentifierPart_of_isDigit : isIdentifierPart digit = true := by
  have bounds : 48 ≤ digit.toNat ∧ digit.toNat ≤ 57 := by
    simpa [Char.isDigit, UInt32.le_iff_toNat_le] using isDigit
  rw [isIdentifierPart, if_pos (by omega), Char.isAlphanum, isDigit]
  simp

end

theorem span_digits {allowed : Char → Bool} {digits : List Char}
    (all : ∀ digit ∈ digits, allowed digit = true) {next : Char} (ends : allowed next = false)
    (rest : List Char) : (digits ++ next :: rest).span allowed = (digits, next :: rest) := by
  rw [List.span_eq_takeWhile_dropWhile, List.takeWhile_append_of_pos all,
    List.dropWhile_append_of_pos all]
  simp [ends]

section

variable {digits : List Char} (some : digits ≠ [])
  (all : ∀ digit ∈ digits, digit.isDigit = true)
include some all

theorem isSeparated_digits : isSeparated digits = true := by
  have none : '_' ∉ digits := fun member => absurd (all _ member) (by decide)
  cases digits with
  | nil => cases some rfl
  | cons first digits =>
      have head : first ≠ '_' := fun same => none (same ▸ List.mem_cons_self)
      have last : (first :: digits).getLast? ≠ Option.some '_' := fun found =>
        none (List.mem_of_getLast? found)
      have pairs : ∀ pair ∈ (first :: digits).zip digits, pair.1 ≠ '_' ∨ pair.2 ≠ '_' :=
        fun pair member => .inl fun same => none (same ▸ (List.of_mem_zip member).1)
      simpa [isSeparated, head, last] using pairs

theorem number?_digits {next : Char} (ends : next ∈ ['}', ',']) (rest : List Char) :
    number? (digits ++ next :: rest) = Option.some (.number, digits, next :: rest) := by
  have separated := isSeparated_digits some all
  simp only [List.mem_cons, List.not_mem_nil, or_false] at ends
  have notDigit : next.isDigit = false := by
    rcases ends with rfl | rfl <;> decide
  have noGroup : (next.isDigit || next == '_') = false := by
    rcases ends with rfl | rfl <;> decide
  have decimal (whole : List Char) :
      number?.decimal whole (next :: rest) = Option.some (.number, whole, next :: rest) := by
    rcases ends with rfl | rfl <;> rfl
  cases digits with
  | nil => cases some rfl
  | cons first digits =>
      have digit := all first List.mem_cons_self
      have others : ∀ digit ∈ digits, digit.isDigit = true :=
        fun digit member => all digit (List.mem_cons_of_mem _ member)
      by_cases zero : first = '0'
      · -- A zero may be the mark of a radix; a digit or the brace after it is none.
        subst zero
        cases digits with
        | nil => rcases ends with rfl | rfl <;> rfl
        | cons second digits =>
            have digit := others second List.mem_cons_self
            have spanned := span_digits others notDigit rest
            rw [List.cons_append] at spanned
            simp only [List.cons_append, number?, spanned, decimal, digit]
            simp [ne_of_isDigit digit]
      · have spanned : spanDigits Char.isDigit (first :: digits ++ next :: rest) =
            (first :: digits, next :: rest) := by
          refine span_digits (fun digit member => ?_) noGroup rest
          rw [all digit member, Bool.true_or]
        rw [List.cons_append] at spanned ⊢
        rw [number?, spanned]
        · rcases ends with rfl | rfl <;> simp [separated, decimal]
        · simp [zero]
        · simp [ne_of_isDigit digit]

/-- Digits that lie ahead before a closing brace or a comma are the next token. -/
theorem next_digits {next : Char} (ends : next ∈ ['}', ',']) (offset : Nat) (rest : List Char) :
    Lexer.next ⟨offset, digits ++ next :: rest⟩ =
      Step.of .number (String.ofList digits) false ⟨offset, digits ++ next :: rest⟩
        digits.length := by
  have read := number?_digits some all ends rest
  have follows : (next :: rest).head?.all mayFollowNumber = true := by
    simp only [List.head?_cons, Option.all_some]
    simp only [List.mem_cons, List.not_mem_nil, or_false] at ends
    rcases ends with rfl | rfl <;> decide
  cases digits with
  | nil => cases some rfl
  | cons first digits =>
      have digit := all first List.mem_cons_self
      have gap : skipGap .between false offset (first :: digits ++ next :: rest) =
          Option.some (false, ⟨offset, first :: digits ++ next :: rest⟩) := by
        rw [List.cons_append, skipGap_of_part (isIdentifierPart_of_isDigit digit)]
      have token : tokenAt false ⟨offset, first :: digits ++ next :: rest⟩ =
          number false ⟨offset, first :: digits ++ next :: rest⟩ := by
        unfold tokenAt
        dsimp only [List.cons_append]
        split
        · rename_i empty
          cases empty
        all_goals
          rename_i opens
          obtain ⟨rfl, _⟩ := List.cons.inj opens
        · exact absurd digit (by decide)
        · exact absurd digit (by decide)
        · exact absurd digit (by decide)
        · exact absurd digit (by decide)
        · exact absurd digit (by decide)
        · exact absurd digit (by decide)
        · rw [if_pos digit]
      simp only [Lexer.next, gap, token, number, read, follows, if_true]

end

end IconSize.Syntax.Lexer
