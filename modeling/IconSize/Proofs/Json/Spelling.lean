import Mathlib.Data.List.TakeDrop
import IconSize.Json.Reader
import IconSize.Json.Writer

/-!
Strings and numbers of JSON as they are written. A text in quotes is read as that text, whatever
stands after the closing quote, and a number is read to its end where what follows cannot belong
to it.
-/

namespace IconSize.Json
open Text

/-! ## Strings -/

/-- The marks of the short escapes, with the code points that they stand for. -/
def shortEscapes : List (Char × Nat) :=
  [('"', 0x22), ('\\', 0x5C), ('b', 0x08), ('f', 0x0C), ('n', 0x0A), ('r', 0x0D), ('t', 0x09)]

theorem readString_short {mark : Char} {code : Nat} (isShort : (mark, code) ∈ shortEscapes)
    (rest : List Char) :
    readString ('\\' :: mark :: rest) =
      (readString rest).map fun read => (code :: read.1, read.2) := by
  simp only [shortEscapes, List.mem_cons, Prod.mk.injEq, List.not_mem_nil, or_false] at isShort
  rcases isShort with ⟨rfl, rfl⟩ | ⟨rfl, rfl⟩ | ⟨rfl, rfl⟩ | ⟨rfl, rfl⟩ | ⟨rfl, rfl⟩ | ⟨rfl, rfl⟩ |
    ⟨rfl, rfl⟩
  all_goals
    rw [readString]
    cases readString rest <;> rfl

theorem hexDigit?_digitChar :
    ∀ digit : Fin 16, hexDigit? (Nat.digitChar digit) = some digit.val := by
  decide

theorem hexValue?_hexDigits {code : Nat} (bound : code < 0x10000) :
    hexValue? 0 (hexDigits code) = some code := by
  have digit (number : Nat) : hexDigit? (Nat.digitChar (number % 16)) = some (number % 16) :=
    hexDigit?_digitChar ⟨number % 16, Nat.mod_lt number (by decide)⟩
  simp only [hexDigits, List.map_cons, List.map_nil, hexValue?, digit, Option.bind_eq_bind,
    Option.bind_some]
  congr 1
  omega

theorem readString_unit {code : Nat} (bound : code < 0x10000) (rest : List Char) :
    readString ('\\' :: 'u' :: (hexDigits code ++ rest)) =
      (readString rest).map fun read => (code :: read.1, read.2) := by
  have value := hexValue?_hexDigits bound
  simp only [hexDigits, List.map_cons, List.map_nil, List.cons_append, List.nil_append] at value ⊢
  rw [readString, value]
  cases readString rest <;> rfl

theorem readString_plain {character : Char} (noQuote : character ≠ '"')
    (noEscape : character ≠ '\\') (noControl : ¬ character.toNat < 0x20) (rest : List Char) :
    readString (character :: rest) =
      (readString rest).map fun read => (character.toNat :: read.1, read.2) := by
  rw [readString.eq_def]
  split
  case h_1 none => cases none
  case h_2 found => exact absurd (List.cons.inj found).1 noQuote
  case h_3 found => exact absurd (List.cons.inj found).1 noEscape
  case h_4 found => exact absurd (List.cons.inj found).1 noEscape
  case h_5 found =>
    rcases List.cons.inj found with ⟨rfl, rfl⟩
    rw [if_neg (by simp [noControl, noEscape])]
    cases readString rest <;> rfl

/-- A character as it is written is read as its code point. -/
theorem readString_escapeChar (character : Char) (rest : List Char) :
    readString (escapeChar character ++ rest) =
      (readString rest).map fun read => (character.toNat :: read.1, read.2) := by
  unfold escapeChar
  split
  case h_8 =>
    split
    case isTrue control => exact readString_unit (by omega) rest
    case isFalse noControl => exact readString_plain ‹_› ‹_› noControl rest
  all_goals exact readString_short (by decide) rest

theorem readString_escaped (chars rest : List Char) :
    readString (chars.flatMap escapeChar ++ '"' :: rest) = some (chars.map Char.toNat, rest) := by
  induction chars with
  | nil => rfl
  | cons character chars induction =>
      rw [List.flatMap_cons, List.append_assoc, readString_escapeChar, induction]
      rfl

/-- No character is half of a surrogate pair. -/
theorem not_isSurrogate_toNat (character : Char) :
    isHighSurrogate character.toNat = false ∧ isLowSurrogate character.toNat = false := by
  have valid : character.toNat < 0xD800 ∨ 0xDFFF < character.toNat ∧ character.toNat < 0x110000 :=
    character.valid
  constructor
  · rw [isHighSurrogate, Bool.and_eq_false_iff, decide_eq_false_iff_not, decide_eq_false_iff_not]
    omega
  · rw [isLowSurrogate, Bool.and_eq_false_iff, decide_eq_false_iff_not, decide_eq_false_iff_not]
    omega

theorem joinSurrogates_of_not_high {codes : List Nat}
    (none : ∀ code ∈ codes, isHighSurrogate code = false) : joinSurrogates codes = codes := by
  fun_induction joinSurrogates codes with
  | case1 => rfl
  | case2 => rfl
  | case3 high low rest pair => simp [none] at pair
  | case4 high low rest _ induction =>
      rw [induction fun code member => none code (List.mem_cons_of_mem high member)]

/-- The code points of characters are read as the text of these characters. -/
theorem textOf?_toNat (chars : List Char) :
    textOf? (chars.map Char.toNat) = some (String.ofList chars) := by
  have joined : joinSurrogates (chars.map Char.toNat) = chars.map Char.toNat :=
    joinSurrogates_of_not_high fun code member => by
      rcases List.mem_map.mp member with ⟨character, -, rfl⟩
      exact (not_isSurrogate_toNat character).1
  have whole : ((chars.map Char.toNat).any fun code =>
      isHighSurrogate code || isLowSurrogate code) = false := by
    simp [not_isSurrogate_toNat]
  have back : (chars.map Char.toNat).map Char.ofNat = chars := by
    simp [Function.comp_def, Char.ofNat_toNat]
  simp only [textOf?, joined, whole, back]
  rfl

/-! ## Numbers -/

/-- Digits, at least one. -/
structure IsDigits (chars : List Char) : Prop where
  nonempty : chars ≠ []
  digits : ∀ character ∈ chars, character.isDigit = true

/-- The parts of a number. -/
structure IsNumber (sign whole fraction exponent : List Char) : Prop where
  sign : sign = [] ∨ sign = ['-']
  /-- No other digit follows a leading zero. -/
  whole : whole = ['0'] ∨ IsDigits whole ∧ whole.head? ≠ some '0'
  fraction : fraction = [] ∨ ∃ digits, IsDigits digits ∧ fraction = '.' :: digits
  exponent : exponent = [] ∨ ∃ mark sign digits, (mark = 'e' ∨ mark = 'E') ∧
    (sign = [] ∨ sign = ['+'] ∨ sign = ['-']) ∧ IsDigits digits ∧ exponent = mark :: sign ++ digits

/-- The text does not begin with a character that a number before it could go on with. -/
def EndsNumber (rest : List Char) : Prop :=
  ∀ character ∈ rest.head?, character.isDigit = false ∧ character ∉ ['.', 'e', 'E']

variable {digits sign whole fraction exponent rest : List Char}

theorem readDigits?_append (isDigits : IsDigits digits)
    (ends : ∀ character ∈ rest.head?, character.isDigit = false) :
    readDigits? (digits ++ rest) = some (digits, rest) := by
  have stop : rest.takeWhile Char.isDigit = [] ∧ rest.dropWhile Char.isDigit = rest := by
    cases rest with
    | nil => exact ⟨rfl, rfl⟩
    | cons first others => simp [ends first rfl]
  have spanned : (digits ++ rest).span Char.isDigit = (digits, rest) := by
    rw [List.span_eq_takeWhile_dropWhile, List.takeWhile_append_of_pos isDigits.digits,
      List.dropWhile_append_of_pos isDigits.digits, stop.1, stop.2, List.append_nil]
  unfold readDigits?
  rw [spanned]
  split
  case h_1 found => exact absurd (Prod.mk.inj found).1 isDigits.nonempty
  case h_2 => rfl

theorem IsDigits.exists_cons (isDigits : IsDigits digits) :
    ∃ first others, digits = first :: others ∧ first.isDigit = true := by
  cases digits with
  | nil => exact absurd rfl isDigits.nonempty
  | cons first others => exact ⟨first, others, rfl, isDigits.digits first List.mem_cons_self⟩

theorem readSign_append (isSign : sign = [] ∨ sign = ['-']) (isDigits : IsDigits whole) :
    readSign (sign ++ (whole ++ rest)) = (sign, whole ++ rest) := by
  rcases isSign with rfl | rfl
  · rcases isDigits.exists_cons with ⟨first, others, rfl, isDigit⟩
    have noSign : first ≠ '-' := by rintro rfl; cases isDigit
    simp [readSign, noSign]
  · rfl

theorem readWhole?_append
    (isWhole : whole = ['0'] ∨ IsDigits whole ∧ whole.head? ≠ some '0')
    (ends : ∀ character ∈ rest.head?, character.isDigit = false) :
    readWhole? (whole ++ rest) = some (whole, rest) := by
  rcases isWhole with rfl | ⟨isDigits, noZero⟩
  · rfl
  · rw [← readDigits?_append isDigits ends]
    rcases isDigits.exists_cons with ⟨first, others, rfl, -⟩
    have : first ≠ '0' := by simpa using noZero
    simp [readWhole?, this]

theorem readFraction?_append
    (isFraction : fraction = [] ∨ ∃ digits, IsDigits digits ∧ fraction = '.' :: digits)
    (ends : ∀ character ∈ rest.head?, character.isDigit = false ∧ character ≠ '.') :
    readFraction? (fraction ++ rest) = some (fraction, rest) := by
  rcases isFraction with rfl | ⟨digits, isDigits, rfl⟩
  · cases rest with
    | nil => rfl
    | cons first others => simp [readFraction?, (ends first rfl).2]
  · have read := readDigits?_append isDigits fun character member => (ends character member).1
    simp [readFraction?, read]

theorem readExponentSign_append (isSign : sign = [] ∨ sign = ['+'] ∨ sign = ['-'])
    (isDigits : IsDigits digits) :
    readExponentSign (sign ++ (digits ++ rest)) = (sign, digits ++ rest) := by
  rcases isSign with rfl | rfl | rfl
  · rcases isDigits.exists_cons with ⟨first, others, rfl, isDigit⟩
    have noPlus : first ≠ '+' := by rintro rfl; cases isDigit
    have noMinus : first ≠ '-' := by rintro rfl; cases isDigit
    simp [readExponentSign, noPlus, noMinus]
  · rfl
  · rfl

theorem readExponent?_append
    (isExponent : exponent = [] ∨ ∃ mark sign digits, (mark = 'e' ∨ mark = 'E') ∧
      (sign = [] ∨ sign = ['+'] ∨ sign = ['-']) ∧ IsDigits digits ∧
        exponent = mark :: sign ++ digits)
    (ends : EndsNumber rest) : readExponent? (exponent ++ rest) = some (exponent, rest) := by
  rcases isExponent with rfl | ⟨mark, sign, digits, isMark, isSign, isDigits, rfl⟩
  · cases rest with
    | nil => rfl
    | cons first others =>
        have other := (ends first rfl).2
        simp only [List.mem_cons, List.not_mem_nil, or_false, not_or] at other
        simp [readExponent?, other]
  · have read := readDigits?_append isDigits fun character member => (ends character member).1
    have signed : readExponentSign (sign ++ (digits ++ rest)) = (sign, digits ++ rest) :=
      readExponentSign_append isSign isDigits
    simp [readExponent?, isMark, signed, read]

/-- The characters of a number. -/
def IsNumeral (chars : List Char) : Prop :=
  ∃ sign whole fraction exponent, IsNumber sign whole fraction exponent ∧
    chars = sign ++ (whole ++ (fraction ++ exponent))

/-- A number is read to its end. -/
theorem readNumber?_append {chars : List Char} (isNumeral : IsNumeral chars)
    (ends : EndsNumber rest) : readNumber? (chars ++ rest) = some (chars, rest) := by
  rcases isNumeral with ⟨sign, whole, fraction, exponent, parts, rfl⟩
  have afterFraction :
      ∀ character ∈ (exponent ++ rest).head?, character.isDigit = false ∧ character ≠ '.' := by
    rcases parts.exponent with rfl | ⟨mark, sign, digits, rfl | rfl, -, -, rfl⟩
    · exact fun character member => ⟨(ends character member).1, fun point =>
        (ends character member).2 (by simp [point])⟩
    · simp
    · simp
  have afterWhole :
      ∀ character ∈ (fraction ++ (exponent ++ rest)).head?, character.isDigit = false := by
    rcases parts.fraction with rfl | ⟨digits, -, rfl⟩
    · exact fun character member => (afterFraction character member).1
    · simp
  have isDigits : IsDigits whole := by
    rcases parts.whole with rfl | ⟨isDigits, -⟩
    · exact ⟨List.cons_ne_nil '0' [], by simp⟩
    · exact isDigits
  simp only [readNumber?, List.append_assoc, readSign_append parts.sign isDigits,
    readWhole?_append parts.whole afterWhole, readFraction?_append parts.fraction afterFraction,
    readExponent?_append parts.exponent ends, Option.bind_eq_bind, Option.bind_some]
  rfl

/-- The decimal digits of a number have no leading zero. -/
theorem head?_toDigits_ne_zero {number : Nat} (positive : 0 < number) :
    (Nat.toDigits 10 number).head? ≠ some '0' := by
  induction number using Nat.strongRecOn with
  | ind number induction =>
      rw [Nat.toDigits_eq_if (by decide)]
      split
      case isTrue small => simpa using Nat.ne_of_gt positive
      case isFalse large =>
        have quotient := induction (number / 10) (by omega) (by omega)
        rcases List.exists_cons_of_ne_nil (@Nat.toDigits_ne_nil (number / 10) 10) with
          ⟨first, others, spelled⟩
        rw [spelled] at quotient ⊢
        exact quotient

theorem isNumeral_toString (number : Nat) : IsNumeral (toString number).toList := by
  refine ⟨[], Nat.toDigits 10 number, [], [], ?_, by simp⟩
  have isDigits : IsDigits (Nat.toDigits 10 number) :=
    ⟨Nat.toDigits_ne_nil, fun _ member =>
      Nat.isDigit_of_mem_toDigits (by decide) (by decide) member⟩
  refine ⟨.inl rfl, ?_, .inl rfl, .inl rfl⟩
  cases number with
  | zero => exact .inl rfl
  | succ number => exact .inr ⟨isDigits, head?_toDigits_ne_zero (Nat.succ_pos number)⟩

end IconSize.Json
