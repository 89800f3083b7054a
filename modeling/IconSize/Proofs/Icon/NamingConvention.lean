import IconSize.Icon.Name

/-!
Which names follow the naming convention. The pattern divides a text in at most one way, because its
second group takes two characters and the first all before them; what it does not divide has no size
suffix. A divided name has an icon name and a size unless a digit is no ASCII one:
`decompose_accepts_convention`.
-/

namespace IconSize
namespace Text

/-! ## Digits and the numbers that they spell -/

variable {tens units : Char}

theorem asciiDigit?_of_isDigit (isDigit : tens.isDigit = true) :
    asciiDigit? tens = some (tens.toNat - '0'.toNat) := if_pos isDigit

theorem asciiDigit?_of_not_isDigit (isDigit : tens.isDigit = false) : asciiDigit? tens = none :=
  if_neg (by simp [isDigit])

theorem toNat_of_isDigit (isDigit : tens.isDigit = true) : 48 ≤ tens.toNat ∧ tens.toNat ≤ 57 := by
  simp only [Char.isDigit, Bool.and_eq_true, decide_eq_true_eq, ge_iff_le] at isDigit
  exact isDigit

/-- The ASCII digits are the first range of the digits of all scripts. -/
theorem isDecimalDigit_of_isDigit (isDigit : tens.isDigit = true) :
    isDecimalDigit tens = true :=
  (decimalDigits.contains_iff tens).mpr
    ⟨(0x30, 0x39), List.mem_cons_self, toNat_of_isDigit isDigit⟩

/-- A decimal digit is no sign. -/
theorem readNumeral_cons (tensDigit : isDecimalDigit tens = true) (rest : List Char) :
    readNumeral (tens :: rest) = readDigits 0 (tens :: rest) := by
  have notSign : tens ≠ '+' := by
    rintro rfl
    exact absurd tensDigit (by decide +kernel)
  unfold readNumeral
  split
  case h_1 none => cases none
  case h_2 found => exact absurd (List.cons.inj found).1 notSign
  case h_3 => rfl

theorem readDigits_cons_of_isDigit {value : Nat} (isDigit : tens.isDigit = true)
    (fits : value ≤ 9) (rest : List Char) :
    readDigits value (tens :: rest) =
      readDigits (10 * value + (tens.toNat - '0'.toNat)) rest := by
  have bound := toNat_of_isDigit isDigit
  have zero : '0'.toNat = 48 := rfl
  have size : UInt32.size = 4294967296 := rfl
  simp only [readDigits, asciiDigit?_of_isDigit isDigit]
  exact if_pos (by omega)

theorem readDigits_cons_of_not_isDigit (isDigit : tens.isDigit = false) (value : Nat)
    (rest : List Char) : readDigits value (tens :: rest) = .error .invalidDigit := by
  simp only [readDigits, asciiDigit?_of_not_isDigit isDigit]

/-- Two ASCII digits spell a number below one hundred. -/
theorem readNumeral_of_isDigit (tensDigit : tens.isDigit = true)
    (unitsDigit : units.isDigit = true) :
    readNumeral [tens, units] =
      .ok (10 * (tens.toNat - '0'.toNat) + (units.toNat - '0'.toNat)) := by
  have tensBound := toNat_of_isDigit tensDigit
  have zero : '0'.toNat = 48 := rfl
  rw [readNumeral_cons (isDecimalDigit_of_isDigit tensDigit),
    readDigits_cons_of_isDigit tensDigit (Nat.zero_le 9),
    readDigits_cons_of_isDigit unitsDigit (by omega)]
  simp [readDigits]

/-- Two digits of which one is no ASCII digit spell no number. -/
theorem readNumeral_of_not_isDigit (tensDecimal : isDecimalDigit tens = true)
    (foreign : ¬ (tens.isDigit = true ∧ units.isDigit = true)) :
    readNumeral [tens, units] = .error .invalidDigit := by
  rw [readNumeral_cons tensDecimal]
  cases tensDigit : tens.isDigit with
  | false => exact readDigits_cons_of_not_isDigit tensDigit 0 [units]
  | true =>
      have unitsDigit : units.isDigit = false := by simpa [tensDigit] using foreign
      rw [readDigits_cons_of_isDigit tensDigit (Nat.zero_le 9),
        readDigits_cons_of_not_isDigit unitsDigit]

end Text

namespace IconName
open Text

/-! ## The groups of the pattern -/

/-- The text is a name, which is not empty and holds no line feed, and two digits of any script. -/
structure IsSuffixed (chars name : List Char) (tens units : Char) : Prop where
  spelled : chars = name ++ [tens, units]
  nonempty : name ≠ []
  oneLine : '\n' ∉ name
  tens : isDecimalDigit tens = true
  units : isDecimalDigit units = true

variable {chars name digits : List Char} {tens units : Char}

theorem endDigits?_eq_some_iff :
    endDigits? chars = some digits ↔
      ∃ tens units, digits = [tens, units] ∧ chars = [tens, units] ∧
        isDecimalDigit tens = true ∧ isDecimalDigit units = true := by
  fun_cases endDigits? chars <;> grind

theorem not_isSuffixed_nil : ¬ IsSuffixed [] name tens units := by
  intro suffixed
  simpa using suffixed.spelled

/-- A text of a first character and others is divided after that character if the others are two
digits, and where the others are divided if they are. -/
theorem isSuffixed_cons_iff {character : Char} :
    IsSuffixed (character :: chars) name tens units ↔
      character ≠ '\n' ∧
        (name = [character] ∧ chars = [tens, units] ∧
            isDecimalDigit tens = true ∧ isDecimalDigit units = true ∨
          ∃ later, name = character :: later ∧ IsSuffixed chars later tens units) := by
  constructor
  · intro suffixed
    cases name with
    | nil => exact absurd rfl suffixed.nonempty
    | cons first later =>
        rcases List.cons.inj suffixed.spelled with ⟨rfl, spelled⟩
        have oneLine := suffixed.oneLine
        rw [List.mem_cons, not_or] at oneLine
        refine ⟨oneLine.1 ∘ Eq.symm, ?_⟩
        cases later with
        | nil => exact .inl ⟨rfl, spelled, suffixed.tens, suffixed.units⟩
        | cons second others =>
            exact .inr ⟨second :: others, rfl, spelled, List.cons_ne_nil second others, oneLine.2,
              suffixed.tens, suffixed.units⟩
  · rintro ⟨plain, ⟨rfl, rfl, tens, units⟩ | ⟨later, rfl, suffixed⟩⟩
    · exact ⟨rfl, List.cons_ne_nil character [], by simpa using plain.symm, tens, units⟩
    · exact ⟨by simp [suffixed.spelled], List.cons_ne_nil character later,
        by simpa using ⟨plain.symm, suffixed.oneLine⟩, suffixed.tens, suffixed.units⟩

/-- A text that is divided is longer than the two digits of its size. -/
theorem IsSuffixed.ne_digits (suffixed : IsSuffixed chars name tens units) (high low : Char) :
    chars ≠ [high, low] := by
  rintro rfl
  have lengths := congrArg List.length suffixed.spelled
  simp only [List.length_cons, List.length_nil, List.length_append] at lengths
  exact suffixed.nonempty (List.length_eq_zero_iff.mp (by omega))

/-- The greedy groups are a division, and there is no other one. -/
theorem groups?_eq_some_iff :
    groups? chars = some (name, digits) ↔
      ∃ tens units, digits = [tens, units] ∧ IsSuffixed chars name tens units := by
  induction chars generalizing name digits with
  | nil => simp [groups?, not_isSuffixed_nil]
  | cons character rest induction =>
      simp only [groups?, isSuffixed_cons_iff]
      by_cases lineFeed : character = '\n'
      · simp [lineFeed]
      cases found : groups? rest with
      | none =>
          -- the first group cannot go on, so only the second can take the rest
          have undivided : ∀ later tens units, ¬ IsSuffixed rest later tens units := by
            intro later tens units suffixed
            have divided := induction.mpr ⟨tens, units, rfl, suffixed⟩
            rw [found] at divided
            cases divided
          constructor
          · intro taken
            simp only [beq_iff_eq, lineFeed, if_false, Option.map_eq_some_iff] at taken
            rcases taken with ⟨last, ends, equal⟩
            cases equal
            rcases endDigits?_eq_some_iff.mp ends with ⟨tens, units, rfl, rfl, decimal⟩
            exact ⟨tens, units, rfl, lineFeed, .inl ⟨rfl, rfl, decimal⟩⟩
          · rintro ⟨tens, units, rfl, -, ⟨rfl, rfl, decimal⟩ | ⟨later, -, suffixed⟩⟩
            · have ends := endDigits?_eq_some_iff.mpr ⟨tens, units, rfl, rfl, decimal⟩
              simp [lineFeed, ends]
            · exact absurd suffixed (undivided later tens units)
      | some groups =>
          rcases groups with ⟨later, last⟩
          rcases induction.mp found with ⟨tens, units, rfl, suffixed⟩
          simp only [beq_iff_eq, lineFeed, if_false]
          constructor
          · intro equal
            cases equal
            exact ⟨tens, units, rfl, lineFeed, .inr ⟨later, rfl, suffixed⟩⟩
          · rintro ⟨high, low, rfl, -, ⟨-, short, -⟩ | ⟨other, rfl, also⟩⟩
            · exact absurd short (suffixed.ne_digits high low)
            · have divided := induction.mpr ⟨high, low, rfl, also⟩
              rw [found] at divided
              cases divided
              rfl

/-! ## Divided names -/

variable {imported : String} {icon : IconName}

theorem decompose_of_ascii (suffixed : IsSuffixed imported.toList name tens units)
    (ascii : tens.isDigit ∧ units.isDigit) :
    decompose imported = .ok ⟨String.ofList name,
      10 * (tens.toNat - '0'.toNat) + (units.toNat - '0'.toNat)⟩ := by
  have divided := groups?_eq_some_iff.mpr ⟨tens, units, rfl, suffixed⟩
  have nonempty : name.isEmpty = false := List.isEmpty_eq_false_iff.mpr suffixed.nonempty
  simp only [decompose, divided, nonempty, readNumeral_of_isDigit ascii.1 ascii.2]
  rfl

theorem decompose_of_foreign (suffixed : IsSuffixed imported.toList name tens units)
    (foreign : ¬ (tens.isDigit ∧ units.isDigit)) :
    decompose imported = .error (.unreadableSize .invalidDigit) := by
  have divided := groups?_eq_some_iff.mpr ⟨tens, units, rfl, suffixed⟩
  have nonempty : name.isEmpty = false := List.isEmpty_eq_false_iff.mpr suffixed.nonempty
  simp only [decompose, divided, nonempty, readNumeral_of_not_isDigit suffixed.tens foreign]
  rfl

theorem decompose_of_undivided
    (undivided : ∀ name tens units, ¬ IsSuffixed imported.toList name tens units) :
    decompose imported = .error .missingSuffix := by
  have ungrouped : groups? imported.toList = none := by
    refine Option.eq_none_iff_forall_not_mem.mpr fun groups member => ?_
    rcases groups?_eq_some_iff.mp member with ⟨tens, units, -, suffixed⟩
    exact undivided groups.1 tens units suffixed
  simp only [decompose, ungrouped]

/-- The three ways in which dividing a name can end. -/
theorem decompose_cases (imported : String) :
    (∃ name tens units, IsSuffixed imported.toList name tens units ∧
        (tens.isDigit ∧ units.isDigit) ∧
        decompose imported = .ok ⟨String.ofList name,
          10 * (tens.toNat - '0'.toNat) + (units.toNat - '0'.toNat)⟩) ∨
      (∃ name tens units, IsSuffixed imported.toList name tens units ∧
        ¬ (tens.isDigit ∧ units.isDigit) ∧
        decompose imported = .error (.unreadableSize .invalidDigit)) ∨
      ((∀ name tens units, ¬ IsSuffixed imported.toList name tens units) ∧
        decompose imported = .error .missingSuffix) := by
  by_cases divided : ∃ name tens units, IsSuffixed imported.toList name tens units
  · rcases divided with ⟨name, tens, units, suffixed⟩
    by_cases ascii : tens.isDigit = true ∧ units.isDigit = true
    · exact .inl ⟨name, tens, units, suffixed, ascii, decompose_of_ascii suffixed ascii⟩
    · exact .inr (.inl ⟨name, tens, units, suffixed, ascii, decompose_of_foreign suffixed ascii⟩)
  · simp only [not_exists] at divided
    exact .inr (.inr ⟨divided, decompose_of_undivided divided⟩)

/-- A name is divided if it ends in two ASCII digits, which spell its size. -/
theorem decompose_eq_ok_iff :
    decompose imported = .ok icon ↔
      ∃ tens units, IsSuffixed imported.toList icon.name.toList tens units ∧
        (tens.isDigit ∧ units.isDigit) ∧
        icon.size = 10 * (tens.toNat - '0'.toNat) + (units.toNat - '0'.toNat) := by
  constructor
  · intro divided
    rcases decompose_cases imported with
      ⟨name, tens, units, suffixed, ascii, outcome⟩ | ⟨_, _, _, _, _, outcome⟩ | ⟨_, outcome⟩
    · rw [outcome] at divided
      cases divided
      exact ⟨tens, units, by rwa [String.toList_ofList], ascii, rfl⟩
    all_goals
      rw [outcome] at divided
      cases divided
  · rintro ⟨tens, units, suffixed, ascii, size⟩
    rw [decompose_of_ascii suffixed ascii, String.ofList_toList, ← size]

/-- A name is turned down for its digits if it ends in two of which one is no ASCII digit. -/
theorem decompose_eq_invalidDigit_iff :
    decompose imported = .error (.unreadableSize .invalidDigit) ↔
      ∃ name tens units, IsSuffixed imported.toList name tens units ∧
        ¬ (tens.isDigit ∧ units.isDigit) := by
  constructor
  · intro refused
    rcases decompose_cases imported with
      ⟨_, _, _, _, _, outcome⟩ | ⟨name, tens, units, suffixed, foreign, _⟩ | ⟨_, outcome⟩
    · rw [outcome] at refused
      cases refused
    · exact ⟨name, tens, units, suffixed, foreign⟩
    · rw [outcome] at refused
      cases refused
  · rintro ⟨name, tens, units, suffixed, foreign⟩
    exact decompose_of_foreign suffixed foreign

theorem decompose_eq_missingSuffix_iff :
    decompose imported = .error .missingSuffix ↔
      ∀ name tens units, ¬ IsSuffixed imported.toList name tens units := by
  constructor
  · intro refused
    rcases decompose_cases imported with
      ⟨_, _, _, _, _, outcome⟩ | ⟨_, _, _, _, _, outcome⟩ | ⟨undivided, _⟩
    · rw [outcome] at refused
      cases refused
    · rw [outcome] at refused
      cases refused
    · exact undivided
  · exact decompose_of_undivided

/-! ## Spelling a divided name again -/

/-- The name with its size in two digits, the first of which is zero where the size is below ten. -/
def spelling (icon : IconName) : String :=
  icon.name ++ String.ofList [Nat.digitChar (icon.size / 10), Nat.digitChar (icon.size % 10)]

theorem digitChar_of_isDigit {digit : Char} (isDigit : digit.isDigit = true) :
    Nat.digitChar (digit.toNat - '0'.toNat) = digit := by
  have bounds := toNat_of_isDigit isDigit
  have zero : '0'.toNat = 48 := rfl
  rw [← Char.toNat_inj, Nat.toNat_digitChar_of_lt_ten (by omega)]
  omega

/-- Two ASCII digits are those of the number that they spell. -/
theorem digitChars_of_isDigit (ascii : tens.isDigit ∧ units.isDigit) {size : Nat}
    (spells : size = 10 * (tens.toNat - '0'.toNat) + (units.toNat - '0'.toNat)) :
    size ≤ 99 ∧ [Nat.digitChar (size / 10), Nat.digitChar (size % 10)] = [tens, units] := by
  have tensBound := toNat_of_isDigit ascii.1
  have unitsBound := toNat_of_isDigit ascii.2
  have zero : '0'.toNat = 48 := rfl
  have high : size / 10 = tens.toNat - '0'.toNat := by omega
  have low : size % 10 = units.toNat - '0'.toNat := by omega
  rw [high, low, digitChar_of_isDigit ascii.1, digitChar_of_isDigit ascii.2]
  exact ⟨by omega, rfl⟩

/-- The digits of a size below one hundred are ASCII digits, which spell it. -/
theorem isDigit_digitChars {size : Nat} (bound : size ≤ 99) :
    ((Nat.digitChar (size / 10)).isDigit ∧ (Nat.digitChar (size % 10)).isDigit) ∧
      size = 10 * ((Nat.digitChar (size / 10)).toNat - '0'.toNat) +
        ((Nat.digitChar (size % 10)).toNat - '0'.toNat) := by
  have high : size / 10 < 10 := by omega
  have low : size % 10 < 10 := by omega
  have zero : '0'.toNat = 48 := rfl
  rw [Nat.isDigit_digitChar, Nat.isDigit_digitChar, Nat.toNat_digitChar_of_lt_ten high,
    Nat.toNat_digitChar_of_lt_ten low]
  exact ⟨⟨by simpa using high, by simpa using low⟩, by omega⟩

/-- A name is divided into those parts whose spelling it is. -/
theorem decompose_eq_ok_iff_spelling :
    decompose imported = .ok icon ↔
      icon.name ≠ "" ∧ '\n' ∉ icon.name.toList ∧ icon.size ≤ 99 ∧ imported = icon.spelling := by
  have spelled (digits : List Char) :
      imported = icon.name ++ String.ofList digits ↔
        imported.toList = icon.name.toList ++ digits := by
    rw [← String.toList_inj, String.toList_append, String.toList_ofList]
  constructor
  · intro divided
    rcases decompose_eq_ok_iff.mp divided with ⟨tens, units, suffixed, ascii, size⟩
    rcases digitChars_of_isDigit ascii size with ⟨bound, digits⟩
    refine ⟨fun empty => suffixed.nonempty (by simp [empty]), suffixed.oneLine, bound, ?_⟩
    rw [spelling, spelled, digits]
    exact suffixed.spelled
  · rintro ⟨nonempty, oneLine, bound, written⟩
    rcases isDigit_digitChars bound with ⟨ascii, size⟩
    rw [spelling, spelled] at written
    refine decompose_eq_ok_iff.mpr ⟨_, _, ?_, ascii, size⟩
    exact {
      spelled := written
      nonempty := by simpa using nonempty
      oneLine
      tens := isDecimalDigit_of_isDigit ascii.1
      units := isDecimalDigit_of_isDigit ascii.2 }

/-- Names are divided exactly as the convention says, and nothing of them is lost. A text that ends
in two digits, after a name without line feed, is divided if they are ASCII digits, and is turned
down for its size if not; every other text is turned down for want of a suffix. -/
theorem decompose_accepts_convention :
    (∀ imported icon, decompose imported = .ok icon ↔
      ∃ tens units, IsSuffixed imported.toList icon.name.toList tens units ∧
        (tens.isDigit ∧ units.isDigit) ∧
        icon.size = 10 * (tens.toNat - '0'.toNat) + (units.toNat - '0'.toNat)) ∧
    (∀ imported icon, decompose imported = .ok icon ↔
      icon.name ≠ "" ∧ '\n' ∉ icon.name.toList ∧ icon.size ≤ 99 ∧ imported = icon.spelling) ∧
    (∀ first second, (decompose first).isOk → decompose first = decompose second →
      first = second) ∧
    (∀ imported, decompose imported = .error (.unreadableSize .invalidDigit) ↔
      ∃ name tens units, IsSuffixed imported.toList name tens units ∧
        ¬ (tens.isDigit ∧ units.isDigit)) ∧
    (∀ imported, decompose imported = .error .missingSuffix ↔
      ∀ name tens units, ¬ IsSuffixed imported.toList name tens units) ∧
    (∀ imported fault, decompose imported = .error fault →
      fault = .missingSuffix ∨ fault = .unreadableSize .invalidDigit) := by
  refine ⟨fun _ _ => decompose_eq_ok_iff, fun _ _ => decompose_eq_ok_iff_spelling, ?_,
    fun _ => decompose_eq_invalidDigit_iff, fun _ => decompose_eq_missingSuffix_iff, ?_⟩
  · intro first second isOk same
    cases divided : decompose first with
    | error fault => rw [divided] at isOk; cases isOk
    | ok icon =>
        rw [divided] at same
        rw [(decompose_eq_ok_iff_spelling.mp divided).2.2.2,
          (decompose_eq_ok_iff_spelling.mp same.symm).2.2.2]
  · intro imported fault refused
    rcases decompose_cases imported with
      ⟨_, _, _, _, _, outcome⟩ | ⟨_, _, _, _, _, outcome⟩ | ⟨_, outcome⟩
    all_goals
      rw [outcome] at refused
      cases refused
    · exact .inr rfl
    · exact .inl rfl

/-- Of three digits the first belongs to the name, and a digit of another script is no size. -/
theorem last_two_digits_are_size :
    decompose "Number132" = .ok ⟨"Number1", 32⟩ ∧
      decompose "Add1６" = .error (.unreadableSize .invalidDigit) ∧
      ∀ imported, decompose imported = .ok ⟨"Number1", 32⟩ → imported = "Number132" := by
  rcases decompose_accepts_convention with ⟨-, divided, injective, refused, -⟩
  have number : decompose "Number132" = .ok ⟨"Number1", 32⟩ := (divided _ _).mpr (by decide)
  refine ⟨number, ?_, ?_⟩
  · refine (refused _).mpr ⟨['A', 'd', 'd'], '1', '６', ?_, by decide⟩
    exact {
      spelled := by decide
      nonempty := by decide
      oneLine := by decide
      tens := by decide +kernel
      units := by decide +kernel }
  · intro imported same
    exact injective imported "Number132" (by rw [same]; rfl) (same.trans number.symm)

end IconName
end IconSize
