import IconSize.Proofs.Json.Spelling

/-!
Values of JSON written on one line and read again. A value whose numbers are numbers, and whose
strings and names have texts, is parsed from what is written for it: `parse?_compact`. The reader
takes a bound for its depth; two for each character are enough, since every value and every
separator has one.
-/

namespace IconSize.Json
open Text

mutual

/-- The value can be written: its numbers are numbers, and its strings and names have texts. -/
def IsPlain : Json → Prop
  | .null => True
  | .bool _ => True
  | .number spelling => IsNumeral spelling.toList
  | .string text => text.isSome
  | .array items => ArePlain items
  | .object members => MembersArePlain members

def ArePlain : List Json → Prop
  | [] => True
  | item :: items => item.IsPlain ∧ ArePlain items

def MembersArePlain : List (Option String × Json) → Prop
  | [] => True
  | (name, value) :: members => name.isSome ∧ value.IsPlain ∧ MembersArePlain members

end

/-! ## Where values begin -/

/-- A value can begin with this character. -/
def StartsValue (character : Char) : Prop :=
  character.isDigit = true ∨ character ∈ ['n', 't', 'f', '"', '[', '{', '-']

theorem StartsValue.not_isBlank {character : Char} (starts : StartsValue character) :
    isBlank character = false := by
  rcases starts with isDigit | member
  · simp only [isBlank, Bool.or_eq_false_iff, beq_eq_false_iff_ne]
    refine ⟨⟨⟨?_, ?_⟩, ?_⟩, ?_⟩ <;> (rintro rfl; cases isDigit)
  · simp only [List.mem_cons, List.not_mem_nil, or_false] at member
    rcases member with rfl | rfl | rfl | rfl | rfl | rfl | rfl <;> rfl

theorem StartsValue.skipBlanks_cons {character : Char} (starts : StartsValue character)
    (rest : List Char) : skipBlanks (character :: rest) = character :: rest := by
  simp [skipBlanks, starts.not_isBlank]

theorem IsNumeral.exists_cons {chars : List Char} (isNumeral : IsNumeral chars) :
    ∃ first others, chars = first :: others ∧ (first.isDigit = true ∨ first = '-') := by
  rcases isNumeral with ⟨sign, whole, fraction, exponent, parts, rfl⟩
  rcases parts.sign with rfl | rfl
  · rcases parts.whole with rfl | ⟨isDigits, -⟩
    · exact ⟨'0', fraction ++ exponent, rfl, .inl rfl⟩
    · rcases isDigits.exists_cons with ⟨first, others, rfl, isDigit⟩
      exact ⟨first, others ++ (fraction ++ exponent), rfl, .inl isDigit⟩
  · exact ⟨'-', whole ++ (fraction ++ exponent), rfl, .inr rfl⟩

theorem writeCompact_eq_cons {json : Json} (plain : json.IsPlain) :
    ∃ first others, json.writeCompact = first :: others ∧ StartsValue first := by
  cases json with
  | null => exact ⟨'n', ['u', 'l', 'l'], by simp [writeCompact], .inr (by simp)⟩
  | bool value =>
      cases value with
      | false => exact ⟨'f', ['a', 'l', 's', 'e'], by simp [writeCompact], .inr (by simp)⟩
      | true => exact ⟨'t', ['r', 'u', 'e'], by simp [writeCompact], .inr (by simp)⟩
  | number spelling =>
      rcases IsNumeral.exists_cons plain with ⟨first, others, written, isDigit | rfl⟩
      · exact ⟨first, others, written, .inl isDigit⟩
      · exact ⟨'-', others, written, .inr (by simp)⟩
  | string text => exact ⟨_, _, rfl, .inr (by simp)⟩
  | array items => exact ⟨_, _, rfl, .inr (by simp)⟩
  | object members => exact ⟨_, _, rfl, .inr (by simp)⟩

/-! ## Values one by one -/

variable {rest : List Char}

theorem readValue_number {chars : List Char} (isNumeral : IsNumeral chars)
    (ends : EndsNumber rest) (depth : Nat) :
    readValue (depth + 1) (chars ++ rest) = some (.number (String.ofList chars), rest) := by
  have read := readNumber?_append isNumeral ends
  rcases isNumeral.exists_cons with ⟨first, others, rfl, isStart⟩
  have starts : StartsValue first := by
    rcases isStart with isDigit | rfl
    · exact .inl isDigit
    · exact .inr (by simp)
  have skipped : skipBlanks (first :: others ++ rest) = first :: others ++ rest :=
    starts.skipBlanks_cons (others ++ rest)
  have other {character : Char} (noDigit : character.isDigit = false) (noMinus : character ≠ '-') :
      first ≠ character := by
    rintro rfl
    rcases isStart with isDigit | rfl
    · exact Bool.noConfusion (noDigit.symm.trans isDigit)
    · exact noMinus rfl
  rw [readValue, skipped]
  split
  case h_7 => rw [read]; rfl
  all_goals
    rename_i found
    exact absurd (List.cons.inj found).1 (other rfl (by decide))

theorem readString_quote (text : String) (rest : List Char) :
    ∃ chars, quote text ++ rest = '"' :: chars ∧
      readString chars = some (text.toList.map Char.toNat, rest) :=
  ⟨text.toList.flatMap escapeChar ++ '"' :: rest, by simp [quote],
    readString_escaped text.toList rest⟩

theorem textOf?_toList (text : String) : textOf? (text.toList.map Char.toNat) = some text := by
  rw [textOf?_toNat, String.ofList_toList]

theorem readValue_quote (text : String) (depth : Nat) :
    readValue (depth + 1) (quote text ++ rest) = some (.string (some text), rest) := by
  rcases readString_quote text rest with ⟨chars, written, read⟩
  rw [written, readValue, show skipBlanks ('"' :: chars) = '"' :: chars from rfl]
  simp only [read, Option.map_some, textOf?_toList]

/-- An array with items is read item by item. -/
theorem readValue_bracket {first : Char} (starts : StartsValue first) (others : List Char)
    (depth : Nat) :
    readValue (depth + 1) ('[' :: first :: others) =
      (readItems depth (first :: others)).map fun read => (.array read.1, read.2) := by
  have noEnd : first ≠ ']' := by
    rintro rfl
    rcases starts with isDigit | member
    · cases isDigit
    · simp at member
  rw [readValue, show skipBlanks ('[' :: _) = '[' :: _ from rfl]
  simp only [starts.skipBlanks_cons]
  split
  case h_1 found => exact absurd (List.cons.inj found).1 noEnd
  case h_2 => rfl

/-- An object with members is read member by member. -/
theorem readValue_brace (others : List Char) (depth : Nat) :
    readValue (depth + 1) ('{' :: '"' :: others) =
      (readMembers depth ('"' :: others)).map fun read => (.object read.1, read.2) := by
  rw [readValue, show skipBlanks ('{' :: _) = '{' :: _ from rfl]
  rfl

/-- A member is read up to what stands behind its value. -/
theorem readMembers_colon {name : String} {value : Json} {chars rest : List Char} {depth : Nat}
    (read : readValue depth chars = some (value, rest)) :
    readMembers (depth + 1) (quote name ++ ':' :: chars) =
      match skipBlanks rest with
      | '}' :: rest => some ([(some name, value)], rest)
      | ',' :: rest => do
        let (members, rest) ← readMembers depth rest
        return ((some name, value) :: members, rest)
      | _ => none := by
  rcases readString_quote name (':' :: chars) with ⟨others, written, named⟩
  rw [written, readMembers, show skipBlanks ('"' :: others) = '"' :: others from rfl]
  simp only [named, Option.bind_eq_bind, Option.bind_some,
    show skipBlanks (':' :: chars) = ':' :: chars from rfl, read, textOf?_toList]
  rfl

theorem writeItems_eq_cons {items : List Json} (some : items ≠ []) (plain : ArePlain items) :
    ∃ first others, writeItems items = first :: others ∧ StartsValue first := by
  cases items with
  | nil => exact absurd rfl some
  | cons item items =>
      rcases writeCompact_eq_cons plain.1 with ⟨first, others, written, starts⟩
      cases items with
      | nil => exact ⟨first, others, written, starts⟩
      | cons second items =>
          exact ⟨first, others ++ ',' :: writeItems (second :: items),
            by simp [writeItems, written], starts⟩

theorem writeMembers_eq_cons {members : List (Option String × Json)} (some : members ≠ []) :
    ∃ others, writeMembers members = '"' :: others := by
  match members, some with
  | [(name, value)], _ => exact ⟨_, rfl⟩
  | (name, value) :: second :: members, _ => exact ⟨_, rfl⟩

mutual

/-- A value that is written is read back, and what stands behind it is left. -/
theorem readValue_writeCompact :
    ∀ {json : Json}, json.IsPlain → ∀ (depth : Nat) (rest : List Char),
      2 * json.writeCompact.length ≤ depth → EndsNumber rest →
        readValue depth (json.writeCompact ++ rest) = some (json, rest)
  | json, plain, 0, rest, enough, _ => by
      rcases writeCompact_eq_cons plain with ⟨first, others, written, -⟩
      simp [written] at enough
  | .null, _, depth + 1, rest, _, _ => by
      simp [readValue, writeCompact, skipBlanks, isBlank]
  | .bool true, _, depth + 1, rest, _, _ => by
      simp [readValue, writeCompact, skipBlanks, isBlank]
  | .bool false, _, depth + 1, rest, _, _ => by
      simp [readValue, writeCompact, skipBlanks, isBlank]
  | .number spelling, plain, depth + 1, rest, _, ends => by
      rw [writeCompact, readValue_number plain ends, String.ofList_toList]
  | .string (some text), _, depth + 1, rest, _, _ => readValue_quote text depth
  | .array [], _, depth + 1, rest, _, _ => by
      simp [readValue, writeCompact, writeItems, skipBlanks, isBlank]
  | .array (item :: items), plain, depth + 1, rest, enough, _ => by
      have read := readItems_writeItems (List.cons_ne_nil item items) plain depth rest
        (by simp [writeCompact] at enough; omega)
      rcases writeItems_eq_cons (List.cons_ne_nil item items) plain with
        ⟨first, others, written, starts⟩
      rw [written, List.cons_append] at read
      simp only [writeCompact, written, List.cons_append, List.append_assoc, List.nil_append,
        readValue_bracket starts, read, Option.map_some]
  | .object [], _, depth + 1, rest, _, _ => by
      simp [readValue, writeCompact, writeMembers, skipBlanks, isBlank]
  | .object (member :: members), plain, depth + 1, rest, enough, _ => by
      have read := readMembers_writeMembers (List.cons_ne_nil member members) plain depth rest
        (by simp [writeCompact] at enough; omega)
      rcases writeMembers_eq_cons (List.cons_ne_nil member members) with ⟨others, written⟩
      rw [written, List.cons_append] at read
      simp only [writeCompact, written, List.cons_append, List.append_assoc, List.nil_append,
        readValue_brace, read, Option.map_some]

theorem readItems_writeItems :
    ∀ {items : List Json}, items ≠ [] → ArePlain items → ∀ (depth : Nat) (rest : List Char),
      2 * (writeItems items).length + 1 ≤ depth →
        readItems depth (writeItems items ++ ']' :: rest) = some (items, rest)
  | _, _, _, 0, _, enough => by omega
  | [item], _, plain, depth + 1, rest, enough => by
      have read := readValue_writeCompact plain.1 depth (']' :: rest)
        (by simp [writeItems] at enough; omega) (by simp [EndsNumber])
      simp [readItems, writeItems, read, skipBlanks, isBlank]
  | item :: second :: items, _, plain, depth + 1, rest, enough => by
      have read := readValue_writeCompact plain.1 depth
        (',' :: (writeItems (second :: items) ++ ']' :: rest))
        (by simp [writeItems] at enough; omega) (by simp [EndsNumber])
      have others := readItems_writeItems (List.cons_ne_nil second items) plain.2 depth rest
        (by simp [writeItems] at enough ⊢; omega)
      simp [readItems, writeItems, read, skipBlanks, isBlank, others]

theorem readMembers_writeMembers :
    ∀ {members : List (Option String × Json)}, members ≠ [] → MembersArePlain members →
      ∀ (depth : Nat) (rest : List Char), 2 * (writeMembers members).length + 1 ≤ depth →
        readMembers depth (writeMembers members ++ '}' :: rest) = some (members, rest)
  | _, _, _, 0, _, enough => by omega
  | [(some name, value)], _, plain, depth + 1, rest, enough => by
      have read := readValue_writeCompact plain.2.1 depth ('}' :: rest)
        (by simp [writeMembers] at enough; omega) (by simp [EndsNumber])
      simp [writeMembers, quote?, readMembers_colon read, skipBlanks, isBlank]
  | (some name, value) :: second :: members, _, plain, depth + 1, rest, enough => by
      have read := readValue_writeCompact plain.2.1 depth
        (',' :: (writeMembers (second :: members) ++ '}' :: rest))
        (by simp [writeMembers] at enough; omega) (by simp [EndsNumber])
      have others := readMembers_writeMembers (List.cons_ne_nil second members) plain.2.2 depth
        rest (by simp [writeMembers] at enough ⊢; omega)
      simp [writeMembers, quote?, readMembers_colon read, skipBlanks, isBlank, others]

end

/-- A value that is written on one line is the value that is parsed. -/
theorem parse?_compact {json : Json} (plain : json.IsPlain) : parse? json.compact = some json := by
  have read := readValue_writeCompact plain (2 * json.writeCompact.length + 1) [] (by omega)
    (by simp [EndsNumber])
  rw [List.append_nil] at read
  simp only [parse?, compact, String.toList_ofList, read]
  rfl

end IconSize.Json
