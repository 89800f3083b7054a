/-!
Texts measured in bytes of UTF-8. Every offset of the library is such a byte offset; an offset
inside a character divides nothing, and the functions that cut a text say so by `none`.
-/

namespace IconSize.Text

/-- The number of bytes that the characters take in UTF-8. -/
def byteLength : List Char → Nat
  | [] => 0
  | character :: rest => character.utf8Size + byteLength rest

@[simp] theorem byteLength_nil : byteLength [] = 0 := rfl

@[simp] theorem byteLength_cons (character : Char) (rest : List Char) :
    byteLength (character :: rest) = character.utf8Size + byteLength rest := rfl

@[simp] theorem byteLength_append (front back : List Char) :
    byteLength (front ++ back) = byteLength front + byteLength back := by
  induction front with
  | nil => simp
  | cons character rest induction => simp [induction, Nat.add_assoc]

/-- Divide a text after so many bytes. There is no answer where the offset lies inside a character
or beyond the end. -/
def splitAt? : Nat → List Char → Option (List Char × List Char)
  | 0, text => some ([], text)
  | _ + 1, [] => none
  | offset + 1, character :: rest =>
    if character.utf8Size ≤ offset + 1 then
      (splitAt? (offset + 1 - character.utf8Size) rest).map fun (front, back) =>
        (character :: front, back)
    else
      none

/-- The two parts make up the text, and the first one has the length asked for. -/
theorem splitAt?_eq_some {offset : Nat} {text front back : List Char}
    (found : splitAt? offset text = some (front, back)) :
    text = front ++ back ∧ byteLength front = offset := by
  induction text generalizing offset front with
  | nil =>
      cases offset with
      | zero => simp [splitAt?] at found; simp [found]
      | succ offset => simp [splitAt?] at found
  | cons character rest induction =>
      cases offset with
      | zero => simp [splitAt?] at found; obtain ⟨rfl, rfl⟩ := found; simp
      | succ offset =>
          simp only [splitAt?] at found
          split at found
          · rename_i fits
            obtain ⟨⟨front', back'⟩, tail, equal⟩ := Option.map_eq_some_iff.mp found
            obtain ⟨rfl, rfl⟩ := Prod.mk.inj equal
            obtain ⟨rfl, length⟩ := induction tail
            refine ⟨rfl, ?_⟩
            simp only [byteLength_cons, length]
            omega
          · exact absurd found (by simp)

/-- A text can be divided after each of its prefixes. -/
theorem splitAt?_append (front back : List Char) :
    splitAt? (byteLength front) (front ++ back) = some (front, back) := by
  induction front with
  | nil => simp [splitAt?]
  | cons character rest induction =>
      have positive := character.utf8Size_pos
      obtain ⟨offset, equal⟩ :
          ∃ offset, character.utf8Size + byteLength rest = offset + 1 :=
        ⟨character.utf8Size + byteLength rest - 1, by omega⟩
      have remaining : offset + 1 - character.utf8Size = byteLength rest := by omega
      have fits : character.utf8Size ≤ offset + 1 := by omega
      simp [equal, splitAt?, fits, remaining, induction]

/-! ## Texts as bytes -/

/-- The bytes of a text in UTF-8. -/
def encode (text : String) : List UInt8 := text.toUTF8.data.toList

/-- The text that has these bytes in UTF-8, if there is one. -/
def decode? (bytes : List UInt8) : Option String := String.fromUTF8? ⟨bytes.toArray⟩

@[simp] theorem decode?_encode (text : String) : decode? (encode text) = some text := by
  simp only [decode?, encode, String.fromUTF8?, String.fromUTF8, String.toUTF8]
  exact dif_pos text.isValidUTF8

/-! ## Indentation -/

/-- Is this one of the two characters that indent a line? -/
def isIndentation (character : Char) : Bool := character == ' ' || character == '\t'

/-- The blanks and tabs with which the line around a byte offset begins. An offset beyond the end
stands for the end; one inside a character lies on no line. -/
def lineIndent? (text : List Char) (offset : Nat) : Option (List Char) :=
  (splitAt? (min offset (byteLength text)) text).map fun (before, after) =>
    let line := (before.reverse.takeWhile (· != '\n')).reverse ++ after
    line.takeWhile isIndentation

example : lineIndent? "a\n  \tb".toList 5 = some "  \t".toList := by decide +kernel
example : lineIndent? "é".toList 1 = none := by decide +kernel

end IconSize.Text
