import IconSize.Json.Value
import IconSize.Text.CodeUnits

/-!
Reading JSON: the strict grammar, without comments, trailing commas or leading zeros.
-/

namespace IconSize.Json
open Text

/-- Is this one of the four blanks of JSON? -/
def isBlank (character : Char) : Bool :=
  character == ' ' || character == '\n' || character == '\t' || character == '\r'

def skipBlanks (chars : List Char) : List Char := chars.dropWhile isBlank

/-- The code points of a string after its opening quote, and the rest after the closing one. -/
def readString : List Char → Option (List Nat × List Char)
  | [] => none
  | '"' :: rest => some ([], rest)
  | '\\' :: 'u' :: first :: second :: third :: fourth :: rest => do
    let code ← hexValue? 0 [first, second, third, fourth]
    let (codes, after) ← readString rest
    return (code :: codes, after)
  | '\\' :: mark :: rest => do
    let code ← match mark with
      | '"' | '\\' | '/' => some mark.toNat
      | 'b' => some 0x08
      | 'f' => some 0x0C
      | 'n' => some 0x0A
      | 'r' => some 0x0D
      | 't' => some 0x09
      | _ => none
    let (codes, after) ← readString rest
    return (code :: codes, after)
  | character :: rest =>
    if character.toNat < 0x20 || character == '\\' then none
    else do
      let (codes, after) ← readString rest
      return (character.toNat :: codes, after)

/-- The text of a list of code points, if no surrogate is left alone. -/
def textOf? (codes : List Nat) : Option String :=
  let joined := joinSurrogates codes
  if joined.any fun code => isHighSurrogate code || isLowSurrogate code then none
  else some (String.ofList (joined.map Char.ofNat))

/-- Digits, at least one. -/
def readDigits? (chars : List Char) : Option (List Char × List Char) :=
  match chars.span Char.isDigit with
  | ([], _) => none
  | found => some found

/-- A minus sign, if there is one. -/
def readSign : List Char → List Char × List Char
  | '-' :: rest => (['-'], rest)
  | rest => ([], rest)

/-- Digits without leading zeros. -/
def readWhole? : List Char → Option (List Char × List Char)
  | '0' :: rest => some (['0'], rest)
  | rest => readDigits? rest

/-- A fraction, if there is one. -/
def readFraction? : List Char → Option (List Char × List Char)
  | '.' :: rest => (readDigits? rest).map fun (digits, rest) => ('.' :: digits, rest)
  | rest => some ([], rest)

/-- The sign of an exponent, if there is one. -/
def readExponentSign : List Char → List Char × List Char
  | '+' :: rest => (['+'], rest)
  | '-' :: rest => (['-'], rest)
  | rest => ([], rest)

/-- An exponent, if there is one. -/
def readExponent? : List Char → Option (List Char × List Char)
  | [] => some ([], [])
  | mark :: rest =>
    if mark == 'e' || mark == 'E' then
      let (sign, rest) := readExponentSign rest
      (readDigits? rest).map fun (digits, rest) => (mark :: sign ++ digits, rest)
    else some ([], mark :: rest)

/-- A number: sign, whole part, fraction, exponent. -/
def readNumber? (chars : List Char) : Option (List Char × List Char) := do
  let (sign, rest) := readSign chars
  let (whole, rest) ← readWhole? rest
  let (fraction, rest) ← readFraction? rest
  let (exponent, rest) ← readExponent? rest
  return (sign ++ whole ++ fraction ++ exponent, rest)

mutual

/-- A value after blanks. Every value takes a character, so the length of the text bounds the
depth. -/
def readValue : Nat → List Char → Option (Json × List Char)
  | 0, _ => none
  | depth + 1, chars =>
    match skipBlanks chars with
    | 'n' :: 'u' :: 'l' :: 'l' :: rest => some (.null, rest)
    | 't' :: 'r' :: 'u' :: 'e' :: rest => some (.bool true, rest)
    | 'f' :: 'a' :: 'l' :: 's' :: 'e' :: rest => some (.bool false, rest)
    | '"' :: rest => (readString rest).map fun (codes, rest) => (.string (textOf? codes), rest)
    | '[' :: rest =>
      match skipBlanks rest with
      | ']' :: rest => some (.array [], rest)
      | rest => (readItems depth rest).map fun (items, rest) => (.array items, rest)
    | '{' :: rest =>
      match skipBlanks rest with
      | '}' :: rest => some (.object [], rest)
      | rest => (readMembers depth rest).map fun (members, rest) => (.object members, rest)
    | rest => (readNumber? rest).map fun (spelling, rest) =>
      (.number (String.ofList spelling), rest)

def readItems : Nat → List Char → Option (List Json × List Char)
  | 0, _ => none
  | depth + 1, chars => do
    let (item, rest) ← readValue depth chars
    match skipBlanks rest with
    | ']' :: rest => return ([item], rest)
    | ',' :: rest =>
      let (items, rest) ← readItems depth rest
      return (item :: items, rest)
    | _ => none

def readMembers : Nat → List Char → Option (List (Option String × Json) × List Char)
  | 0, _ => none
  | depth + 1, chars =>
    match skipBlanks chars with
    | '"' :: rest => do
      let (codes, rest) ← readString rest
      match skipBlanks rest with
      | ':' :: rest =>
        let (value, rest) ← readValue depth rest
        match skipBlanks rest with
        | '}' :: rest => return ([(textOf? codes, value)], rest)
        | ',' :: rest =>
          let (members, rest) ← readMembers depth rest
          return ((textOf? codes, value) :: members, rest)
        | _ => none
      | _ => none
    | _ => none

end

/-- The value that a text denotes; nothing but blanks may follow it. -/
def parse? (source : String) : Option Json :=
  let chars := source.toList
  match readValue (2 * chars.length + 1) chars with
  | some (value, rest) => if (skipBlanks rest).isEmpty then some value else none
  | none => none

end IconSize.Json
