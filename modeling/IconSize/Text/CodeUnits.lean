/-!
Code points written in hexadecimal digits, and the pairs of surrogates that stand for one code point
where text is escaped in units of sixteen bits.
-/

namespace IconSize.Text

def hexDigit? (character : Char) : Option Nat :=
  if '0' ≤ character && character ≤ '9' then some (character.toNat - '0'.toNat)
  else if 'a' ≤ character && character ≤ 'f' then some (character.toNat - 'a'.toNat + 10)
  else if 'A' ≤ character && character ≤ 'F' then some (character.toNat - 'A'.toNat + 10)
  else none

/-- The number that a list of hexadecimal digits denotes. -/
def hexValue? : Nat → List Char → Option Nat
  | value, [] => some value
  | value, digit :: rest => do hexValue? (16 * value + (← hexDigit? digit)) rest

/-- The four lower-case hexadecimal digits of a code unit. -/
def hexDigits (code : Nat) : List Char :=
  [code / 0x1000 % 16, code / 0x100 % 16, code / 0x10 % 16, code % 16].map Nat.digitChar

/-- Is this code point the first half of a surrogate pair? -/
def isHighSurrogate (code : Nat) : Bool := 0xD800 ≤ code && code ≤ 0xDBFF

/-- Is this code point the second half of a surrogate pair? -/
def isLowSurrogate (code : Nat) : Bool := 0xDC00 ≤ code && code ≤ 0xDFFF

/-- Join the halves of surrogate pairs. -/
def joinSurrogates : List Nat → List Nat
  | [] => []
  | [code] => [code]
  | high :: low :: rest =>
    if isHighSurrogate high && isLowSurrogate low then
      (0x10000 + (high - 0xD800) * 0x400 + (low - 0xDC00)) :: joinSurrogates rest
    else
      high :: joinSurrogates (low :: rest)

end IconSize.Text
