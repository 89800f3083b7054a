import IconSize.Text.Digit

/-!
Numbers of thirty-two bits that are spelled in decimal digits, after a plus sign if there is one.
-/

namespace IconSize.Text

/-- Why a text spells no number. -/
inductive NumeralFault where
  | empty
  | invalidDigit
  | tooLarge
deriving DecidableEq, Repr, Inhabited

namespace NumeralFault

def message : NumeralFault → String
  | empty => "cannot parse integer from empty string"
  | invalidDigit => "invalid digit found in string"
  | tooLarge => "number too large to fit in target type"

end NumeralFault

/-- The number that digits spell after others that spell `value`. -/
def readDigits (value : Nat) : List Char → Except NumeralFault Nat
  | [] => .ok value
  | character :: rest =>
    match asciiDigit? character with
    | none => .error .invalidDigit
    | some digit =>
      if 10 * value + digit < UInt32.size then readDigits (10 * value + digit) rest
      else .error .tooLarge

/-- The number that a text spells. -/
def readNumeral : List Char → Except NumeralFault Nat
  | [] => .error .empty
  | '+' :: first :: rest => readDigits 0 (first :: rest)
  | chars => readDigits 0 chars

example : readNumeral ['+', '0', '3', '2'] = .ok 32 := by rfl
example : readNumeral ['+'] = .error .invalidDigit := by rfl

end IconSize.Text
