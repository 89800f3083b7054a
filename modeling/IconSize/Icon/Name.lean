import IconSize.Text.Numeral

/-!
The naming convention of sized icons: a name is followed by the two digits of its size, as in
`Add16`. The pattern `^(.+)(\d\d)$` divides a name. Its first group takes as much as it can, so that
only the last two digits are the size; no line feed is among that. Its second group takes decimal
digits of every script, of which only the ASCII ones can be read as a number.
-/

namespace IconSize

/-- An icon name divided into the part before the size and the size. -/
structure IconName where
  name : String
  size : Nat
deriving DecidableEq, Repr

/-- Why a name does not follow the convention. -/
inductive NameFault where
  /-- The name does not end in two digits that stand after at least one other character. -/
  | missingSuffix
  /-- Nothing stands before the size. -/
  | emptyName
  /-- The name ends in two digits that cannot be read as a number. -/
  | unreadableSize (fault : Text.NumeralFault)
deriving DecidableEq, Repr, Inhabited

namespace NameFault

def message : NameFault → String
  | missingSuffix => "expected a two-digit size suffix"
  | emptyName => "empty icon name"
  | unreadableSize fault => "unable to parse size: " ++ fault.message

end NameFault

namespace IconName
open Text

/-- What the second group takes: two digits at the very end of the text. -/
def endDigits? : List Char → Option (List Char)
  | [tens, units] =>
    if isDecimalDigit tens && isDecimalDigit units then some [tens, units] else none
  | _ => none

/-- What the two groups take. The first takes the next character and tries to go on after it; only
where that fails it ends, and the second has to take the rest. -/
def groups? : List Char → Option (List Char × List Char)
  | [] => none
  | character :: rest =>
    if character == '\n' then none
    else
      match groups? rest with
      | some (name, digits) => some (character :: name, digits)
      | none => (endDigits? rest).map fun digits => ([character], digits)

/-- Divide an imported name into icon name and size. -/
def decompose (imported : String) : Except NameFault IconName :=
  match groups? imported.toList with
  | none => .error .missingSuffix
  | some (name, digits) =>
    if name.isEmpty then .error .emptyName
    else
      match readNumeral digits with
      | .ok size => .ok ⟨String.ofList name, size⟩
      | .error fault => .error (.unreadableSize fault)

example : (decompose "Number132").toOption = some ⟨"Number1", 32⟩ := by decide +kernel
example : (decompose "16").toOption = none := by decide +kernel
example : (decompose "Add1٦").toOption = none := by decide +kernel

end IconName
end IconSize
