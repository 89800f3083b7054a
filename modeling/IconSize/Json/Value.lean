/-!
JSON values. A number keeps the spelling that it had, because a spelling with a fraction or an
exponent denotes no whole number here. A string has no text if its escapes leave half of a
surrogate pair alone. The members of an object keep their order and their repetitions.
-/

namespace IconSize

inductive Json where
  | null
  | bool (value : Bool)
  | number (spelling : String)
  | string (text : Option String)
  | array (items : List Json)
  | object (members : List (Option String × Json))
deriving Inhabited, Repr

namespace Json

/-- A string that has a text. -/
def text (value : String) : Json := .string (some value)

/-- A whole number that is not negative. -/
def natural (value : Nat) : Json := .number (toString value)

def member (name : String) (value : Json) : Option String × Json := (some name, value)

def members : Json → List (Option String × Json)
  | .object members => members
  | _ => []

/-- The first member of an object with this name. -/
def get? (json : Json) (name : String) : Option Json :=
  (json.members.find? fun entry => entry.1 = some name).map (·.2)

def text? : Json → Option String
  | .string text => text
  | _ => none

def bool? : Json → Option Bool
  | .bool value => some value
  | _ => none

/-- A whole number spelled with digits only. -/
def natural? : Json → Option Nat
  | .number spelling =>
    if spelling.toList.all Char.isDigit then spelling.toNat? else none
  | _ => none

def items? : Json → Option (List Json)
  | .array items => some items
  | _ => none

end Json
end IconSize
