import IconSize.Json.Value
import IconSize.Text.CodeUnits

/-!
Writing JSON, on one line or indented by two blanks.
-/

namespace IconSize.Json
open Text

/-- How a character is written inside quotes. -/
def escapeChar (character : Char) : List Char :=
  match character with
  | '"' => ['\\', '"']
  | '\\' => ['\\', '\\']
  | '\n' => ['\\', 'n']
  | '\r' => ['\\', 'r']
  | '\t' => ['\\', 't']
  | '\x08' => ['\\', 'b']
  | '\x0c' => ['\\', 'f']
  | _ =>
    if character.toNat < 0x20 then '\\' :: 'u' :: hexDigits character.toNat else [character]

/-- A text in quotes. -/
def quote (text : String) : List Char :=
  '"' :: text.toList.flatMap escapeChar ++ ['"']

/-- A text in quotes; a string without text is written as an empty one. -/
def quote? (text : Option String) : List Char := quote (text.getD "")

mutual

def writeCompact : Json → List Char
  | .null => "null".toList
  | .bool true => "true".toList
  | .bool false => "false".toList
  | .number spelling => spelling.toList
  | .string text => quote? text
  | .array items => '[' :: writeItems items ++ [']']
  | .object members => '{' :: writeMembers members ++ ['}']

def writeItems : List Json → List Char
  | [] => []
  | [item] => writeCompact item
  | item :: rest => writeCompact item ++ ',' :: writeItems rest

def writeMembers : List (Option String × Json) → List Char
  | [] => []
  | [(name, value)] => quote? name ++ ':' :: writeCompact value
  | (name, value) :: rest => quote? name ++ ':' :: writeCompact value ++ ',' :: writeMembers rest

end

/-- The beginning of a line at a depth. -/
def newLine (depth : Nat) : List Char := '\n' :: List.replicate (2 * depth) ' '

mutual

/-- A value over several lines; only empty arrays and objects stay on one. -/
def writePretty (depth : Nat) : Json → List Char
  | .array (item :: rest) =>
    '[' :: newLine (depth + 1) ++ writePretty (depth + 1) item
      ++ prettyItems (depth + 1) rest ++ newLine depth ++ [']']
  | .object ((name, value) :: rest) =>
    '{' :: newLine (depth + 1) ++ quote? name ++ ':' :: ' ' :: writePretty (depth + 1) value
      ++ prettyMembers (depth + 1) rest ++ newLine depth ++ ['}']
  | .null => "null".toList
  | .bool true => "true".toList
  | .bool false => "false".toList
  | .number spelling => spelling.toList
  | .string text => quote? text
  | .array [] => ['[', ']']
  | .object [] => ['{', '}']

/-- More items, each after a comma and on a line of its own. -/
def prettyItems (depth : Nat) : List Json → List Char
  | [] => []
  | item :: rest => ',' :: newLine depth ++ writePretty depth item ++ prettyItems depth rest

/-- More members, each after a comma and on a line of its own. -/
def prettyMembers (depth : Nat) : List (Option String × Json) → List Char
  | [] => []
  | (name, value) :: rest =>
    ',' :: newLine depth ++ quote? name ++ ':' :: ' ' :: writePretty depth value
      ++ prettyMembers depth rest

end

def compact (json : Json) : String := String.ofList (writeCompact json)

def pretty (json : Json) : String := String.ofList (writePretty 0 json)

end IconSize.Json
