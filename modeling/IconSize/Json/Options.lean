import IconSize.Json.Reader
import IconSize.Json.Writer
import IconSize.Options

/-!
Options as JSON. Members that are left out have their standard values, unknown ones are passed over,
and a known one may occur once. An array may hold the members in their order, the last ones left
out. The new module may be `null`, which keeps the specifier; nothing else may.
-/

namespace IconSize

/-- The value of a known member, if it is there. A member that occurs twice, or whose name has no
text, spoils the object. -/
inductive FoundMember where
  | absent
  | present (value : Json)
  | spoiled

/-- Look for a member of an object that is read by its known members. -/
def Json.findMember (members : List (Option String × Json)) (name : String) : FoundMember :=
  if members.any (·.1.isNone) then .spoiled
  else
    match members.filter (·.1 = some name) with
    | [] => .absent
    | [(_, value)] => .present value
    | _ => .spoiled

/-- The members of a record with these names: those of an object, or the items of an array in
order. -/
def Json.fields? (names : List String) : Json → Option (List FoundMember)
  | .object members => some (names.map (Json.findMember members))
  | .array items =>
    if items.length ≤ names.length then
      some (items.map .present ++ List.replicate (names.length - items.length) .absent)
    else none
  | _ => none

/-- Decode a member, or take the standard value where it is left out. -/
def FoundMember.decode (found : FoundMember) (standard : α) (decode : Json → Option α) :
    Option α :=
  match found with
  | .absent => some standard
  | .present value => decode value
  | .spoiled => none

namespace QuoteStyle

def name : QuoteStyle → String
  | auto => "auto"
  | single => "single"
  | double => "double"

def ofName? : String → Option QuoteStyle
  | "auto" => some auto
  | "single" => some single
  | "double" => some double
  | _ => none

theorem ofName?_name (style : QuoteStyle) : ofName? style.name = some style := by
  cases style <;> rfl

/-- A style is written as its name, or as an object that has the name as its only member, with the
value `null`. -/
def ofJson? : Json → Option QuoteStyle
  | .string (some name) => ofName? name
  | .object [(some name, .null)] => ofName? name
  | _ => none

end QuoteStyle

namespace PrintOptions

def ofJson? (json : Json) : Option PrintOptions := do
  match ← json.fields? ["quote", "trailingComma"] with
  | [quote, trailingComma] =>
    return {
      quote := ← quote.decode .auto QuoteStyle.ofJson?
      trailingComma := ← trailingComma.decode true Json.bool? }
  | _ => none

def toJson (options : PrintOptions) : Json :=
  .object [Json.member "quote" (.text options.quote.name),
    Json.member "trailingComma" (.bool options.trailingComma)]

end PrintOptions

namespace Options

/-- A whole number of thirty-two bits. -/
def sizeOfJson? (json : Json) : Option UInt32 := do
  let value ← json.natural?
  if value < UInt32.size then some (UInt32.ofNat value) else none

def moduleOfJson? : Json → Option (Option String)
  | .null => some none
  | json => json.text?.map some

def ofJson? (json : Json) : Option Options := do
  match ← json.fields?
    ["targetModule", "rewriteModuleTo", "defaultSize", "collisionSuffix", "printOptions"] with
  | [targetModule, newModule, defaultSize, collisionSuffix, printOptions] =>
    return {
      targetModule := ← targetModule.decode standard.targetModule Json.text?
      newModule := ← newModule.decode standard.newModule moduleOfJson?
      defaultSize := ← defaultSize.decode standard.defaultSize sizeOfJson?
      collisionSuffix := ← collisionSuffix.decode standard.collisionSuffix Json.text?
      printOptions := ← printOptions.decode standard.printOptions PrintOptions.ofJson? }
  | _ => none

/-- Decode the JSON text of options. -/
def parse? (source : String) : Option Options := (Json.parse? source).bind ofJson?

def toJson (options : Options) : Json :=
  .object [
    Json.member "targetModule" (.text options.targetModule),
    Json.member "rewriteModuleTo" (match options.newModule with
      | some module => .text module
      | none => .null),
    Json.member "defaultSize" (.natural options.defaultSize.toNat),
    Json.member "collisionSuffix" (.text options.collisionSuffix),
    Json.member "printOptions" options.printOptions.toJson]

end Options
end IconSize
