import IconSize.Icon.Name
import IconSize.Options
import IconSize.Scope.Walk

/-!
Import bindings: the entries of an import of icons, and the names that they get. An entry with an
alias keeps it. Any other one is called after the icon without its size, with a suffix where the
module declares that name or an earlier entry has got it.
-/

namespace IconSize
open Syntax

/-- An imported icon and the name that replaces its local one. -/
structure ImportBinding where
  /-- The name that is imported, with its size. -/
  imported : String
  /-- The name by which the module refers to it. -/
  localName : String
  /-- The imported name without its size. -/
  decomposed : String
  size : Nat
  /-- The name by which the module refers to it afterwards. -/
  replacement : String
  /-- The local name was chosen in the module. -/
  aliased : Bool
  typeOnly : Bool
  span : Span
deriving DecidableEq, Repr, Inhabited

namespace ImportBinding

/-- The entry that imports the icon without its size. -/
def specifierText (binding : ImportBinding) : String :=
  let mark := if binding.typeOnly then "type " else ""
  if binding.decomposed = binding.replacement then mark ++ binding.replacement
  else mark ++ binding.decomposed ++ " as " ++ binding.replacement

/-- Must the size be given where the icon is used? -/
def needsSize (binding : ImportBinding) (defaultSize : UInt32) : Bool :=
  binding.size != defaultSize.toNat

end ImportBinding

/-- An imported name that does not follow the naming convention. -/
structure NamingError where
  binding : String
  fault : NameFault
deriving DecidableEq, Repr, Inhabited

/-- What the choice of names depends on. -/
structure NameChoice where
  scopes : ScopeTable
  collisionSuffix : String
  /-- The names that earlier entries have got. -/
  claimed : List String

namespace NameChoice

/-- The choice for the first entry. -/
def start (scopes : ScopeTable) (options : Options) : NameChoice :=
  ⟨scopes, options.collisionSuffix, []⟩

/-- Is this name declared in the module or claimed by an earlier entry? -/
def isTaken (choice : NameChoice) (name : String) : Bool :=
  choice.scopes.declares .root name || choice.scopes.declaresType .root name
    || choice.claimed.contains name

/-- The name for an icon: its own, with the suffix if that is taken. -/
def safeName (choice : NameChoice) (name : String) : String :=
  if choice.isTaken name then name ++ choice.collisionSuffix else name

/-- Choose the name for an entry. -/
def bind (choice : NameChoice) (specifier : ImportSpecifier) :
    Except NamingError ImportBinding :=
  let imported := specifier.imported.name
  let localName := specifier.binder.name
  match IconName.decompose imported with
  | .error fault => .error ⟨imported, fault⟩
  | .ok icon =>
    let aliased := decide (imported ≠ localName)
    let replacement := if aliased then localName else choice.safeName icon.name
    .ok {
      imported, localName, decomposed := icon.name, size := icon.size, replacement, aliased
      typeOnly := specifier.typeOnly, span := specifier.span }

/-- The choice after an entry has got a name. -/
def claim (choice : NameChoice) (binding : ImportBinding) : NameChoice :=
  { choice with claimed := choice.claimed.insert binding.replacement }

/-- Choose names for several entries one after the other; an entry that does not follow the
convention claims none. -/
def bindEach (choice : NameChoice) :
    List ImportSpecifier → List (Except NamingError ImportBinding)
  | [] => []
  | specifier :: rest =>
    match choice.bind specifier with
    | .error error => .error error :: choice.bindEach rest
    | .ok binding => .ok binding :: (choice.claim binding).bindEach rest

/-- Choose names for several entries; the first that does not follow the convention ends it. -/
def bindAll (choice : NameChoice) :
    List ImportSpecifier → Except NamingError (List ImportBinding)
  | [] => .ok []
  | specifier :: rest =>
    match choice.bind specifier with
    | .error error => .error error
    | .ok binding => ((choice.claim binding).bindAll rest).map (binding :: ·)

end NameChoice
end IconSize
