/-!
Paths as sequences of components. Two spellings with the same components name the same place:
repeated slashes, a slash at the end and a dot inside a path add no component. A dot at the
beginning does.
-/

namespace IconSize.Files

/-- One step of a path. -/
inductive Component where
  /-- The slash at the beginning of an absolute path. -/
  | root
  /-- A dot at the beginning of a relative path. -/
  | current
  | parent
  /-- The name of an entry of a directory. -/
  | entry (name : String)
deriving DecidableEq, Repr, Inhabited

namespace Component

/-- The kinds of component in ascending order. -/
def rank : Component → Nat
  | root => 0
  | current => 1
  | parent => 2
  | entry _ => 3

/-- The name of an entry; the other components have none. -/
def label : Component → String
  | entry name => name
  | _ => ""

/-- Components are ordered by kind, entries among themselves by name. -/
def compare : Component → Component → Ordering := compareLex (compareOn rank) (compareOn label)

end Component

/-- A path as it is spelled. -/
structure Path where
  spelling : String
deriving DecidableEq, Repr, Inhabited

namespace Path

/-- The pieces between the slashes. -/
def pieces (path : Path) : List (List Char) :=
  path.spelling.toList.foldr (fun character pieces =>
    match character, pieces with
    | '/', pieces => [] :: pieces
    | character, piece :: pieces => (character :: piece) :: pieces
    | character, [] => [[character]]) [[]]

/-- The component that a piece after the first one stands for. -/
def component? (piece : List Char) : Option Component :=
  match piece with
  | [] => none
  | ['.'] => none
  | ['.', '.'] => some .parent
  | name => some (.entry (String.ofList name))

def components (path : Path) : List Component :=
  match path.pieces with
  | ['.'] :: rest => .current :: rest.filterMap component?
  | [] :: second :: rest => .root :: (second :: rest).filterMap component?
  | all => all.filterMap component?

def isAbsolute (path : Path) : Bool := path.spelling.toList.head? == some '/'

/-- The order of paths: component by component. A beginning of a path comes before it. -/
def compare (left right : Path) : Ordering :=
  left.components.compareLex Component.compare right.components

/-- Does the path come before another one, or name the same place? -/
def isUpTo (left right : Path) : Bool := (left.compare right).isLE

/-- Does the path name the same place, as far as its components tell? -/
def same (left right : Path) : Bool := left.components == right.components

/-- The name of the file, if the path ends with an entry. -/
def fileName? (path : Path) : Option String :=
  match path.components.getLast? with
  | some (.entry name) => some name
  | _ => none

/-- The stem and the extension of a file name: its last dot divides it, unless the name begins
with that dot. -/
def stemAndExtension? (path : Path) : Option (String × String) := do
  let name ← path.fileName?
  match name.toList.reverse.span (· != '.') with
  | (_, []) => none
  | (_, [_]) => none
  | (extension, _ :: stem) =>
    some (String.ofList stem.reverse, String.ofList extension.reverse)

def extension? (path : Path) : Option String := path.stemAndExtension?.map (·.2)

/-- The path of an entry of a directory. -/
def child (directory : Path) (name : String) : Path :=
  if directory.spelling.toList.getLast? == some '/' || directory.spelling == "" then
    ⟨directory.spelling ++ name⟩
  else ⟨directory.spelling ++ "/" ++ name⟩

example : (Path.mk "a//b/./c/").components = [.entry "a", .entry "b", .entry "c"] := by
  decide +kernel
example : (Path.mk "./a").components = [.current, .entry "a"] := by decide +kernel
example : (Path.mk "a/b").compare ⟨"a-b"⟩ = .lt := by decide +kernel
example : (Path.mk ".ts").extension? = none := by decide +kernel

end Path
end IconSize.Files
