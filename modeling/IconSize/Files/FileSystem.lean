import IconSize.Files.Path
import IconSize.Text.Bytes

/-!
A file system as a value: at some locations there are files, directories and links. A path leads to
a location through the directories that it names; a link on the way is replaced by the path that it
holds. Some files and directories may not be read, and some files not be written; on the way to a
location every directory may be passed. Writing changes the content of one file and nothing else.
-/

namespace IconSize.Files
open Text

/-- A place in a file system: the names that lead from it up to the root, its own name first. -/
abbrev Location := List String

/-- The location that the names in a path lead to, from the root. -/
def Path.location (path : Path) : Location :=
  (path.components.filterMap fun
    | .entry name => some name
    | _ => none).reverse

/-- The path that leads to a location from the root. -/
def Location.path (location : Location) : Path := ⟨"/".intercalate location.reverse⟩

/-- What there is at a location. -/
inductive FileNode where
  | file (content : List UInt8)
  /-- Stands for what the path leads to. -/
  | link (target : Path)
  | directory
deriving DecidableEq, Inhabited

def FileNode.isLink : FileNode → Bool
  | link _ => true
  | _ => false

/-- A file with another content. What is no file stays as it is. -/
def FileNode.withContent (content : List UInt8) : FileNode → FileNode
  | file _ => file content
  | node => node

/-- Why a file or a directory cannot be used. -/
inductive FileFault where
  | notFound
  /-- A file stands where the path needs a directory. -/
  | notDirectory
  /-- A directory stands where a file is to be read. -/
  | isDirectory
  /-- The links of the path are too many, as they are where one leads to itself. -/
  | tooManyLinks
  /-- What is there may not be read, or not be written. -/
  | notPermitted
  /-- The bytes of the file are not the UTF-8 of any text. -/
  | notText
deriving DecidableEq, Repr, Inhabited

def FileFault.message : FileFault → String
  | notFound => "No such file or directory (os error 2)"
  | notDirectory => "Not a directory (os error 20)"
  | isDirectory => "Is a directory (os error 21)"
  | tooManyLinks => "Too many levels of symbolic links (os error 40)"
  | notPermitted => "Permission denied (os error 13)"
  | notText => "stream did not contain valid UTF-8"

/-- The nodes of a file system, and the directory from which relative paths start. The root is a
directory without being listed. -/
structure FileSystem where
  nodes : List (Location × FileNode)
  workingDirectory : Location
  /-- Where a file may not be read, or a directory not be listed. -/
  unreadable : List Location
  /-- Where a file may not be written. -/
  unwritable : List Location
deriving DecidableEq, Inhabited

namespace FileSystem

def empty : FileSystem := ⟨[], [], [], []⟩

/-! ## Nodes -/

/-- What there is at a location. -/
def node? (system : FileSystem) : Location → Option FileNode
  | [] => some .directory
  | location => system.nodes.lookup location

/-- The names of the entries of a directory. -/
def names (system : FileSystem) (directory : Location) : List String :=
  system.nodes.filterMap fun
    | (name :: parent, _) => if parent = directory then some name else none
    | ([], _) => none

/-- The names of the entries of a directory, if it may be listed. -/
def listing (system : FileSystem) (directory : Location) : Except FileFault (List String) :=
  if system.unreadable.contains directory then .error .notPermitted
  else .ok (system.names directory)

/-- Give the file at a location another content. -/
def overwrite (system : FileSystem) (location : Location) (content : List UInt8) : FileSystem :=
  { system with
    nodes := system.nodes.map fun (place, node) =>
      (place, if place = location then node.withContent content else node) }

/-- Put a node at a location, in the place of what was there. -/
def put (system : FileSystem) (location : Location) (node : FileNode) : FileSystem :=
  { system with nodes := (location, node) :: system.nodes.filter (·.1 != location) }

/-- Take away what there is at a location. -/
def remove (system : FileSystem) (location : Location) : FileSystem :=
  { system with nodes := system.nodes.filter (·.1 != location) }

/-- What is at a location may not be read. -/
def forbidReading (system : FileSystem) (location : Location) : FileSystem :=
  { system with unreadable := location :: system.unreadable }

/-- The file at a location may not be written. -/
def forbidWriting (system : FileSystem) (location : Location) : FileSystem :=
  { system with unwritable := location :: system.unwritable }

/-- Make directories at a location and around it where there is nothing yet. -/
def makeDirectories (system : FileSystem) : Location → FileSystem
  | [] => system
  | name :: parent =>
    let system := system.makeDirectories parent
    match system.node? (name :: parent) with
    | some _ => system
    | none => system.put (name :: parent) .directory

/-- Put a node at a location, inside directories that are made if need be. -/
def place (system : FileSystem) (location : Location) (node : FileNode) : FileSystem :=
  (system.makeDirectories location.tail).put location node

/-- The files with their locations. -/
def files (system : FileSystem) : List (Location × List UInt8) :=
  system.nodes.filterMap fun
    | (location, .file content) => some (location, content)
    | _ => none

/-- The files that have another content than they have in an earlier file system, or none there. -/
def changedSince (system earlier : FileSystem) : List (Location × List UInt8) :=
  system.files.filter fun (location, content) =>
    earlier.node? location != some (.file content)

/-- Looking for one location is not disturbed by taking away another. -/
theorem lookup_filter_ne (nodes : List (Location × FileNode)) (location other : Location)
    (different : other ≠ location) :
    (nodes.filter (·.1 != location)).lookup other = nodes.lookup other := by
  induction nodes with
  | nil => rfl
  | cons head rest induction =>
      obtain ⟨place, node⟩ := head
      by_cases same : place = location
      · have unlike : (other == place) = false := by simpa [same] using different
        rw [List.lookup_cons, unlike, ← induction]
        simp [same]
      · simp only [List.filter_cons, bne_iff_ne, ne_eq, same, not_false_eq_true, if_true]
        rw [List.lookup_cons, List.lookup_cons, induction]

theorem node?_remove_of_ne (system : FileSystem) (location other : Location)
    (different : other ≠ location) :
    (system.remove location).node? other = system.node? other := by
  cases other with
  | nil => rfl
  | cons name parent => exact lookup_filter_ne _ _ _ different

/-! ## Paths -/

/-- Where a path starts from, inside a directory. -/
def start (path : Path) (directory : Location) : Location :=
  if path.isAbsolute then [] else directory

/-- Follow the pieces of a path from a location. What they lead through has to be a directory; at a
link, `jump` goes on with the pieces of its path in front of the remaining ones. -/
def follow (system : FileSystem)
    (jump : Location → List (List Char) → Except FileFault Location) :
    Location → List (List Char) → Except FileFault Location
  | location, [] => .ok location
  | location, piece :: rest =>
    match system.node? location with
    | some .directory =>
      match Path.component? piece with
      | some (.entry name) =>
        match system.node? (name :: location) with
        | none => .error .notFound
        | some (.link target) => jump (start target location) (target.pieces ++ rest)
        | some _ => system.follow jump (name :: location) rest
      | some .parent => system.follow jump location.tail rest
      | _ => system.follow jump location rest
    | _ => .error .notDirectory

/-- Follow the pieces of a path through at most so many links. -/
def resolve (system : FileSystem) : Nat → Location → List (List Char) →
    Except FileFault Location
  | 0 => system.follow fun _ _ => .error .tooManyLinks
  | links + 1 => system.follow (system.resolve links)

/-- How many links a path may lead through. -/
def linkLimit : Nat := 40

/-- The location of the file or directory that a path names. -/
def locate (system : FileSystem) (path : Path) : Except FileFault Location :=
  if path.spelling.isEmpty then .error .notFound
  else system.resolve linkLimit (start path system.workingDirectory) path.pieces

/-! ## Files -/

def readText (system : FileSystem) (path : Path) : Except FileFault String :=
  match system.locate path with
  | .error fault => .error fault
  | .ok location =>
    if system.unreadable.contains location then .error .notPermitted
    else
      match system.node? location with
      | some (.file content) =>
        match decode? content with
        | some text => .ok text
        | none => .error .notText
      | some .directory => .error .isDirectory
      | _ => .error .notFound

/-- Where a text is written for a path: at the file that it names, which has to be there already. -/
def writingPlace (system : FileSystem) (path : Path) : Except FileFault Location :=
  match system.locate path with
  | .error fault => .error fault
  | .ok location =>
    match system.node? location with
    | some (.file _) =>
      if system.unwritable.contains location then .error .notPermitted else .ok location
    | some .directory => .error .isDirectory
    | _ => .error .notFound

/-- Write a text to the file that a path names. -/
def writeText (system : FileSystem) (path : Path) (text : String) : Except FileFault FileSystem :=
  (system.writingPlace path).map fun location => system.overwrite location (encode text)

end FileSystem
end IconSize.Files
