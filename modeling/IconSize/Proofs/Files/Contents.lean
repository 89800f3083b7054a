import IconSize.Files.Reach
import Mathlib.Data.List.Basic

/-!
What depends on the contents of files and what does not. A file system whose files are all emptied
still tells where each path leads and which files are reached; only reading shows the difference. So
nothing but a reader of the same file notices that a file is written.
-/

namespace IconSize.Files
open Text

/-! ## Nodes -/

namespace FileNode

@[simp]
theorem withContent_file (old content : List UInt8) :
    (file old).withContent content = file content := rfl

@[simp]
theorem withContent_directory (content : List UInt8) :
    directory.withContent content = directory := rfl

@[simp]
theorem withContent_withContent (node : FileNode) (first second : List UInt8) :
    (node.withContent first).withContent second = node.withContent second := by
  cases node <;> rfl

@[simp]
theorem isLink_withContent (node : FileNode) (content : List UInt8) :
    (node.withContent content).isLink = node.isLink := by
  cases node <;> rfl

end FileNode

namespace FileSystem

variable (system : FileSystem)

private theorem lookup_map_snd (nodes : List (Location × FileNode)) (location : Location)
    (change : Location → FileNode → FileNode) :
    (nodes.map fun (place, node) => (place, change place node)).lookup location =
      (nodes.lookup location).map (change location) := by
  induction nodes with
  | nil => rfl
  | cons head rest induction =>
      rcases head with ⟨place, node⟩
      rw [List.map_cons, List.lookup_cons, List.lookup_cons, induction]
      cases same : location == place with
      | false => rfl
      | true =>
          rcases eq_of_beq same with rfl : location = place
          rfl

/-! ## Emptied files -/

/-- The file system with nothing in any file. -/
def emptied : FileSystem :=
  { system with nodes := system.nodes.map fun (place, node) => (place, node.withContent []) }

@[simp]
theorem node?_emptied (location : Location) :
    system.emptied.node? location = (system.node? location).map (·.withContent []) := by
  cases location with
  | nil => rfl
  | cons name parent =>
      exact lookup_map_snd system.nodes (name :: parent) fun _ node => node.withContent []

@[simp]
theorem names_emptied (directory : Location) :
    system.emptied.names directory = system.names directory := by
  simp only [names, emptied, List.filterMap_map]
  refine List.filterMap_congr fun ⟨place, node⟩ _ => ?_
  cases place <;> rfl

@[simp]
theorem listing_emptied (directory : Location) :
    system.emptied.listing directory = system.listing directory := by
  rw [listing, names_emptied]
  rfl

@[simp]
theorem reachLimit_emptied : system.emptied.reachLimit = system.reachLimit := by
  simp only [reachLimit, height, emptied, List.foldr_map, List.length_map]

theorem follow_emptied (jump : Location → List (List Char) → Except FileFault Location)
    (location : Location) (pieces : List (List Char)) :
    system.emptied.follow jump location pieces = system.follow jump location pieces := by
  induction pieces generalizing location with
  | nil => rfl
  | cons piece rest induction =>
      simp only [follow, node?_emptied, induction]
      cases system.node? location with
      | none => rfl
      | some node =>
          cases node with
          | file content => rfl
          | link target => rfl
          | directory =>
              cases Path.component? piece with
              | none => rfl
              | some component =>
                  cases component with
                  | root => rfl
                  | current => rfl
                  | parent => rfl
                  | entry name =>
                      simp only [Option.map_some, FileNode.withContent]
                      cases system.node? (name :: location) with
                      | none => rfl
                      | some node => cases node <;> rfl

theorem resolve_emptied (links : Nat) (location : Location) (pieces : List (List Char)) :
    system.emptied.resolve links location pieces = system.resolve links location pieces := by
  induction links generalizing location pieces with
  | zero => exact system.follow_emptied _ location pieces
  | succ links induction =>
      have jumps : system.emptied.resolve links = system.resolve links :=
        funext fun location => funext fun pieces => induction location pieces
      rw [resolve, resolve, jumps]
      exact system.follow_emptied _ location pieces

@[simp]
theorem locate_emptied (path : Path) : system.emptied.locate path = system.locate path := by
  simp only [locate, resolve_emptied]
  rfl

@[simp]
theorem writingPlace_emptied (path : Path) :
    system.emptied.writingPlace path = system.writingPlace path := by
  simp only [writingPlace, locate_emptied, node?_emptied]
  cases system.locate path with
  | error fault => rfl
  | ok location =>
      simp only
      cases system.node? location with
      | none => rfl
      | some node => cases node <;> rfl

theorem filesIn_emptied (limit : Nat) (passed : List Location) (path : Path)
    (directory : Location) :
    system.emptied.filesIn limit passed path directory =
      system.filesIn limit passed path directory := by
  induction limit generalizing passed path directory with
  | zero => rfl
  | succ limit induction =>
      simp only [filesIn, listing_emptied, locate_emptied, node?_emptied, induction, Option.map_map]
      cases system.listing directory with
      | error fault => rfl
      | ok names =>
          refine List.flatMap_congr fun name _ => ?_
          cases system.locate (path.child name) with
          | error fault => rfl
          | ok location =>
              simp only
              cases system.node? location with
              | none => rfl
              | some node =>
                  cases node with
                  | file content => rfl
                  | link target => rfl
                  | directory => simp [Function.comp_def]

@[simp]
theorem filesFrom_emptied (path : Path) :
    system.emptied.filesFrom path = system.filesFrom path := by
  simp only [filesFrom, locate_emptied, node?_emptied, listing_emptied, filesIn_emptied,
    reachLimit_emptied]
  cases system.locate path with
  | error fault => rfl
  | ok location =>
      simp only
      cases system.node? location with
      | none => rfl
      | some node => cases node <;> rfl

/-! ## Files with another content -/

@[simp]
theorem emptied_overwrite (location : Location) (content : List UInt8) :
    (system.overwrite location content).emptied = system.emptied := by
  simp only [emptied, overwrite, List.map_map, FileSystem.mk.injEq, List.map_inj_left, and_true]
  intro ⟨place, node⟩ _
  simp only [Function.comp_apply]
  split
  · rw [FileNode.withContent_withContent]
  · rfl

theorem node?_overwrite (location other : Location) (content : List UInt8) :
    (system.overwrite location content).node? other =
      if other = location then (system.node? other).map (·.withContent content)
      else system.node? other := by
  have changed : (system.overwrite location content).node? other = (system.node? other).map
      fun node => if other = location then node.withContent content else node := by
    cases other with
    | nil => cases location <;> rfl
    | cons name parent =>
        exact lookup_map_snd system.nodes (name :: parent) fun place node =>
          if place = location then node.withContent content else node
  rw [changed]
  split
  · rfl
  · simp

theorem node?_overwrite_of_ne {location other : Location} (content : List UInt8)
    (different : other ≠ location) :
    (system.overwrite location content).node? other = system.node? other := by
  rw [node?_overwrite, if_neg different]

/-- Give files other contents, one after another. -/
def overwriteAll (changes : List (Location × List UInt8)) : FileSystem :=
  changes.foldl (fun system (location, content) => system.overwrite location content) system

@[simp]
theorem overwriteAll_nil : system.overwriteAll [] = system := rfl

@[simp]
theorem overwriteAll_cons (location : Location) (content : List UInt8)
    (rest : List (Location × List UInt8)) :
    system.overwriteAll ((location, content) :: rest) =
      (system.overwrite location content).overwriteAll rest := rfl

theorem overwriteAll_append (first second : List (Location × List UInt8)) :
    system.overwriteAll (first ++ second) = (system.overwriteAll first).overwriteAll second :=
  List.foldl_append

@[simp]
theorem emptied_overwriteAll (changes : List (Location × List UInt8)) :
    (system.overwriteAll changes).emptied = system.emptied := by
  induction changes generalizing system with
  | nil => rfl
  | cons change rest induction => exact (induction _).trans (system.emptied_overwrite ..)

theorem node?_overwriteAll_of_notMem {changes : List (Location × List UInt8)}
    {location : Location} (untouched : location ∉ changes.map Prod.fst) :
    (system.overwriteAll changes).node? location = system.node? location := by
  induction changes generalizing system with
  | nil => rfl
  | cons change rest induction =>
      rw [List.map_cons, List.mem_cons, not_or] at untouched
      exact (induction _ untouched.2).trans (system.node?_overwrite_of_ne _ untouched.1)

theorem node?_overwriteAll_congr {other : FileSystem} {location : Location}
    (same : other.node? location = system.node? location)
    (changes : List (Location × List UInt8)) :
    (other.overwriteAll changes).node? location = (system.overwriteAll changes).node? location := by
  induction changes generalizing system other with
  | nil => exact same
  | cons change rest induction =>
      refine induction _ ?_
      rw [node?_overwrite, node?_overwrite, same]

theorem node?_overwriteAll_of_mem {changes : List (Location × List UInt8)}
    (distinct : (changes.map Prod.fst).Nodup) {location : Location} {content : List UInt8}
    (member : (location, content) ∈ changes) :
    (system.overwriteAll changes).node? location =
      (system.node? location).map (·.withContent content) := by
  induction changes generalizing system with
  | nil => cases member
  | cons change rest induction =>
      rcases List.nodup_cons.mp distinct with ⟨fresh, distinct⟩
      rcases List.mem_cons.mp member with equal | member
      · subst change
        rw [overwriteAll_cons, node?_overwriteAll_of_notMem _ fresh, node?_overwrite, if_pos rfl]
      · have different : location ≠ change.1 := by
          rintro rfl
          exact fresh (List.mem_map.mpr ⟨_, member, rfl⟩)
        exact (induction _ distinct member).trans
          (congrArg _ (system.node?_overwrite_of_ne _ different))

section

variable {system} {other : FileSystem} (tree : other.emptied = system.emptied)
include tree

theorem locate_eq (path : Path) : other.locate path = system.locate path := by
  rw [← locate_emptied, tree, locate_emptied]

theorem writingPlace_eq (path : Path) : other.writingPlace path = system.writingPlace path := by
  rw [← writingPlace_emptied, tree, writingPlace_emptied]

/-- Reading shows only the content of the file that the path names. -/
theorem readText_eq {path : Path} (same : ∀ location, system.locate path = .ok location →
      other.node? location = system.node? location) :
    other.readText path = system.readText path := by
  have rights : other.unreadable = system.unreadable := congrArg (·.unreadable) tree
  rw [readText, readText, locate_eq tree, rights]
  cases found : system.locate path with
  | error fault => rfl
  | ok location => simp only [same location found]

end

/-! ## Writing -/

theorem exists_writeText_iff {path : Path} {text : String} :
    (∃ after, system.writeText path text = .ok after) ↔
      ∃ location, system.writingPlace path = .ok location := by
  rw [writeText]
  cases system.writingPlace path <;> simp [Except.map]

theorem exists_content_of_writingPlace {path : Path} {location : Location}
    (found : system.writingPlace path = .ok location) :
    system.locate path = .ok location ∧
      ∃ content, system.node? location = some (.file content) := by
  rw [writingPlace] at found
  cases located : system.locate path with
  | error fault => simp [located] at found
  | ok place =>
      simp only [located] at found
      cases there : system.node? place with
      | none => simp [there] at found
      | some node =>
          cases node with
          | link target => simp [there] at found
          | directory => simp [there] at found
          | file content =>
              simp only [there] at found
              split at found
              · cases found
              · rcases Except.ok.inj found with rfl
                exact ⟨rfl, content, there⟩

end FileSystem
end IconSize.Files
