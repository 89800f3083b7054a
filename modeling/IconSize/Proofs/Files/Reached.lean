import IconSize.Proofs.Files.Ways
import Mathlib.Tactic.Ring

/-!
Which files are reached from a path. A file is reached through entries: each is a file, where the
way ends, or a directory to go on from, unless it is a link to a directory that the way has passed.
Looking for files with a limit finds exactly what is reached, for on every step either the way
passes a directory for the first time or it gets farther from the root.
-/

namespace IconSize.Files

/-! ## Paths of entries -/

/-- A name that an entry of a directory can have: it is one component, and no slash is in it. -/
def IsEntryName (name : String) : Prop :=
  Path.component? name.toList = some (.entry name) ∧ '/' ∉ name.toList

instance (name : String) : Decidable (IsEntryName name) := inferInstanceAs (Decidable (_ ∧ _))

namespace Path

theorem pieces_ne_nil (path : Path) : path.pieces ≠ [] := by
  rw [pieces]
  cases path.spelling.toList with
  | nil => simp
  | cons => rw [List.foldr_cons]; split <;> simp

/-- A slash divides the pieces before it from those behind it. -/
theorem pieces_slash (front back : String) :
    (Path.mk (front ++ "/" ++ back)).pieces = (Path.mk front).pieces ++ (Path.mk back).pieces := by
  have slash : (front ++ "/" ++ back).toList = front.toList ++ '/' :: back.toList := by simp
  simp only [pieces, slash, List.foldr_append, List.foldr_cons]
  generalize back.toList.foldr _ [[]] = behind
  induction front.toList with
  | nil => rfl
  | cons character text induction =>
      have before := pieces_ne_nil ⟨String.ofList text⟩
      rw [pieces, String.toList_ofList] at before
      rw [List.foldr_cons, List.foldr_cons, induction]
      rcases List.exists_cons_of_ne_nil before with ⟨piece, pieces, split⟩
      rw [split]
      by_cases same : character = '/' <;> simp [same]

theorem pieces_of_slashless {name : String} (slashless : '/' ∉ name.toList) :
    (Path.mk name).pieces = [name.toList] := by
  simp only [pieces]
  generalize name.toList = text at slashless
  induction text with
  | nil => rfl
  | cons character text induction =>
      rw [List.mem_cons, not_or] at slashless
      rw [List.foldr_cons, induction slashless.2]
      simp [Ne.symm slashless.1]

/-- A path that is empty up to its first slash goes on behind that. -/
theorem exists_pieces_of_empty_first {path : Path} (nonempty : path.spelling ≠ "")
    {rest : List (List Char)} (split : path.pieces = [] :: rest) : rest ≠ [] := by
  rintro rfl
  rw [pieces] at split
  cases spelled : path.spelling.toList with
  | nil => exact nonempty (String.toList_eq_nil_iff.mp spelled)
  | cons character text =>
      have others := pieces_ne_nil ⟨String.ofList text⟩
      rw [pieces, String.toList_ofList] at others
      rw [spelled, List.foldr_cons] at split
      split at split <;> simp_all

/-- A piece at the end of a path adds its component. -/
theorem components_of_last {path longer : Path} {last : List Char} (nonempty : path.spelling ≠ "")
    (split : longer.pieces = path.pieces ++ [last]) :
    longer.components = path.components ++ (component? last).toList := by
  have joined (pieces : List (List Char)) : (pieces ++ [last]).filterMap component? =
      pieces.filterMap component? ++ (component? last).toList := by
    rw [List.filterMap_append, List.filterMap_cons, List.filterMap_nil]
    cases component? last <;> rfl
  rcases List.exists_cons_of_ne_nil path.pieces_ne_nil with ⟨first, rest, pieces⟩
  rw [components, components, split, pieces]
  by_cases dot : first = ['.']
  · subst dot
    exact congrArg (Component.current :: ·) (joined rest)
  by_cases empty : first = []
  · subst empty
    rcases List.exists_cons_of_ne_nil (exists_pieces_of_empty_first nonempty pieces)
      with ⟨second, others, rfl⟩
    exact congrArg (Component.root :: ·) (joined (second :: others))
  · simpa [dot, empty] using joined (first :: rest)

theorem components_child {path : Path} {name : String} (nonempty : path.spelling ≠ "")
    (entry : IsEntryName name) :
    (path.child name).components = path.components ++ [.entry name] := by
  rcases entry with ⟨named, slashless⟩
  have below (front : String) : (Path.mk (front ++ "/" ++ name)).pieces =
      (Path.mk front).pieces ++ [name.toList] := by
    rw [pieces_slash, pieces_of_slashless slashless]
  rw [child]
  by_cases slash : path.spelling.toList.getLast? = some '/'
  · obtain ⟨front, spelled⟩ : ∃ front, path.spelling = front ++ "/" := by
      rcases List.getLast?_eq_some_iff.mp slash with ⟨front, spelled⟩
      exact ⟨String.ofList front, String.toList_injective (by simp [spelled])⟩
    obtain rfl : path = ⟨front ++ "/"⟩ := congrArg Path.mk spelled
    have ends : (Path.mk (front ++ "/")).pieces = (Path.mk front).pieces ++ [[]] := by
      rw [← String.append_empty (s := front ++ "/"), pieces_slash]
      rfl
    rw [if_pos (by simp)]
    by_cases top : front = ""
    · subst top
      rw [components, components, below, ends]
      simp [pieces, named]
    · rw [components_of_last top (below front), components_of_last top ends, named]
      simp
  · rw [if_neg (by simpa [slash] using nonempty), components_of_last nonempty (below _), named]
    rfl

end Path

namespace FileSystem

/-- All names of the file system are such as entries can have. -/
def IsProper (system : FileSystem) : Prop :=
  ∀ entry ∈ system.nodes, ∀ name ∈ entry.1, IsEntryName name

instance (system : FileSystem) : Decidable system.IsProper :=
  inferInstanceAs (Decidable (∀ entry ∈ system.nodes, ∀ name ∈ entry.1, IsEntryName name))

/-- The directory may be listed, and the entry is in it. -/
def Lists (system : FileSystem) (directory : Location) (name : String) : Prop :=
  ∃ names, system.listing directory = .ok names ∧ name ∈ names

def HasLink (system : FileSystem) (location : Location) : Prop :=
  ∃ target, system.node? location = some (.link target)

/-! ## Ways to files -/

/-- From a directory, which the way to it names by a path, a file is reached under another path. The
way has passed the given locations before. -/
inductive Reaches (system : FileSystem) : List Location → Path → Location → Path → Prop where
  | file {passed : List Location} {path : Path} {directory location : Location} {name : String}
      {content : List UInt8} (listed : system.Lists directory name)
      (located : system.locate (path.child name) = .ok location)
      (found : system.node? location = some (.file content)) :
      system.Reaches passed path directory (path.child name)
  /-- A link is not followed back to a directory that the way has passed. -/
  | further {passed : List Location} {path reached : Path} {directory location : Location}
      {name : String} (listed : system.Lists directory name)
      (located : system.locate (path.child name) = .ok location)
      (found : system.node? location = some .directory)
      (onward : system.HasLink (name :: directory) → location ∉ directory :: passed)
      (way : system.Reaches (directory :: passed) (path.child name) location reached) :
      system.Reaches passed path directory reached

/-- From a root a file is reached: the root names it, or it is reached below the root. -/
inductive ReachesFrom (system : FileSystem) (root : Path) : Path → Prop where
  | here {location : Location} {content : List UInt8} (located : system.locate root = .ok location)
      (found : system.node? location = some (.file content)) : system.ReachesFrom root root
  | below {location : Location} {reached : Path} (located : system.locate root = .ok location)
      (noFile : ∀ content, system.node? location ≠ some (.file content))
      (way : system.Reaches [] root location reached) : system.ReachesFrom root reached

variable {system : FileSystem} {passed : List Location} {path reached : Path}
  {directory location : Location} {name : String}

theorem hasLink_iff : system.HasLink location ↔
    ((system.node? location).map FileNode.isLink).getD false = true := by
  unfold HasLink
  rcases system.node? location with _ | node
  · simp
  · cases node <;> simp [FileNode.isLink]

theorem reaches_of_mem_filesIn {limit : Nat}
    (member : reached ∈ system.filesIn limit passed path directory) :
    system.Reaches passed path directory reached := by
  induction limit generalizing passed path directory with
  | zero => cases member
  | succ limit induction =>
      rw [filesIn] at member
      split at member
      · cases member
      · rename_i names listing
        rcases List.mem_flatMap.mp member with ⟨name, entry, member⟩
        have listed : system.Lists directory name := ⟨names, listing, entry⟩
        simp only at member
        split at member
        · cases member
        · rename_i location located
          split at member
          · rename_i content found
            rcases List.mem_singleton.mp member with rfl
            exact .file listed located found
          · rename_i found
            split at member
            · cases member
            · rename_i back
              refine .further listed located found (fun linked passes => back ?_) (induction member)
              rw [Bool.and_eq_true, ← hasLink_iff]
              exact ⟨linked, List.contains_iff_mem.mpr passes⟩
          · cases member

/-! ## Where an entry leads -/

theorem lists_iff : system.Lists directory name ↔
    directory ∉ system.unreadable ∧ ∃ node, (name :: directory, node) ∈ system.nodes := by
  have entries : name ∈ system.names directory ↔
      ∃ node, (name :: directory, node) ∈ system.nodes := by
    rw [names, List.mem_filterMap]
    constructor
    · rintro ⟨⟨place, node⟩, member, same⟩
      cases place with
      | nil => cases same
      | cons first parent =>
          simp only [Option.ite_none_right_eq_some, Option.some.injEq] at same
          rcases same with ⟨rfl, rfl⟩
          exact ⟨node, member⟩
    · rintro ⟨node, member⟩
      exact ⟨_, member, by simp⟩
  rw [← entries, Lists, listing]
  by_cases closed : directory ∈ system.unreadable <;> simp [closed]

theorem Lists.isEntryName (listed : system.Lists directory name) (proper : system.IsProper) :
    IsEntryName name := by
  rcases lists_iff.mp listed with ⟨-, node, member⟩
  exact proper _ member name List.mem_cons_self

theorem spelling_ne_empty_of_locate (located : system.locate path = .ok location) :
    path.spelling ≠ "" := by
  intro empty
  simp [locate, empty] at located

/-- The path of an entry leads from the directory through the name of the entry. -/
theorem leads_of_locate_child (proper : system.IsProper)
    (arrived : system.locate path = .ok directory) (listed : system.Lists directory name)
    (located : system.locate (path.child name) = .ok location) :
    system.Leads directory [.entry name] location := by
  have way := leads_of_locate located
  rw [Path.components_child (spelling_ne_empty_of_locate arrived) (listed.isEntryName proper)]
    at way
  rcases way.split with ⟨middle, first, last⟩
  exact first.unique (leads_of_locate arrived) ▸ last

/-- An entry that is no link is where its name says. -/
theorem eq_of_locate_child (proper : system.IsProper)
    (arrived : system.locate path = .ok directory) (listed : system.Lists directory name)
    (located : system.locate (path.child name) = .ok location)
    (plain : ¬ system.HasLink (name :: directory)) : location = name :: directory := by
  cases leads_of_locate_child proper arrived listed located with
  | entry _ _ further =>
      cases further
      rfl
  | link found _ => exact absurd ⟨_, found⟩ plain

/-! ## The limit -/

/-- The locations of all nodes, and that of the root. -/
def places (system : FileSystem) : List Location := [] :: system.nodes.map Prod.fst

theorem mem_places {node : FileNode} (found : system.node? location = some node) :
    location ∈ system.places := by
  cases location with
  | nil => exact List.mem_cons_self
  | cons name parent =>
      rcases List.lookup_eq_some_iff.mp found with ⟨front, back, split, -⟩
      exact List.mem_cons_of_mem _ (List.mem_map.mpr ⟨(name :: parent, node), by simp [split], rfl⟩)

theorem length_le_height (member : location ∈ system.places) :
    location.length ≤ system.height := by
  rcases List.mem_cons.mp member with rfl | member
  · exact Nat.zero_le _
  · rw [height]
    generalize system.nodes = nodes at member
    induction nodes with
    | nil => cases member
    | cons first rest induction =>
        rw [List.foldr_cons]
        rcases List.mem_cons.mp member with rfl | member
        · exact Nat.le_max_left ..
        · exact (induction member).trans (Nat.le_max_right ..)

/-- How many locations the way has not passed. -/
def unpassed (system : FileSystem) (passed : List Location) : Nat :=
  system.places.countP fun place => !passed.contains place

/-- How much longer a way can get that has come to a directory. -/
def remaining (system : FileSystem) (passed : List Location) (directory : Location) : Nat :=
  system.unpassed (directory :: passed) * (system.height + 1)
    + (system.height - directory.length)

theorem countP_unpassed_le (place : Location) (passed places : List Location) :
    places.countP (fun other => !(place :: passed).contains other) ≤
      places.countP fun other => !passed.contains other :=
  List.countP_mono_left fun other _ => by simp +contextual

theorem unpassed_cons_lt {place : Location} (member : place ∈ system.places)
    (fresh : place ∉ passed) : system.unpassed (place :: passed) < system.unpassed passed := by
  rcases List.append_of_mem member with ⟨front, back, split⟩
  have before := countP_unpassed_le place passed front
  have after := countP_unpassed_le place passed back
  rw [unpassed, unpassed, split, List.countP_append, List.countP_append,
    List.countP_cons_of_neg (by simp), List.countP_cons_of_pos (by simpa using fresh)]
  omega

/-- Each step leaves less to go. -/
theorem remaining_lt (proper : system.IsProper) (arrived : system.locate path = .ok directory)
    (listed : system.Lists directory name)
    (located : system.locate (path.child name) = .ok location)
    (found : system.node? location = some .directory)
    (onward : system.HasLink (name :: directory) → location ∉ directory :: passed) :
    system.remaining (directory :: passed) location < system.remaining passed directory := by
  have member := mem_places found
  have height := length_le_height member
  rw [remaining, remaining]
  by_cases linked : system.HasLink (name :: directory)
  · have fewer := unpassed_cons_lt member (onward linked)
    have product := Nat.mul_le_mul_right (system.height + 1) (Nat.succ_le_of_lt fewer)
    rw [Nat.succ_mul] at product
    omega
  · have fewer : system.unpassed (location :: directory :: passed) ≤
        system.unpassed (directory :: passed) := countP_unpassed_le ..
    have product := Nat.mul_le_mul_right (system.height + 1) fewer
    rw [eq_of_locate_child proper arrived listed located linked, List.length_cons] at height ⊢
    rw [eq_of_locate_child proper arrived listed located linked] at product
    omega

theorem remaining_lt_reachLimit (directory : Location) :
    system.remaining [] directory < system.reachLimit := by
  have fewer : system.unpassed [directory] ≤ system.nodes.length + 1 := by
    have length : system.places.length = system.nodes.length + 1 := by simp [places]
    exact length ▸ List.countP_le_length
  have product := Nat.mul_le_mul_right (system.height + 1) fewer
  have limit : system.reachLimit = (system.nodes.length + 1) * (system.height + 1)
      + (system.nodes.length + system.height + 3) := by
    rw [reachLimit]
    ring
  rw [remaining]
  omega

/-! ## Files that are found -/

theorem mem_filesIn_of_reaches (proper : system.IsProper) {limit : Nat}
    (arrived : system.locate path = .ok directory)
    (enough : system.remaining passed directory < limit)
    (way : system.Reaches passed path directory reached) :
    reached ∈ system.filesIn limit passed path directory := by
  induction way generalizing limit with
  | @file _ _ _ location name content listed located found =>
      rcases Nat.exists_eq_add_of_lt enough with ⟨further, rfl⟩
      rcases listed with ⟨names, listing, entry⟩
      rw [filesIn, listing]
      refine List.mem_flatMap.mpr ⟨name, entry, ?_⟩
      simp [located, found]
  | @further passed _ _ directory location name listed located found onward way induction =>
      have less := remaining_lt proper arrived listed located found onward
      rcases Nat.exists_eq_add_of_lt enough with ⟨further, rfl⟩
      have inside := @induction (system.remaining passed directory + further) located (by omega)
      rcases listed with ⟨names, listing, entry⟩
      rw [filesIn, listing]
      refine List.mem_flatMap.mpr ⟨name, entry, ?_⟩
      have goesOn : ¬((((system.node? (name :: directory)).map FileNode.isLink).getD false) &&
          (directory :: passed).contains location) = true := by
        rw [Bool.and_eq_true, ← hasLink_iff, List.contains_iff_mem]
        exact fun back => onward back.1 back.2
      simp only [located, found]
      rwa [if_neg goesOn]

/-- The files that are found from a root are those that are reached from it. -/
theorem mem_filesFrom_iff (proper : system.IsProper) {root : Path} :
    (∃ paths, system.filesFrom root = .ok paths ∧ reached ∈ paths) ↔
      system.ReachesFrom root reached := by
  constructor
  · rintro ⟨paths, walked, member⟩
    rw [filesFrom] at walked
    split at walked
    · cases walked
    · rename_i location located
      split at walked
      · rename_i content found
        rcases Except.ok.inj walked with rfl
        rcases List.mem_singleton.mp member with rfl
        exact .here located found
      · rename_i noFile
        split at walked
        · cases walked
        · rcases Except.ok.inj walked with rfl
          exact .below located noFile (reaches_of_mem_filesIn member)
  · rintro (⟨located, found⟩ | @⟨location, _, located, noFile, way⟩)
    · exact ⟨[reached], by simp [filesFrom, located, found], List.mem_singleton_self reached⟩
    · have member := mem_filesIn_of_reaches proper located (remaining_lt_reachLimit location) way
      obtain ⟨names, listing⟩ : ∃ names, system.listing location = .ok names := by
        cases way with
        | file listed | further listed => exact ⟨_, listed.choose_spec.1⟩
      refine ⟨_, ?_, member⟩
      rw [filesFrom, located]
      simp only [listing]

end FileSystem
end IconSize.Files
