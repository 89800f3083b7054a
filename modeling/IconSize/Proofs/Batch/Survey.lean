import IconSize.Batch.Selection
import IconSize.Proofs.Files.Contents
import IconSize.Proofs.Files.Ways

/-!
The files that a batch takes. Each candidate names a regular file, and the candidates ascend
strictly in the order of paths, so no path is there twice. One file may still have several paths,
and then it is taken once for each of them: a dot at the beginning, a step back to a parent and a
link tell the paths of one file apart. Two different paths that part plainly lead to different
files.
-/

namespace IconSize
open Files

/-! ## Files that are reached -/

namespace Files.FileSystem

/-- The path names a regular file. -/
def NamesFile (system : FileSystem) (path : Path) : Prop :=
  ∃ location content, system.locate path = .ok location ∧
    system.node? location = some (.file content)

/-- The paths name different files. -/
def DistinctFiles (system : FileSystem) (paths : List Path) : Prop :=
  (paths.map system.locate).Nodup

instance (system : FileSystem) (paths : List Path) : Decidable (system.DistinctFiles paths) :=
  inferInstanceAs (Decidable (List.Nodup _))

variable {system : FileSystem} {path : Path}

theorem namesFile_of_mem_filesIn {limit : Nat} {passed : List Location} {directory : Path}
    {location : Location} (member : path ∈ system.filesIn limit passed directory location) :
    system.NamesFile path := by
  induction limit generalizing passed directory location with
  | zero => cases member
  | succ limit induction =>
      rw [filesIn] at member
      split at member
      · cases member
      · rcases List.mem_flatMap.mp member with ⟨name, _, member⟩
        simp only at member
        split at member
        · cases member
        · rename_i place located
          split at member
          · rename_i content found
            rcases List.mem_singleton.mp member with rfl
            exact ⟨place, content, located, found⟩
          · split at member
            · cases member
            · exact induction member
          · cases member

theorem namesFile_of_mem_filesFrom {root : Path} {paths : List Path}
    (walked : system.filesFrom root = .ok paths) (member : path ∈ paths) :
    system.NamesFile path := by
  rw [filesFrom] at walked
  split at walked
  · cases walked
  · rename_i location located
    split at walked
    · rename_i content found
      rcases Except.ok.inj walked with rfl
      rcases List.mem_singleton.mp member with rfl
      exact ⟨location, content, located, found⟩
    · split at walked
      · cases walked
      · rcases Except.ok.inj walked with rfl
        exact namesFile_of_mem_filesIn member

end Files.FileSystem

/-! ## Paths in ascending order, each once -/

namespace Files.Path

/-- The path comes before another one. -/
def IsBefore (left right : Path) : Prop := left.compare right = .lt

theorem same_iff {left right : Path} :
    left.same right = true ↔ left.components = right.components := beq_iff_eq

theorem isBefore_of_isUpTo {left right : Path} (upTo : left.isUpTo right = true)
    (apart : ¬ left.same right = true) : left.IsBefore right := by
  rw [same_iff, ← compare_eq_eq_iff] at apart
  rw [isUpTo] at upTo
  rw [IsBefore]
  cases order : left.compare right with
  | lt => rfl
  | eq => exact absurd order apart
  | gt => simp [order] at upTo

theorem IsBefore.of_isUpTo {left middle right : Path} (before : left.IsBefore middle)
    (upTo : middle.isUpTo right = true) : left.IsBefore right :=
  Std.TransCmp.lt_of_lt_of_isLE before upTo

end Files.Path

namespace distinctPlaces

theorem after_sublist (last : Path) (paths : List Path) : (after last paths).Sublist paths := by
  induction paths generalizing last with
  | nil => exact .slnil
  | cons path rest induction =>
      rw [after]
      split
      · exact (induction last).cons path
      · exact (induction path).cons_cons path

/-- Where the paths ascend, what is kept after a path comes strictly after it. -/
theorem pairwise_after {last : Path} {paths : List Path}
    (ascending : (last :: paths).Pairwise fun left right => left.isUpTo right = true) :
    (last :: after last paths).Pairwise Path.IsBefore := by
  induction paths generalizing last with
  | nil => exact List.pairwise_singleton ..
  | cons path rest induction =>
      rcases List.pairwise_cons.mp ascending with ⟨upTo, later⟩
      rw [after]
      split
      · refine induction (List.pairwise_cons.mpr ⟨fun other member => ?_, later.of_cons⟩)
        exact upTo other (List.mem_cons_of_mem path member)
      · rename_i apart
        have before : last.IsBefore path :=
          Path.isBefore_of_isUpTo (upTo path List.mem_cons_self) apart
        refine List.pairwise_cons.mpr ⟨fun other member => ?_, induction later⟩
        rcases List.mem_cons.mp member with rfl | member
        · exact before
        · exact before.of_isUpTo
            (List.rel_of_pairwise_cons later ((after_sublist path rest).subset member))

theorem exists_same_of_mem {last path : Path} {paths : List Path} (member : path ∈ last :: paths) :
    ∃ kept ∈ last :: after last paths, kept.components = path.components := by
  induction paths generalizing last with
  | nil => exact ⟨path, member, rfl⟩
  | cons next rest induction =>
      rcases List.mem_cons.mp member with rfl | member
      · exact ⟨path, List.mem_cons_self, rfl⟩
      · rw [after]
        split
        · rename_i same
          rcases List.mem_cons.mp member with rfl | member
          · exact ⟨last, List.mem_cons_self, Path.same_iff.mp same⟩
          · exact induction (List.mem_cons_of_mem last member)
        · rcases induction member with ⟨kept, among, same⟩
          exact ⟨kept, List.mem_cons_of_mem last among, same⟩

end distinctPlaces

theorem distinctPlaces_sublist (paths : List Path) : (distinctPlaces paths).Sublist paths := by
  cases paths with
  | nil => exact .slnil
  | cons path rest => exact (distinctPlaces.after_sublist path rest).cons_cons path

theorem pairwise_distinctPlaces {paths : List Path}
    (ascending : paths.Pairwise fun left right => left.isUpTo right = true) :
    (distinctPlaces paths).Pairwise Path.IsBefore := by
  cases paths with
  | nil => exact .nil
  | cons path rest => exact distinctPlaces.pairwise_after ascending

theorem exists_mem_distinctPlaces {path : Path} {paths : List Path} (member : path ∈ paths) :
    ∃ kept ∈ distinctPlaces paths, kept.components = path.components := by
  cases paths with
  | nil => cases member
  | cons first rest => exact distinctPlaces.exists_same_of_mem member

/-! ## The survey -/

namespace Selection

variable (selection : Selection)

@[simp]
theorem survey_emptied (system : FileSystem) (roots : List Path) :
    selection.survey system.emptied roots = selection.survey system roots := by
  simp only [survey, filesBelow, FileSystem.filesFrom_emptied]

/-- Which files are taken does not depend on what they hold. -/
theorem survey_eq {system other : FileSystem} (tree : other.emptied = system.emptied)
    (roots : List Path) : selection.survey other roots = selection.survey system roots := by
  rw [← survey_emptied, tree, survey_emptied]

theorem unreadable_survey (system : FileSystem) (roots : List Path) :
    (selection.survey system roots).unreadable.map Prod.fst =
      roots.filter fun root => !(system.filesFrom root).isOk := by
  induction roots with
  | nil => rfl
  | cons root rest induction =>
      simp only [survey] at induction ⊢
      cases walked : system.filesFrom root <;>
        simp [walked, induction, Except.isOk, Except.toBool]

/-- Where the files below the roots are found in order, nothing is left to be sorted. -/
theorem candidates_of_ascending {system : FileSystem} {roots : List Path}
    (ascending : (selection.filesBelow system roots).Pairwise fun left right =>
      left.isUpTo right = true) :
    (selection.survey system roots).candidates =
      distinctPlaces (selection.filesBelow system roots) :=
  congrArg distinctPlaces (List.mergeSort_of_pairwise ascending)

variable {selection} {system : FileSystem} {roots : List Path}

theorem namesFile_of_mem_filesBelow {path : Path}
    (member : path ∈ selection.filesBelow system roots) :
    system.NamesFile path := by
  rcases List.mem_filter.mp member with ⟨reached, _⟩
  rcases List.mem_flatMap.mp reached with ⟨root, _, reached⟩
  split at reached
  · rename_i paths walked
    exact FileSystem.namesFile_of_mem_filesFrom walked reached
  · cases reached

theorem mem_filesBelow_of_mem_candidates {path : Path}
    (member : path ∈ (selection.survey system roots).candidates) :
    path ∈ selection.filesBelow system roots :=
  List.mem_mergeSort.mp ((distinctPlaces_sublist _).subset member)

theorem namesFile_of_mem_candidates {path : Path}
    (member : path ∈ (selection.survey system roots).candidates) : system.NamesFile path :=
  namesFile_of_mem_filesBelow (mem_filesBelow_of_mem_candidates member)

theorem pairwise_candidates : (selection.survey system roots).candidates.Pairwise Path.IsBefore :=
  pairwise_distinctPlaces (List.pairwise_mergeSort Path.isUpTo_trans Path.isUpTo_total _)

theorem candidates_apart : (selection.survey system roots).candidates.Pairwise fun left right =>
    system.PartPlainly left right → system.locate left ≠ system.locate right := by
  apply pairwise_candidates.imp_of_mem
  intro left right leftMember _ before part same
  rcases namesFile_of_mem_candidates leftMember with ⟨location, _, located, _⟩
  have equal := part.components_eq_of_locate_eq located (same ▸ located)
  rw [← Path.compare_eq_eq_iff, before] at equal
  cases equal

theorem distinctFiles_of_linkless
    (linkless : ∀ place target, system.node? place ≠ some (.link target)) {common : List Component}
    (spelled : ∀ path ∈ (selection.survey system roots).candidates, ∃ names : List String,
      path.components = common ++ names.map .entry) :
    system.DistinctFiles (selection.survey system roots).candidates := by
  refine List.pairwise_map.mpr (candidates_apart.imp_of_mem ?_)
  intro left right leftMember rightMember apart
  rcases namesFile_of_mem_candidates leftMember with ⟨_, _, leftLocated, _⟩
  rcases namesFile_of_mem_candidates rightMember with ⟨_, _, rightLocated, _⟩
  rcases spelled left leftMember with ⟨_, leftSpelled⟩
  rcases spelled right rightMember with ⟨_, rightSpelled⟩
  exact apart (FileSystem.partPlainly_of_linkless linkless leftLocated rightLocated leftSpelled
    rightSpelled)

end Selection

/-- Which files a batch takes, and when two of the paths that it takes are one file. -/
structure Selection.Takes (selection : Selection) (system : FileSystem) (roots : List Path)
    (candidates : List Path) : Prop where
  /-- Whatever is found below the roots is taken, in one of its spellings. -/
  complete : ∀ path ∈ selection.filesBelow system roots,
    ∃ candidate ∈ candidates, candidate.components = path.components
  sound : ∀ path ∈ candidates, path ∈ selection.filesBelow system roots ∧ system.NamesFile path
  /-- Each path is taken once, in the order of paths. -/
  ascending : candidates.Pairwise Path.IsBefore
  /-- Two paths are one file if their components lead to one place, and only then. -/
  shared : ∀ left ∈ candidates, ∀ right ∈ candidates,
    system.locate left = system.locate right ↔
      ∃ place, system.Leads system.workingDirectory left.components place ∧
        system.Leads system.workingDirectory right.components place
  /-- Different paths that part plainly are different files. -/
  apart : candidates.Pairwise fun left right =>
    system.PartPlainly left right → system.locate left ≠ system.locate right
  /-- So no file is taken twice where there are no links and all paths begin alike. -/
  linkless : (∀ place target, system.node? place ≠ some (.link target)) →
    ∀ common, (∀ path ∈ candidates, ∃ names : List String,
      path.components = common ++ names.map .entry) →
      system.DistinctFiles candidates

/-- A batch takes each path that it finds once; it takes a file twice only if the ways to it differ
in more than entries. -/
theorem survey_takes_paths_once (selection : Selection) (system : FileSystem) (roots : List Path) :
    selection.Takes system roots (selection.survey system roots).candidates where
  complete path member := exists_mem_distinctPlaces (List.mem_mergeSort.mpr member)
  sound path member :=
    ⟨Selection.mem_filesBelow_of_mem_candidates member,
      Selection.namesFile_of_mem_candidates member⟩
  ascending := Selection.pairwise_candidates
  shared := by
    intro left leftMember right rightMember
    rcases Selection.namesFile_of_mem_candidates leftMember with ⟨_, _, leftLocated, _⟩
    rcases Selection.namesFile_of_mem_candidates rightMember with ⟨_, _, rightLocated, _⟩
    exact FileSystem.locate_eq_locate_iff leftLocated rightLocated
  apart := Selection.candidates_apart
  linkless := fun linkless _ spelled => Selection.distinctFiles_of_linkless linkless spelled

/-- A file that is found below the working directory and given by its name is taken twice. -/
theorem file_taken_once_for_each_spelling :
    (Selection.standard.survey ⟨[(["a.js"], .file [])], [], [], []⟩ [⟨"."⟩, ⟨"a.js"⟩]).candidates =
        [⟨"./a.js"⟩, ⟨"a.js"⟩] ∧
      FileSystem.locate ⟨[(["a.js"], .file [])], [], [], []⟩ ⟨"./a.js"⟩ = .ok ["a.js"] ∧
      FileSystem.locate ⟨[(["a.js"], .file [])], [], [], []⟩ ⟨"a.js"⟩ = .ok ["a.js"] ∧
      ¬ FileSystem.DistinctFiles ⟨[(["a.js"], .file [])], [], [], []⟩
        (Selection.standard.survey ⟨[(["a.js"], .file [])], [], [], []⟩
          [⟨"."⟩, ⟨"a.js"⟩]).candidates := by
  have found : Selection.standard.filesBelow ⟨[(["a.js"], .file [])], [], [], []⟩
      [⟨"."⟩, ⟨"a.js"⟩] = [⟨"./a.js"⟩, ⟨"a.js"⟩] := by decide +kernel
  have taken : (Selection.standard.survey ⟨[(["a.js"], .file [])], [], [], []⟩
      [⟨"."⟩, ⟨"a.js"⟩]).candidates = [⟨"./a.js"⟩, ⟨"a.js"⟩] := by
    rw [Selection.candidates_of_ascending _ (found ▸ by decide +kernel), found]
    decide +kernel
  refine ⟨taken, by decide +kernel, by decide +kernel, ?_⟩
  rw [taken]
  decide +kernel

end IconSize
