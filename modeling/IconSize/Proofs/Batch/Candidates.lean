import IconSize.Proofs.Batch.Survey
import IconSize.Proofs.Files.BrokenLinks
import Mathlib.Data.List.Sort

/-!
The candidates of a batch, exactly: up to their spelling they are the files that are reached from a
root under a path that the selection admits. They ascend strictly, so that they are told by the set
of their components. Neither the order of the roots nor their repetition changes that set, nor do
roots that cannot be walked or links that lead nowhere.
-/

namespace IconSize
open Files

/-! ## Places in order -/

/-- The components of a path that comes before another one. -/
def Precedes (left right : List Component) : Prop :=
  left.compareLex Component.compare right = .lt

instance : Std.Irrefl Precedes where
  irrefl components precedes := by
    have same : components.compareLex Component.compare components = .eq := Std.ReflCmp.compare_self
    exact absurd (same.symm.trans precedes) (by decide)

instance : Std.Antisymm Precedes where
  antisymm _ _ forward backward := absurd backward (Std.OrientedCmp.not_lt_of_lt forward)

/-! ## What is taken -/

namespace Selection

variable (selection : Selection)

/-- The path has one of the extensions, and none of the patterns stands in its spelling. -/
def Admits (path : Path) : Prop :=
  (∃ extension ∈ selection.extensions, path.extension? = some extension) ∧
    ∀ pattern ∈ selection.ignorePatterns, ¬ pattern.toList <:+: path.spelling.toList

variable {selection} {system : FileSystem} {roots : List Path} {path : Path}

theorem accepts_iff : selection.accepts path = true ↔ selection.Admits path := by
  rw [accepts, Bool.and_eq_true, Admits]
  refine and_congr ?_ ?_
  · rw [hasExtension]
    cases path.extension? <;> simp
  · simp [ignores, ← occursIn_iff]

theorem mem_filesBelow_iff (proper : system.IsProper) :
    path ∈ selection.filesBelow system roots ↔
      ∃ root ∈ roots, system.ReachesFrom root path ∧ selection.Admits path := by
  rw [filesBelow, List.mem_filter, accepts_iff, List.mem_flatMap, ← exists_and_right]
  refine exists_congr fun root => ?_
  rw [and_assoc, ← FileSystem.mem_filesFrom_iff proper]
  cases system.filesFrom root <;> simp

/-- Something is taken under some spelling of a place exactly if the place is reached under one that
is admitted. -/
theorem mem_map_components_iff (proper : system.IsProper) {components : List Component} :
    components ∈ (selection.survey system roots).candidates.map Path.components ↔
      ∃ root ∈ roots, ∃ path, system.ReachesFrom root path ∧ selection.Admits path ∧
        path.components = components := by
  rw [List.mem_map]
  constructor
  · rintro ⟨path, member, same⟩
    rcases (mem_filesBelow_iff proper).mp (mem_filesBelow_of_mem_candidates member)
      with ⟨root, listed, reached, admitted⟩
    exact ⟨root, listed, path, reached, admitted, same⟩
  · rintro ⟨root, listed, path, reached, admitted, rfl⟩
    exact exists_mem_distinctPlaces (List.mem_mergeSort.mpr
      ((mem_filesBelow_iff proper).mpr ⟨root, listed, reached, admitted⟩))

theorem pairwise_map_components (selection : Selection) (system : FileSystem)
    (roots : List Path) :
    ((selection.survey system roots).candidates.map Path.components).Pairwise Precedes :=
  List.pairwise_map.mpr pairwise_candidates

/-- Candidates are told by the set of their components. -/
theorem map_components_eq_of_mem_iff {other : FileSystem} {otherRoots : List Path}
    (same : ∀ components,
      components ∈ (selection.survey other otherRoots).candidates.map Path.components ↔
        components ∈ (selection.survey system roots).candidates.map Path.components) :
    (selection.survey other otherRoots).candidates.map Path.components =
      (selection.survey system roots).candidates.map Path.components :=
  List.Pairwise.eq_of_mem_iff (selection.pairwise_map_components other otherRoots)
    (selection.pairwise_map_components system roots) same

/-- A root that cannot be walked adds no file. -/
theorem filesBelow_of_error {front back : List Path} {root : Path} {fault : FileFault}
    (failed : system.filesFrom root = .error fault) :
    selection.filesBelow system (front ++ root :: back) =
      selection.filesBelow system (front ++ back) := by
  simp [filesBelow, failed]

end Selection

/-- The candidates are exactly the files that are reached from the roots under an admitted path,
each place once and in the order of paths. Roots in another order, or repeated, change spellings at
most; roots that cannot be walked and links that lead nowhere take no other file away. -/
theorem candidates_are_admitted_files_reached (selection : Selection) (system : FileSystem)
    (roots : List Path) (proper : system.IsProper) :
    let candidates := (selection.survey system roots).candidates
    candidates.Pairwise Path.IsBefore ∧
      (∀ path ∈ candidates, system.NamesFile path ∧ selection.Admits path ∧
        ∃ root ∈ roots, system.ReachesFrom root path) ∧
      (∀ root ∈ roots, ∀ path, system.ReachesFrom root path → selection.Admits path →
        ∃ candidate ∈ candidates, candidate.components = path.components) ∧
      (∀ others : List Path, (∀ root, root ∈ others ↔ root ∈ roots) →
        (selection.survey system others).candidates.map Path.components =
          candidates.map Path.components) ∧
      (∀ front root back fault, roots = front ++ root :: back →
        system.filesFrom root = .error fault →
        (selection.survey system (front ++ back)).candidates = candidates) ∧
      ∀ place, system.HasBrokenLink place →
        (selection.survey (system.remove place) roots).candidates.map Path.components =
          candidates.map Path.components := by
  intro candidates
  refine ⟨Selection.pairwise_candidates, ?sound, ?complete, ?listing, ?unreadable, ?links⟩
  case sound =>
    intro path member
    rcases (Selection.mem_filesBelow_iff proper).mp
        (Selection.mem_filesBelow_of_mem_candidates member) with ⟨root, listed, reached, admitted⟩
    exact ⟨Selection.namesFile_of_mem_candidates member, admitted, root, listed, reached⟩
  case complete =>
    intro root listed path reached admitted
    exact List.mem_map.mp ((Selection.mem_map_components_iff proper).mpr
      ⟨root, listed, path, reached, admitted, rfl⟩)
  case listing =>
    intro others same
    refine Selection.map_components_eq_of_mem_iff fun components => ?_
    simp only [Selection.mem_map_components_iff proper, same]
  case unreadable =>
    rintro front root back fault rfl failed
    simp only [candidates, Selection.survey, Selection.filesBelow_of_error failed]
  case links =>
    intro place broken
    refine Selection.map_components_eq_of_mem_iff fun components => ?_
    simp only [Selection.mem_map_components_iff proper,
      Selection.mem_map_components_iff (FileSystem.isProper_remove proper place),
      FileSystem.reachesFrom_remove_iff proper broken]

/-- A directory with a file and a link back, a link to the file, and one that leads nowhere. -/
private def directoryWithLinks : FileSystem :=
  ⟨[(["d"], .directory), (["b.ts", "d"], .file []), (["up", "d"], .link ⟨".."⟩),
    (["c.ts"], .link ⟨"d/b.ts"⟩), (["x.ts"], .link ⟨"none"⟩)], [], [], []⟩

/-- The file is taken under its own path and under that of the link. A second root that does not
exist and the link that leads nowhere change nothing. -/
theorem links_followed_or_passed_over :
    directoryWithLinks.IsProper ∧
      (∀ path ∈ [Files.Path.mk "./d/b.ts", ⟨"./c.ts"⟩],
        ∃ candidate ∈ (Selection.standard.survey directoryWithLinks [⟨"."⟩]).candidates,
          candidate.components = path.components) ∧
      (Selection.standard.survey directoryWithLinks [⟨"."⟩]).candidates =
        (Selection.standard.survey directoryWithLinks [⟨"."⟩, ⟨"y"⟩]).candidates ∧
      directoryWithLinks.HasBrokenLink ["x.ts"] ∧
      (Selection.standard.survey (directoryWithLinks.remove ["x.ts"])
          [⟨"."⟩]).candidates.map Path.components =
        (Selection.standard.survey directoryWithLinks [⟨"."⟩]).candidates.map Path.components := by
  have proper : directoryWithLinks.IsProper := by decide +kernel
  have walked : directoryWithLinks.filesFrom ⟨"."⟩ = .ok [⟨"./d/b.ts"⟩, ⟨"./c.ts"⟩] := by
    decide +kernel
  have missing : directoryWithLinks.filesFrom ⟨"y"⟩ = .error .notFound := by decide +kernel
  have broken : directoryWithLinks.HasBrokenLink ["x.ts"] := by
    refine ⟨⟨"none"⟩, rfl, fun last way => ?_⟩
    have spelled : (Files.Path.mk "none").components = [.entry "none"] := by decide +kernel
    rw [spelled] at way
    cases way with
    | entry found | link found => cases found
  rcases candidates_are_admitted_files_reached .standard directoryWithLinks [⟨"."⟩] proper
    with ⟨-, -, complete, -, -, links⟩
  rcases candidates_are_admitted_files_reached .standard directoryWithLinks [⟨"."⟩, ⟨"y"⟩] proper
    with ⟨-, -, -, -, unreadable, -⟩
  refine ⟨proper, fun path member => ?_, unreadable [⟨"."⟩] ⟨"y"⟩ [] .notFound rfl missing, broken,
    links ["x.ts"] broken⟩
  have admitted : ∀ path ∈ [Files.Path.mk "./d/b.ts", ⟨"./c.ts"⟩],
      Selection.standard.accepts path = true := by decide +kernel
  exact complete ⟨"."⟩ List.mem_cons_self path
    ((FileSystem.mem_filesFrom_iff proper).mp ⟨_, walked, member⟩)
    (Selection.accepts_iff.mp (admitted path member))

end IconSize
