import IconSize.Batch.Run
import IconSize.Proofs.Batch.Survey
import Mathlib.Data.List.Forall2
import Mathlib.Data.List.Nodup

/-!
A batch works on each file by itself. Where the paths name different files, what is told about a
file and what is written to it depends on that file alone, as it was before the batch: a file
written earlier is another one, and reading shows only the file that is read. So the reports are
those of runs on one file each, and the contents afterwards are those before with one change for
each changed file.
-/

namespace IconSize
open Files Text

/-! ## Counts -/

namespace Summary

theorem count_tally (summary : Summary) (report : FileReport) (status : FileStatus) :
    (summary.tally report).count status =
      summary.count status + if report.status == status then 1 else 0 := by
  cases found : report.status <;> cases status <;> simp [tally, count, found]

theorem count_foldl_tally (reports : List FileReport) (summary : Summary) (status : FileStatus) :
    (reports.foldl tally summary).count status =
      summary.count status + reports.countP (·.status == status) := by
  induction reports generalizing summary with
  | nil => rfl
  | cons report rest induction =>
      rw [List.foldl_cons, induction, count_tally, List.countP_cons]
      omega

theorem count_ofReports (reports : List FileReport) (status : FileStatus) :
    (ofReports reports).count status = reports.countP (·.status == status) := by
  have counted := count_foldl_tally reports ⟨0, 0, 0, []⟩ status
  cases status <;> simpa [ofReports, count] using counted

theorem counts_add_up (reports : List FileReport) :
    (ofReports reports).changed + (ofReports reports).unchanged + (ofReports reports).failed =
      reports.length := by
  have changed := count_ofReports reports .changed
  have unchanged := count_ofReports reports .unchanged
  have failed := count_ofReports reports .failed
  simp only [count] at changed unchanged failed
  rw [changed, unchanged, failed]
  clear changed unchanged failed
  induction reports with
  | nil => rfl
  | cons report rest induction =>
      simp only [List.countP_cons, List.length_cons]
      cases report.status <;> simp <;> omega

theorem hasFailures_iff (reports : List FileReport) :
    (ofReports reports).hasFailures = true ↔ ∃ report ∈ reports, report.status = .failed := by
  have failed := count_ofReports reports .failed
  simp only [count] at failed
  simp [hasFailures, failed, List.countP_pos_iff]

end Summary

theorem FileReport.status_of_eq_changed_iff {keepOutput : Bool} {path : Path}
    {result : Except BatchError TransformOutput} :
    (FileReport.of keepOutput path result).status = .changed ↔
      ∃ output, result = .ok output ∧ output.changed = true := by
  cases result with
  | error error => simp [of, status, Except.map]
  | ok output => simp [of, status, Except.map]

/-! ## One file -/

namespace BatchConfig

/-- What is written where once the work on a file has ended with a result. -/
def changeFor (config : BatchConfig) (system : FileSystem) (path : Path) :
    Except BatchError TransformOutput → Option (Location × List UInt8)
  | .error _ => none
  | .ok output =>
    if output.changed && !config.dryRun then
      (system.writingPlace path).toOption.map fun location => (location, encode output.code)
    else none

/-- What the work on a file writes. -/
def change (config : BatchConfig) (system : FileSystem) (path : Path) :
    Option (Location × List UInt8) :=
  config.changeFor system path (config.runFile path system).1

/-- The report on a file that is worked on by itself. -/
def reportOn (config : BatchConfig) (keepOutput : Bool) (system : FileSystem) (path : Path) :
    FileReport :=
  .of keepOutput path (config.runFile path system).1

variable (config : BatchConfig)

theorem locate_of_changeFor {system : FileSystem} {path : Path}
    {result : Except BatchError TransformOutput} {location : Location} {content : List UInt8}
    (written : config.changeFor system path result = some (location, content)) :
    system.locate path = .ok location := by
  cases result with
  | error error => cases written
  | ok output =>
      rw [changeFor] at written
      split at written
      · cases found : system.writingPlace path with
        | error fault => simp [found, Except.toOption] at written
        | ok place =>
            simp only [found, Except.toOption, Option.map_some, Option.some.injEq,
              Prod.mk.injEq] at written
            rw [← written.1]
            exact (system.exists_content_of_writingPlace found).1
      · cases written

/-- Storing an output writes what its result tells, and nothing else. -/
theorem store_snd (path : Path) (output : TransformOutput) (system : FileSystem) :
    (config.store path output system).2 =
      system.overwriteAll
        (config.changeFor system path (config.store path output system).1).toList := by
  rw [store]
  split
  · rename_i writes
    rw [FileSystem.writeText]
    cases found : system.writingPlace path with
    | error fault => rfl
    | ok location =>
        simp only [Except.map, changeFor, writes, if_true, found, Except.toOption]
        rfl
  · rename_i writes
    simp only [changeFor, writes]
    rfl

theorem runFile_snd (path : Path) (system : FileSystem) :
    (config.runFile path system).2 =
      system.overwriteAll (config.change system path).toList := by
  rw [change, runFile]
  cases config.examine path system with
  | error error => rfl
  | ok output => exact config.store_snd path output system

variable {config} in
theorem runFile_fst_eq_ok_iff {path : Path} {system : FileSystem} {output : TransformOutput} :
    (config.runFile path system).1 = .ok output ↔
      ∃ source, system.readText path = .ok source ∧
        transformFile path source config.options = .ok output ∧
        (output.changed = true → config.dryRun = false →
          ∃ location, system.writingPlace path = .ok location) := by
  rw [runFile, examine]
  cases system.readText path with
  | error fault => simp
  | ok source =>
      simp only
      cases transformed : transformFile path source config.options with
      | error error => simp [transformed]
      | ok written =>
          simp only [store, FileSystem.writeText]
          cases system.writingPlace path with
          | error fault =>
              cases changed : written.changed <;> cases dry : config.dryRun <;>
                simp [Except.map, transformed] <;> rintro rfl <;> simp [changed]
          | ok location =>
              cases written.changed <;> cases config.dryRun <;> simp [Except.map, transformed]

section

variable {config} {system other : FileSystem} (tree : other.emptied = system.emptied)
include tree

theorem store_fst_eq (path : Path) (output : TransformOutput) :
    (config.store path output other).1 = (config.store path output system).1 := by
  simp only [store, FileSystem.writeText, FileSystem.writingPlace_eq tree]
  split
  · cases system.writingPlace path <;> rfl
  · rfl

theorem changeFor_eq (path : Path) (result : Except BatchError TransformOutput) :
    config.changeFor other path result = config.changeFor system path result := by
  cases result with
  | error error => rfl
  | ok output => rw [changeFor, changeFor, FileSystem.writingPlace_eq tree]

variable {path : Path} (same : ∀ location, system.locate path = .ok location →
  other.node? location = system.node? location)
include same

theorem examine_eq : config.examine path other = config.examine path system := by
  rw [examine, examine, FileSystem.readText_eq tree same]

theorem runFile_fst_eq : (config.runFile path other).1 = (config.runFile path system).1 := by
  rw [runFile, runFile, examine_eq tree same]
  cases config.examine path system with
  | error error => rfl
  | ok output => exact store_fst_eq tree path output

theorem change_eq : config.change other path = config.change system path := by
  rw [change, change, runFile_fst_eq tree same, changeFor_eq tree]

end

/-! ## All files -/

theorem notMem_change_of_ne {system : FileSystem} {path : Path} {location : Location}
    (elsewhere : system.locate path ≠ .ok location) :
    location ∉ (config.change system path).toList.map Prod.fst := by
  intro touched
  rcases List.mem_map.mp touched with ⟨⟨place, content⟩, written, rfl⟩
  exact elsewhere (config.locate_of_changeFor (Option.mem_toList.mp written))

/-- The files are worked on as if each of them were the only one. -/
theorem runFiles_eq_of_tree (keepOutput : Bool) {system : FileSystem} {paths : List Path}
    (distinct : system.DistinctFiles paths) {other : FileSystem}
    (tree : other.emptied = system.emptied)
    (same : ∀ path ∈ paths, ∀ location, system.locate path = .ok location →
      other.node? location = system.node? location) :
    config.runFiles keepOutput paths other =
      (paths.map (config.reportOn keepOutput system),
        other.overwriteAll (paths.filterMap (config.change system))) := by
  induction paths generalizing other with
  | nil => rfl
  | cons path rest induction =>
      rcases List.nodup_cons.mp distinct with ⟨apart, distinct⟩
      have here := same path List.mem_cons_self
      have after : (config.runFile path other).2 =
          other.overwriteAll (config.change system path).toList := by
        rw [runFile_snd, change_eq tree here]
      have laterTree : (config.runFile path other).2.emptied = system.emptied := by
        rw [after, FileSystem.emptied_overwriteAll, tree]
      have laterSame : ∀ further ∈ rest, ∀ location, system.locate further = .ok location →
          (config.runFile path other).2.node? location = system.node? location := by
        intro further member location located
        rw [after, FileSystem.node?_overwriteAll_of_notMem,
          same further (List.mem_cons_of_mem _ member) location located]
        refine config.notMem_change_of_ne fun equal => ?_
        exact apart (List.mem_map.mpr ⟨further, member, located.trans equal.symm⟩)
      have later := induction distinct laterTree laterSame
      rw [runFiles]
      simp only [later]
      rw [runFile_fst_eq tree here, after, ← FileSystem.overwriteAll_append]
      refine Prod.ext rfl (congrArg other.overwriteAll ?_)
      cases written : config.change system path <;> simp [written]

theorem runFiles_eq (keepOutput : Bool) {system : FileSystem} {paths : List Path}
    (distinct : system.DistinctFiles paths) :
    config.runFiles keepOutput paths system =
      (paths.map (config.reportOn keepOutput system),
        system.overwriteAll (paths.filterMap (config.change system))) :=
  config.runFiles_eq_of_tree keepOutput distinct rfl fun _ _ _ _ => rfl

variable {config} {system : FileSystem} {path : Path}

theorem change_eq_none_of_dryRun (dry : config.dryRun = true) :
    config.change system path = none := by
  rw [change]
  cases (config.runFile path system).1 with
  | error error => rfl
  | ok output => simp [changeFor, dry]

theorem change_eq_some_iff {location : Location} {content : List UInt8} :
    config.change system path = some (location, content) ↔
      config.dryRun = false ∧ system.locate path = .ok location ∧
        ∃ output, (config.runFile path system).1 = .ok output ∧ output.changed = true ∧
          content = encode output.code := by
  constructor
  · intro written
    have located := config.locate_of_changeFor written
    rw [change] at written
    cases ended : (config.runFile path system).1 with
    | error error => simp [ended, changeFor] at written
    | ok output =>
        simp only [ended, changeFor] at written
        split at written
        · rename_i writes
          rcases Option.map_eq_some_iff.mp written with ⟨place, _, same⟩
          simp only [Bool.and_eq_true, Bool.not_eq_true'] at writes
          exact ⟨writes.2, located, output, rfl, writes.1, (congrArg Prod.snd same).symm⟩
        · cases written
  · rintro ⟨wet, located, output, ended, changed, rfl⟩
    rcases config.runFile_fst_eq_ok_iff.mp ended with ⟨_, _, _, writable⟩
    rcases writable changed wet with ⟨place, found⟩
    obtain rfl := Except.ok.inj (located.symm.trans (system.exists_content_of_writingPlace found).1)
    simp [change, ended, changeFor, changed, wet, found, Except.toOption]

variable {paths : List Path}

theorem nodup_changes (distinct : system.DistinctFiles paths) :
    ((paths.filterMap (config.change system)).map Prod.fst).Nodup := by
  rw [List.Nodup, List.pairwise_map, List.pairwise_filterMap]
  refine (List.pairwise_map.mp distinct).imp ?_
  intro left right apart first firstWritten second secondWritten same
  apply apart
  rw [(change_eq_some_iff.mp firstWritten).2.1, (change_eq_some_iff.mp secondWritten).2.1, same]

theorem mem_changes_iff {location : Location} :
    location ∈ (paths.filterMap (config.change system)).map Prod.fst ↔
      ∃ path ∈ paths, ∃ content, config.change system path = some (location, content) := by
  simp only [List.mem_map, List.mem_filterMap, Prod.exists, exists_and_right, exists_eq_right]
  constructor
  · rintro ⟨content, path, member, written⟩
    exact ⟨path, member, content, written⟩
  · rintro ⟨path, member, content, written⟩
    exact ⟨content, path, member, written⟩

/-- A file that one of the paths names ends as if no other file were worked on. -/
theorem node?_overwriteAll_changes (distinct : system.DistinctFiles paths) (member : path ∈ paths)
    {location : Location} (located : system.locate path = .ok location) :
    (system.overwriteAll (paths.filterMap (config.change system))).node? location =
      (config.runFile path system).2.node? location := by
  rw [runFile_snd]
  cases written : config.change system path with
  | some change =>
      rcases change with ⟨place, content⟩
      rcases Except.ok.inj (located.symm.trans (change_eq_some_iff.mp written).2.1) with rfl
      rw [system.node?_overwriteAll_of_mem (nodup_changes distinct)
        (List.mem_filterMap.mpr ⟨path, member, written⟩)]
      simp [FileSystem.node?_overwrite]
  | none =>
      refine system.node?_overwriteAll_of_notMem fun touched => ?_
      rcases mem_changes_iff.mp touched with ⟨other, among, content, elsewhere⟩
      have named := (change_eq_some_iff.mp elsewhere).2.1
      rcases List.inj_on_of_nodup_map distinct among member (named.trans located.symm) with rfl
      rw [elsewhere] at written
      cases written

/-! ## The whole batch -/

theorem distinctFiles_of_tree {other : FileSystem} (tree : other.emptied = system.emptied)
    (distinct : system.DistinctFiles paths) : other.DistinctFiles paths := by
  rw [FileSystem.DistinctFiles, funext (FileSystem.locate_eq tree)]
  exact distinct

variable {keepOutput : Bool} {location : Location} {content : List UInt8}

theorem node?_of_changed (distinct : system.DistinctFiles paths) (wet : config.dryRun = false)
    (member : path ∈ paths)
    (reported : (config.reportOn keepOutput system path).status = .changed) :
    ∃ location source output, system.locate path = .ok location ∧
      system.readText path = .ok source ∧
      transformFile path source config.options = .ok output ∧
      (system.overwriteAll (paths.filterMap (config.change system))).node? location =
        some (.file (encode output.code)) := by
  rcases FileReport.status_of_eq_changed_iff.mp reported with ⟨output, ended, changed⟩
  rcases config.runFile_fst_eq_ok_iff.mp ended with ⟨source, read, transformed, writable⟩
  rcases writable changed wet with ⟨location, found⟩
  rcases system.exists_content_of_writingPlace found with ⟨located, content, there⟩
  have written : config.change system path = some (location, encode output.code) :=
    change_eq_some_iff.mpr ⟨wet, located, output, ended, changed, rfl⟩
  refine ⟨location, source, output, located, read, transformed, ?_⟩
  rw [system.node?_overwriteAll_of_mem (nodup_changes distinct)
    (List.mem_filterMap.mpr ⟨path, member, written⟩), there]
  rfl

theorem node?_of_unnamed (unnamed : ∀ path ∈ paths, system.locate path ≠ .ok location) :
    (system.overwriteAll (paths.filterMap (config.change system))).node? location =
      system.node? location := by
  refine system.node?_overwriteAll_of_notMem fun touched => ?_
  rcases mem_changes_iff.mp touched with ⟨path, member, content, written⟩
  exact unnamed path member (change_eq_some_iff.mp written).2.1

theorem node?_of_not_changed
    (unchanged : ∀ path ∈ paths, system.locate path = .ok location →
      (config.reportOn keepOutput system path).status ≠ .changed) :
    (system.overwriteAll (paths.filterMap (config.change system))).node? location =
      system.node? location := by
  refine system.node?_overwriteAll_of_notMem fun touched => ?_
  rcases mem_changes_iff.mp touched with ⟨path, member, content, written⟩
  rcases change_eq_some_iff.mp written with ⟨_, located, output, ended, changed, _⟩
  exact unchanged path member located
    (FileReport.status_of_eq_changed_iff.mpr ⟨output, ended, changed⟩)

theorem reportOn_overwrite (elsewhere : system.locate path ≠ .ok location) :
    config.reportOn keepOutput (system.overwrite location content) path =
      config.reportOn keepOutput system path := by
  rw [reportOn, reportOn, runFile_fst_eq (system.emptied_overwrite location content)]
  intro place located
  refine system.node?_overwrite_of_ne content fun same => elsewhere ?_
  rw [located, same]

theorem node?_overwriteAll_changes_overwrite (distinct : system.DistinctFiles paths)
    {place : Location} (elsewhere : place ≠ location) :
    ((system.overwrite location content).overwriteAll
        (paths.filterMap (config.change (system.overwrite location content)))).node? place =
      (system.overwriteAll (paths.filterMap (config.change system))).node? place := by
  have tree := system.emptied_overwrite location content
  have here := system.node?_overwrite_of_ne content elsewhere
  by_cases named : ∃ path ∈ paths, system.locate path = .ok place
  · rcases named with ⟨path, member, located⟩
    have same : ∀ other, system.locate path = .ok other →
        (system.overwrite location content).node? other = system.node? other := by
      intro other named
      rcases Except.ok.inj (located.symm.trans named) with rfl
      exact here
    rw [node?_overwriteAll_changes distinct member located,
      node?_overwriteAll_changes (distinctFiles_of_tree tree distinct) member
        ((FileSystem.locate_eq tree path).trans located),
      runFile_snd, runFile_snd, change_eq tree same]
    exact system.node?_overwriteAll_congr here _
  · have unnamed : ∀ path ∈ paths, system.locate path ≠ .ok place :=
      fun path member located => named ⟨path, member, located⟩
    rw [node?_of_unnamed unnamed, node?_of_unnamed, here]
    intro path member
    rw [FileSystem.locate_eq tree]
    exact unnamed path member

/-- What a batch tells about each file and leaves in it depends on that file alone. -/
structure IsolatedRun (config : BatchConfig) (roots : List Path) (keepOutput : Bool)
    (system : FileSystem) (survey : Survey) (summary : Summary) (after : FileSystem) : Prop where
  /-- One report for each file in order, as if it were the only one; then one for each root in order
  below which nothing can be looked for. -/
  reports : summary.reports = survey.candidates.map (config.reportOn keepOutput system) ++
    survey.unreadable.map .ofRoot
  unreadable : survey.unreadable.map Prod.fst =
    roots.filter fun root => !(system.filesFrom root).isOk
  rootsFailed : ∀ root ∈ survey.unreadable, (FileReport.ofRoot root).status = .failed
  counts : ∀ status, summary.count status = summary.reports.countP (·.status == status)
  total : summary.changed + summary.unchanged + summary.failed = summary.reports.length
  failures : summary.hasFailures = true ↔ ∃ report ∈ summary.reports, report.status = .failed
  /-- A file that is reported as changed holds its previous text transformed. -/
  changedFiles : config.dryRun = false → ∀ path ∈ survey.candidates,
    (config.reportOn keepOutput system path).status = .changed →
    ∃ location source output, system.locate path = .ok location ∧
      system.readText path = .ok source ∧
      transformFile path source config.options = .ok output ∧
      after.node? location = some (.file (encode output.code))
  /-- Everything else stays as it is. -/
  otherFiles : ∀ location,
    (∀ path ∈ survey.candidates, system.locate path = .ok location →
      (config.reportOn keepOutput system path).status ≠ .changed) →
    after.node? location = system.node? location
  dryRun : config.dryRun = true → after = system
  /-- What one file holds, be it such that the work on it fails, makes no difference to another. -/
  independent : ∀ location content other left,
    config.run roots keepOutput (system.overwrite location content) = (other, left) →
    List.Forall₂ (fun report changed => changed.path = report.path ∧
        (system.locate report.path ≠ .ok location → changed = report))
      summary.reports other.reports ∧
    ∀ place, place ≠ location → left.node? place = after.node? place

theorem run_eq (roots : List Path) (keepOutput : Bool)
    (distinct : system.DistinctFiles (config.selection.survey system roots).candidates) :
    config.run roots keepOutput system =
      (.ofReports
        ((config.selection.survey system roots).candidates.map
            (config.reportOn keepOutput system) ++
          (config.selection.survey system roots).unreadable.map .ofRoot),
        system.overwriteAll ((config.selection.survey system roots).candidates.filterMap
          (config.change system))) := by
  simp only [run, config.runFiles_eq keepOutput distinct]

/-- A batch over paths that name different files works on each file as if it were the only one. -/
theorem run_isolates_files (config : BatchConfig) (roots : List Path) (keepOutput : Bool)
    (system : FileSystem)
    (distinct : system.DistinctFiles (config.selection.survey system roots).candidates) :
    config.IsolatedRun roots keepOutput system (config.selection.survey system roots)
      (config.run roots keepOutput system).1 (config.run roots keepOutput system).2 := by
  rw [run_eq roots keepOutput distinct]
  generalize surveyed : config.selection.survey system roots = survey at distinct
  exact {
    reports := rfl
    unreadable := surveyed ▸ config.selection.unreadable_survey system roots
    rootsFailed := fun _ _ => rfl
    counts := Summary.count_ofReports _
    total := Summary.counts_add_up _
    failures := Summary.hasFailures_iff _
    changedFiles := fun wet path member reported => node?_of_changed distinct wet member reported
    otherFiles := fun location unchanged => node?_of_not_changed unchanged
    dryRun := by
      intro dry
      simp [change_eq_none_of_dryRun dry]
    independent := by
      intro location content other left ran
      have tree := system.emptied_overwrite location content
      have again : config.selection.survey (system.overwrite location content) roots = survey :=
        (config.selection.survey_eq tree roots).trans surveyed
      rw [run_eq roots keepOutput (again ▸ distinctFiles_of_tree tree distinct), again] at ran
      rcases Prod.mk.inj ran with ⟨rfl, rfl⟩
      refine ⟨?_, fun place => node?_overwriteAll_changes_overwrite distinct⟩
      refine List.rel_append ?_ (List.forall₂_same.mpr fun _ _ => ⟨rfl, fun _ => rfl⟩)
      rw [List.forall₂_map_left_iff, List.forall₂_map_right_iff, List.forall₂_same]
      exact fun path _ => ⟨rfl, reportOn_overwrite⟩ }

/-- A batch in which one file is changed, one holds no text and one root is missing. -/
def mixedFiles : FileSystem where
  nodes := [(["a.js"], .file (encode "import{A16}from'i'")), (["b.js"], .file [255])]
  workingDirectory := []
  unreadable := []
  unwritable := []

/-- Take the icons from a package with a short name, and leave that name as it is. -/
def shortPackage : BatchConfig :=
  ⟨.standard, false, { Options.standard with targetModule := "i", newModule := none }⟩

theorem mixedFiles_survey (dryRun : Bool) :
    ({ shortPackage with dryRun }.selection.survey mixedFiles [⟨"."⟩, ⟨"c"⟩]) =
      ⟨[⟨"./a.js"⟩, ⟨"./b.js"⟩], [(⟨"c"⟩, .notFound)]⟩ := by
  have found : Selection.standard.filesBelow mixedFiles [⟨"."⟩, ⟨"c"⟩] =
      [⟨"./a.js"⟩, ⟨"./b.js"⟩] := by decide +kernel
  have taken : (Selection.standard.survey mixedFiles [⟨"."⟩, ⟨"c"⟩]).candidates =
      [⟨"./a.js"⟩, ⟨"./b.js"⟩] := by
    rw [Selection.candidates_of_ascending _ (found ▸ by decide +kernel), found]
    decide +kernel
  have missing : (Selection.standard.survey mixedFiles [⟨"."⟩, ⟨"c"⟩]).unreadable =
      [(⟨"c"⟩, .notFound)] := by decide +kernel
  exact congrArg₂ Survey.mk taken missing

theorem mixedFiles_distinct (dryRun : Bool) : mixedFiles.DistinctFiles
    ({ shortPackage with dryRun }.selection.survey mixedFiles [⟨"."⟩, ⟨"c"⟩]).candidates := by
  rw [mixedFiles_survey]
  decide +kernel

theorem mixed_files_isolated :
    mixedFiles.DistinctFiles
        (shortPackage.selection.survey mixedFiles [⟨"."⟩, ⟨"c"⟩]).candidates ∧
      shortPackage.IsolatedRun [⟨"."⟩, ⟨"c"⟩] true mixedFiles
        ⟨[⟨"./a.js"⟩, ⟨"./b.js"⟩], [(⟨"c"⟩, .notFound)]⟩
        (shortPackage.run [⟨"."⟩, ⟨"c"⟩] true mixedFiles).1
        (shortPackage.run [⟨"."⟩, ⟨"c"⟩] true mixedFiles).2 ∧
      [⟨"./a.js"⟩, ⟨"./b.js"⟩].map (fun path =>
        (shortPackage.reportOn true mixedFiles path).status) = [.changed, .failed] :=
  ⟨mixedFiles_distinct false,
    mixedFiles_survey false ▸
      run_isolates_files shortPackage [⟨"."⟩, ⟨"c"⟩] true mixedFiles (mixedFiles_distinct false),
    by decide +kernel⟩

end BatchConfig
end IconSize
