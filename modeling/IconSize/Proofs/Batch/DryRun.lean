import IconSize.Proofs.Batch.Isolation

/-!
A dry run foretells the batch that writes. Each report rests on its own file alone, and writing that
file adds only that it may fail. So the two runs tell the same as long as everything can be written
that the dry run reports as changed.
-/

namespace IconSize.BatchConfig
open Files

variable {config : BatchConfig} {keepOutput : Bool} {system : FileSystem} {path : Path}

theorem runFile_fst_of_dryRun (dry : config.dryRun = true) :
    (config.runFile path system).1 = config.examine path system := by
  rw [runFile]
  cases config.examine path system with
  | error error => rfl
  | ok output => simp [store, dry]

/-- Writing adds to the result that a changed text may be impossible to write. -/
theorem runFile_fst_of_writes (wet : config.dryRun = false) :
    (config.runFile path system).1 =
      (config.examine path system).bind fun output =>
        if output.changed then
          match system.writingPlace path with
          | .error fault => .error (.unwritableFile path fault)
          | .ok _ => .ok output
        else .ok output := by
  rw [runFile]
  cases config.examine path system with
  | error error => rfl
  | ok output =>
      simp only [store, wet, Bool.not_false, Bool.and_true, Except.bind, FileSystem.writeText]
      split
      · cases system.writingPlace path <;> rfl
      · rfl

/-- The dry report on a file is the real one unless the file is to be changed and cannot be. -/
theorem reportOn_dryRun_eq_iff :
    { config with dryRun := true }.reportOn keepOutput system path =
        { config with dryRun := false }.reportOn keepOutput system path ↔
      (({ config with dryRun := true }.reportOn keepOutput system path).status = .changed →
        ∃ location, system.writingPlace path = .ok location) := by
  rw [reportOn, reportOn, FileReport.status_of_eq_changed_iff, runFile_fst_of_dryRun rfl,
    runFile_fst_of_writes rfl]
  change FileReport.of keepOutput path (config.examine path system) =
    FileReport.of keepOutput path ((config.examine path system).bind _) ↔
      ((∃ output, config.examine path system = .ok output ∧ _) → _)
  cases config.examine path system with
  | error error => simp [Except.bind]
  | ok output =>
      cases changed : output.changed with
      | false => simp [Except.bind, changed]
      | true =>
          cases system.writingPlace path with
          | error fault => simp [Except.bind, changed, FileReport.of, Except.map]
          | ok location => simp [Except.bind, changed]

/-- The dry run tells what the real one tells exactly if all files that it reports as changed can be
written. -/
theorem summary_dryRun_eq_iff (roots : List Path)
    (distinct : system.DistinctFiles (config.selection.survey system roots).candidates) :
    ({ config with dryRun := true }.run roots keepOutput system).1 =
        ({ config with dryRun := false }.run roots keepOutput system).1 ↔
      ∀ path ∈ (config.selection.survey system roots).candidates,
        ({ config with dryRun := true }.reportOn keepOutput system path).status = .changed →
          ∃ location, system.writingPlace path = .ok location := by
  generalize surveyed : config.selection.survey system roots = survey at distinct ⊢
  have summary (dryRun : Bool) : ({ config with dryRun }.run roots keepOutput system).1 =
      .ofReports (survey.candidates.map ({ config with dryRun }.reportOn keepOutput system) ++
        survey.unreadable.map .ofRoot) := by
    rw [run_eq roots keepOutput (surveyed ▸ distinct)]
    exact surveyed ▸ rfl
  rw [summary true, summary false]
  constructor
  · intro equal path member
    have reports := List.append_cancel_right (congrArg Summary.reports equal)
    exact reportOn_dryRun_eq_iff.mp (List.map_inj_left.mp reports path member)
  · intro writable
    rw [List.map_congr_left fun path member => reportOn_dryRun_eq_iff.mpr (writable path member)]

/-- A dry run over different files tells what the real run from the same file system tells, if
writing succeeds. -/
theorem dry_run_predicts_run (config : BatchConfig) (roots : List Path) (keepOutput : Bool)
    (system : FileSystem)
    (distinct : system.DistinctFiles (config.selection.survey system roots).candidates)
    (writable : ∀ path ∈ (config.selection.survey system roots).candidates, ∀ text,
      ∃ after, system.writeText path text = .ok after) :
    ({ config with dryRun := true }.run roots keepOutput system).1 =
      ({ config with dryRun := false }.run roots keepOutput system).1 := by
  refine (summary_dryRun_eq_iff roots distinct).mpr fun path member _ => ?_
  exact system.exists_writeText_iff.mp (writable path member "")

theorem mixed_files_predicted :
    mixedFiles.DistinctFiles
        (shortPackage.selection.survey mixedFiles [⟨"."⟩, ⟨"c"⟩]).candidates ∧
      (∀ path ∈ (shortPackage.selection.survey mixedFiles [⟨"."⟩, ⟨"c"⟩]).candidates, ∀ text,
        ∃ after, mixedFiles.writeText path text = .ok after) ∧
      ({ shortPackage with dryRun := true }.run [⟨"."⟩, ⟨"c"⟩] true mixedFiles).1 =
        ({ shortPackage with dryRun := false }.run [⟨"."⟩, ⟨"c"⟩] true mixedFiles).1 := by
  have writable : ∀ path ∈ (shortPackage.selection.survey mixedFiles [⟨"."⟩, ⟨"c"⟩]).candidates,
      ∀ text, ∃ after, mixedFiles.writeText path text = .ok after := by
    intro path member text
    rw [mixedFiles_survey false] at member
    rw [FileSystem.exists_writeText_iff]
    rcases List.mem_pair.mp member with rfl | rfl
    · exact ⟨["a.js"], by decide +kernel⟩
    · exact ⟨["b.js"], by decide +kernel⟩
  exact ⟨mixedFiles_distinct false, writable,
    dry_run_predicts_run shortPackage [⟨"."⟩, ⟨"c"⟩] true mixedFiles (mixedFiles_distinct false)
      writable⟩

end IconSize.BatchConfig
