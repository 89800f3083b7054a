import IconSize.Batch.Schedule
import IconSize.Proofs.Batch.Isolation

/-!
The schedule of a batch makes no difference. Where the paths name different files, a step on one
file sees nothing of the steps on the others. So at any time the work on each file stands where it
would stand if it were done alone, and the file system is the one from the beginning with the files
of the finished work written, in whatever order that was.
-/

namespace IconSize
open Files

/-! ## One file -/

namespace Stage

/-- The work done alone in the file system comes to this stage. -/
def IsReached (config : BatchConfig) (system : FileSystem) (path : Path) : Stage → Prop
  | waiting => True
  | loaded source => system.readText path = .ok source
  | transformed output => config.examine path system = .ok output
  | finished result => result = (config.runFile path system).1

/-- What is written by the time of this stage. -/
def written (config : BatchConfig) (system : FileSystem) (path : Path) :
    Stage → Option (Location × List UInt8)
  | finished _ => config.change system path
  | _ => none

variable {config : BatchConfig} {system other : FileSystem} {path : Path} {stage : Stage}

end Stage

/-! ## All files -/

namespace Work

/-- What is written by the finished work. -/
def changes (config : BatchConfig) (system : FileSystem) (jobs : List Job) :
    List (Location × List UInt8) :=
  jobs.filterMap fun job => job.stage.written config system job.path

/-- The work on each file stands where it would stand alone, and what is finished is written. -/
structure Agrees (work : Work) (config : BatchConfig) (paths : List Path) (system : FileSystem) :
    Prop where
  paths : work.jobs.map Job.path = paths
  reached : ∀ job ∈ work.jobs, job.stage.IsReached config system job.path
  written : work.system = system.overwriteAll (changes config system work.jobs)

variable {config : BatchConfig} {system : FileSystem} {paths : List Path} {work : Work}

end Work

/-! ## The whole batch -/

namespace BatchConfig

/-- Three steps in a row are the work on one file. -/
theorem runFile_eq_three_steps (config : BatchConfig) (path : Path) (system : FileSystem) :
    (Work.start [path] system).follow config [0, 0, 0] =
      ⟨[⟨path, .finished (config.runFile path system).1⟩], (config.runFile path system).2⟩ := by
  simp only [Work.follow, Work.start, Work.advance, List.foldl_cons, List.foldl_nil, List.map_cons,
    List.map_nil, List.getElem?_cons_zero, List.set_cons_zero, Stage.advance, runFile, examine]
  cases system.readText path with
  | error fault => rfl
  | ok source =>
      simp only
      cases transformFile path source config.options with
      | error error => rfl
      | ok output => rfl

end BatchConfig
end IconSize
