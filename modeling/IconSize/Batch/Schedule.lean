import IconSize.Batch.Run

/-!
The work on the files of a batch in steps, as several workers share it. A step reads a file,
transforms what was read, or writes a file back. Between two steps on one file there may be steps on
other files; a schedule tells whose turn it is.
-/

namespace IconSize
open Files

/-- How far the work on a file has come. -/
inductive Stage where
  | waiting
  /-- The text is read. -/
  | loaded (source : String)
  /-- The text is transformed; what came of it is to be written back. -/
  | transformed (output : TransformOutput)
  | finished (result : Except BatchError TransformOutput)
deriving Inhabited

/-- The next step of the work on a file. -/
def Stage.advance (config : BatchConfig) (path : Path) (system : FileSystem) :
    Stage → Stage × FileSystem
  | waiting =>
    match system.readText path with
    | .error fault => (finished (.error (.unreadableFile path fault)), system)
    | .ok source => (loaded source, system)
  | loaded source =>
    match transformFile path source config.options with
    | .error error => (finished (.error (.transform error)), system)
    | .ok output => (transformed output, system)
  | transformed output =>
    let (result, system) := config.store path output system
    (finished result, system)
  | finished result => (finished result, system)

/-- The work on one file. -/
structure Job where
  path : Path
  stage : Stage
deriving Inhabited

/-- The work on all files, and the file system that they are in. -/
structure Work where
  jobs : List Job
  system : FileSystem
deriving Inhabited

namespace Work

/-- The work on some files before the first step. -/
def start (paths : List Path) (system : FileSystem) : Work :=
  ⟨paths.map fun path => ⟨path, .waiting⟩, system⟩

/-- Take the next step on the file at a position. -/
def advance (config : BatchConfig) (work : Work) (position : Nat) : Work :=
  match work.jobs[position]? with
  | none => work
  | some job =>
    let (stage, system) := job.stage.advance config job.path work.system
    ⟨work.jobs.set position ⟨job.path, stage⟩, system⟩

/-- Take the steps of a schedule: the positions of the files in the order of their turns. -/
def follow (config : BatchConfig) (work : Work) (schedule : List Nat) : Work :=
  schedule.foldl (advance config) work

end Work

end IconSize
