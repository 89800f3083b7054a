import IconSize.Batch.Report

/-!
The batch: look for the files below the roots and transform each one by itself. What fails for one
file is told in its report and touches no other file.
-/

namespace IconSize
open Files

structure BatchConfig where
  selection : Selection
  /-- Tell what would be done, and write nothing. -/
  dryRun : Bool
  options : Options
deriving DecidableEq, Repr, Inhabited

/-- The configuration that holds where none is given. -/
def BatchConfig.standard : BatchConfig := ⟨.standard, false, .standard⟩

namespace BatchConfig

/-- Transform the text that a file has. -/
def examine (config : BatchConfig) (path : Path) (system : FileSystem) :
    Except BatchError TransformOutput :=
  match system.readText path with
  | .error fault => .error (.unreadableFile path fault)
  | .ok source =>
    match transformFile path source config.options with
    | .error error => .error (.transform error)
    | .ok output => .ok output

/-- Write a changed text back, unless nothing shall be written. -/
def store (config : BatchConfig) (path : Path) (output : TransformOutput) (system : FileSystem) :
    Except BatchError TransformOutput × FileSystem :=
  if output.changed && !config.dryRun then
    match system.writeText path output.code with
    | .error fault => (.error (.unwritableFile path fault), system)
    | .ok system => (.ok output, system)
  else (.ok output, system)

/-- Transform one file and write it back. -/
def runFile (config : BatchConfig) (path : Path) (system : FileSystem) :
    Except BatchError TransformOutput × FileSystem :=
  match config.examine path system with
  | .error error => (.error error, system)
  | .ok output => config.store path output system

def runFiles (config : BatchConfig) (keepOutput : Bool) :
    List Path → FileSystem → List FileReport × FileSystem
  | [], system => ([], system)
  | path :: rest, system =>
    let (result, system) := config.runFile path system
    let (reports, system) := config.runFiles keepOutput rest system
    (.of keepOutput path result :: reports, system)

/-- Transform all files below the roots that the selection takes. -/
def run (config : BatchConfig) (roots : List Path) (keepOutput : Bool) (system : FileSystem) :
    Summary × FileSystem :=
  let survey := config.selection.survey system roots
  let (reports, system) := config.runFiles keepOutput survey.candidates system
  (.ofReports (reports ++ survey.unreadable.map .ofRoot), system)

end BatchConfig
end IconSize
