import IconSize.Batch.Selection
import IconSize.Transform

/-!
What a batch tells about each file that it worked on, and about all of them together.
-/

namespace IconSize
open Files

/-- Why nothing could be done for a path. -/
inductive BatchError where
  /-- The file cannot be read. -/
  | unreadableFile (path : Path) (fault : FileFault)
  /-- The file cannot be written. -/
  | unwritableFile (path : Path) (fault : FileFault)
  /-- There is nothing to look below. -/
  | unreadableRoot (path : Path) (fault : FileFault)
  /-- The source in the file cannot be transformed. -/
  | transform (error : TransformError)
deriving DecidableEq, Repr, Inhabited

namespace BatchError

def code : BatchError → String
  | unreadableFile _ _ | unwritableFile _ _ | unreadableRoot _ _ => "CM-ERR-IO-001"
  | transform error => error.code

def message : BatchError → String
  | unreadableFile path fault | unwritableFile path fault =>
    "I/O error on " ++ path.spelling ++ ": " ++ fault.message
  | unreadableRoot path fault =>
    "I/O error on " ++ path.spelling ++ ": IO error for operation on " ++ path.spelling ++ ": "
      ++ fault.message
  | transform error => error.message

end BatchError

/-- How the work on a path ended. -/
inductive FileStatus where
  | changed
  | unchanged
  | failed
deriving DecidableEq, Repr, Inhabited

def FileStatus.name : FileStatus → String
  | changed => "changed"
  | unchanged => "unchanged"
  | failed => "failed"

/-- What a report keeps of a transform. -/
structure FileResult where
  changed : Bool
  bindings : List BindingReport
  /-- The transformed text, if it is wanted. -/
  code? : Option String
deriving DecidableEq, Repr, Inhabited

structure FileReport where
  path : Path
  result : Except BatchError FileResult
deriving Inhabited

namespace FileReport

/-- The report on a file. The transformed text is kept only where it is wanted. -/
def of (keepOutput : Bool) (path : Path) (result : Except BatchError TransformOutput) :
    FileReport :=
  ⟨path, result.map fun output =>
    ⟨output.changed, output.bindings, if keepOutput then some output.code else none⟩⟩

/-- The report on a root that could not be read. -/
def ofRoot (root : Path × FileFault) : FileReport :=
  ⟨root.1, .error (.unreadableRoot root.1 root.2)⟩

def status (report : FileReport) : FileStatus :=
  match report.result with
  | .error _ => .failed
  | .ok result => if result.changed then .changed else .unchanged

def error? (report : FileReport) : Option BatchError :=
  match report.result with
  | .error error => some error
  | .ok _ => none

/-- The transformed text, if it was kept and the work did not fail. -/
def output? (report : FileReport) : Option String :=
  match report.result with
  | .error _ => none
  | .ok result => result.code?

/-- What became of the bindings; nothing is known where the work failed. -/
def bindings (report : FileReport) : List BindingReport :=
  match report.result with
  | .error _ => []
  | .ok result => result.bindings

end FileReport

/-- What a batch tells: the reports on the files in order, then those on unreadable roots, and how
many of them there are with each status. -/
structure Summary where
  changed : Nat
  unchanged : Nat
  failed : Nat
  reports : List FileReport
deriving Inhabited

namespace Summary

/-- Count one report more. -/
def tally (summary : Summary) (report : FileReport) : Summary :=
  match report.status with
  | .changed => { summary with changed := summary.changed + 1 }
  | .unchanged => { summary with unchanged := summary.unchanged + 1 }
  | .failed => { summary with failed := summary.failed + 1 }

/-- Count the reports. -/
def ofReports (reports : List FileReport) : Summary :=
  { reports.foldl tally ⟨0, 0, 0, []⟩ with reports := reports }

def count (summary : Summary) : FileStatus → Nat
  | .changed => summary.changed
  | .unchanged => summary.unchanged
  | .failed => summary.failed

def hasFailures (summary : Summary) : Bool := 0 < summary.failed

end Summary
end IconSize
