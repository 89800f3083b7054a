import IconSize.Batch.Report
import IconSize.Json.Value

/-!
Reports as JSON.
-/

namespace IconSize

def BindingReport.toJson (report : BindingReport) : Json :=
  .object [
    Json.member "imported" (.text report.imported),
    Json.member "replacement" (.text report.replacement),
    Json.member "size" (.natural report.size),
    Json.member "rewrittenReferences" (.natural report.renamed),
    Json.member "skippedReferences" (.natural report.skipped),
    Json.member "capturedReferences" (.natural report.captured)]

/-- A report on a file as JSON. A file without an error has no member for one, and one without
bindings none for them. -/
def FileReport.toJson (report : FileReport) : Json :=
  let error := match report.error? with
    | some error =>
      [Json.member "errorCode" (.text error.code), Json.member "error" (.text error.message)]
    | none => []
  let bindings := match report.bindings with
    | [] => []
    | bindings => [Json.member "bindings" (.array (bindings.map BindingReport.toJson))]
  .object (Json.member "path" (.text report.path.spelling)
    :: Json.member "status" (.text report.status.name) :: (error ++ bindings))

/-- A summary as JSON: first the counts, then the reports. -/
def Summary.toJson (summary : Summary) : Json :=
  .object [
    Json.member "changed" (.natural summary.changed),
    Json.member "unchanged" (.natural summary.unchanged),
    Json.member "failed" (.natural summary.failed),
    Json.member "files" (.array (summary.reports.map FileReport.toJson))]

end IconSize
