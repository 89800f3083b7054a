import IconSize.CommandLine.Arguments
import IconSize.Json.Report

/-!
The command: run a batch over the paths of the command line and tell what became of them.
-/

namespace IconSize.CommandLine
open Files

/-- What a command leaves behind, besides the file system. -/
structure Outcome where
  exitCode : UInt8
  /-- The text for standard output. -/
  output : String
  /-- Lines for standard error. -/
  notes : List String
  /-- The last line for standard error. -/
  summary : Option String
deriving DecidableEq, Repr, Inhabited

def versionLine : String := "codemod 0.1.0\n"

def helpText : String :=
"Rewrites size-suffixed icon imports (`Add16`) to size-less icons with an explicit `size` prop

Usage: codemod [OPTIONS] <PATHS>...

Arguments:
  <PATHS>...  Files or directories to transform

Options:
  -d, --dry-run
          Report what would change without writing files
  -p, --print
          Print transformed sources to stdout
      --json
          Print a JSON summary to stdout
      --extensions <EXTENSIONS>
          File extensions to consider [default: js jsx ts tsx]
      --ignore-pattern <IGNORE_PATTERNS>
          Skip paths containing this substring. Repeatable [default: node_modules]
      --target-module <TARGET_MODULE>
          Module whose imports are rewritten [default: @carbon/icons-react]
      --rewrite-module-to <REWRITE_MODULE_TO>
          Module specifier rewritten imports point at [default: @carbon/icons-react/next]
      --no-rewrite-source
          Keep the original module specifier
      --default-size <DEFAULT_SIZE>
          Size that needs no explicit `size` prop [default: 32]
      --quote <QUOTE>
          Force the quote style of rewritten string literals [default: auto]
      --no-trailing-comma
          Omit the trailing comma in synthesized multi-line objects
  -v, --verbose
          Log each changed file
  -h, --help
          Print help
  -V, --version
          Print version
"

def summaryLine (summary : Summary) (dryRun : Bool) : String :=
  toString summary.changed ++ " changed, "
    ++ toString summary.unchanged ++ " unchanged, "
    ++ toString summary.failed ++ " failed"
    ++ (if dryRun then " (dry run)" else "")

/-- A transformed text under the path of its file, if it was kept. -/
def printed (report : FileReport) : String :=
  match report.output? with
  | some text => "// " ++ report.path.spelling ++ "\n" ++ text ++ "\n"
  | none => ""

/-- A line about a failure, or about a changed file if all shall be told. -/
def note? (verbose : Bool) (report : FileReport) : Option String :=
  match report.result with
  | .error error => some ("error: " ++ error.message)
  | .ok result =>
    if verbose && result.changed then some ("changed: " ++ report.path.spelling) else none

/-- Tell what became of the files. -/
def tell (arguments : Arguments) (summary : Summary) : Outcome :=
  let texts :=
    if arguments.isOn .print then String.join (summary.reports.map printed) else ""
  let json := if arguments.isOn .json then summary.toJson.pretty ++ "\n" else ""
  { exitCode := if summary.hasFailures then 1 else 0
    output := texts ++ json
    notes := summary.reports.filterMap (note? (arguments.isOn .verbose))
    summary :=
      if arguments.isOn .json then none
      else some (summaryLine summary (arguments.isOn .dryRun)) }

/-- Do what a command line asks for. -/
def Request.perform : Request → FileSystem → Outcome × FileSystem
  | .showHelp, system => (⟨0, helpText, [], none⟩, system)
  | .showVersion, system => (⟨0, versionLine, [], none⟩, system)
  | .transform arguments, system =>
    let (summary, system) :=
      arguments.config.run arguments.paths (arguments.isOn .print) system
    (tell arguments summary, system)

/-- Refuse a command line. -/
def UsageFault.outcome (fault : UsageFault) : Outcome :=
  ⟨2, "", ["error: " ++ fault.message], none⟩

/-- Run the command with its arguments. -/
def run (arguments : List String) (system : FileSystem) : Outcome × FileSystem :=
  match Request.ofArguments arguments with
  | .error fault => (fault.outcome, system)
  | .ok request => request.perform system

end IconSize.CommandLine
