import IconSize.CommandLine.Command

/-!
The program. It looks at the part of the file system that the command line names, runs the command
on what it saw, and writes the files that the command changed.
-/

namespace IconSize.Main
open Files CommandLine

/-- Look at a file: its content, and what may be done with it. Opening it for writing as well leaves
it as it is. -/
def lookAtFile (entry : IO.FS.DirEntry) (location : Location) (system : FileSystem) :
    IO FileSystem := do
  let writable ← (IO.FS.Handle.mk entry.path .readWrite).toBaseIO
  let system := if writable.isOk then system else system.forbidWriting location
  match ← (IO.FS.readBinFile entry.path).toBaseIO with
  | .error _ => return (system.place location (.file [])).forbidReading location
  | .ok content => return system.place location (.file content.toList)

/-- Look at an entry of a directory, and at what it leads to if it is a link. The answer is the
directory that it is or leads to. The content of a file matters only if the file is wanted. A link
that leads nowhere is left out. -/
partial def lookAt (wanted : Bool) (entry : IO.FS.DirEntry) (system : FileSystem) :
    IO (FileSystem × Option IO.FS.DirEntry) := do
  let location := Path.location ⟨entry.path.toString⟩
  match ← entry.path.symlinkMetadata.toBaseIO with
  | .error _ => return (system, none)
  | .ok metadata =>
    match metadata.type with
    | .dir => return (system.makeDirectories location, some entry)
    | .file =>
      if wanted then return (← lookAtFile entry location system, none)
      else if (system.node? location).isSome then return (system, none)
      else return (system.place location (.file []), none)
    | .symlink =>
      match ← (IO.FS.realPath entry.path).toBaseIO with
      | .error _ => return (system, none)
      | .ok target =>
        let reached : IO.FS.DirEntry :=
          ⟨target.parent.getD target, target.fileName.getD "."⟩
        lookAt wanted reached (system.place location (.link ⟨target.toString⟩))
    | .other => return (system, none)

/-- Look at what is below a directory. Nothing matters below a path that is ignored, and nothing new
below a directory that was passed on the way. -/
partial def lookBelow (selection : Selection) (passed : List Location) (path : Path)
    (directory : IO.FS.DirEntry) (system : FileSystem) : IO FileSystem := do
  let location := Path.location ⟨directory.path.toString⟩
  let mut system := system
  unless passed.contains location || selection.ignores path do
    match ← directory.path.readDir.toBaseIO with
    | .error _ =>
      if system.node? location = some .directory then system := system.forbidReading location
    | .ok entries =>
      for entry in entries do
        let child := path.child entry.fileName
        let (seen, below?) ← lookAt (selection.hasExtension child) entry system
        system := seen
        if let some below := below? then
          system ← lookBelow selection (location :: passed) child below system
  return system

/-- Look at the entries along the pieces of a path, from a directory on. -/
partial def lookAlong (wanted : Bool) (directory : String) :
    List (List Char) → FileSystem → IO FileSystem
  | [], system => return system
  | piece :: rest, system => do
    let name := String.ofList piece
    let further := directory ++ name ++ "/"
    match Path.component? piece, ← (IO.FS.realPath directory).toBaseIO with
    | _, .error _ => return system
    | some (.entry name), .ok real =>
      let (seen, _) ← lookAt wanted ⟨real, name⟩ system
      lookAlong wanted further rest seen
    | _, .ok _ => lookAlong wanted further rest system

/-- Look at a root and at everything below it. -/
def lookAtRoot (selection : Selection) (system : FileSystem) (root : Path) : IO FileSystem := do
  let wanted := selection.hasExtension root
  let directory := if root.isAbsolute then "/" else "./"
  let system ← lookAlong wanted directory root.pieces system
  match ← (IO.FS.realPath root.spelling).toBaseIO with
  | .error _ => return system
  | .ok real => lookBelow selection [] root ⟨real, "."⟩ system

/-- Look at what a request needs. -/
def look : Request → IO FileSystem
  | .showHelp | .showVersion => return .empty
  | .transform arguments => do
    let directory ← IO.currentDir
    let location := Path.location ⟨directory.toString⟩
    let start : FileSystem := { FileSystem.empty with workingDirectory := location }
    arguments.paths.foldlM (lookAtRoot arguments.config.selection)
      (start.makeDirectories location)

/-- Write the files that are different from what they were. -/
def writeChanges (earlier system : FileSystem) : IO Unit := do
  for (location, content) in system.changedSince earlier do
    IO.FS.writeBinFile ("/" ++ (Location.path location).spelling) ⟨content.toArray⟩

/-- Tell what a command leaves behind. -/
def tell (outcome : Outcome) : IO UInt32 := do
  IO.print outcome.output
  outcome.notes.forM IO.eprintln
  outcome.summary.forM IO.eprintln
  return outcome.exitCode.toUInt32

/-- Run the command on the real file system. -/
def run (arguments : List String) : IO UInt32 := do
  match Request.ofArguments arguments with
  | .error fault => tell fault.outcome
  | .ok request =>
    let earlier ← look request
    let (outcome, system) := request.perform earlier
    writeChanges earlier system
    tell outcome

end IconSize.Main

def main (arguments : List String) : IO UInt32 := IconSize.Main.run arguments
