import IconSize.Files.FileSystem

/-!
The files that are reached from a path: the path itself if it names a file, otherwise all files in
and below the directory that it names. Links are followed, except those that lead back to a
directory through which they were reached.
-/

namespace IconSize.Files.FileSystem

/-- The length of the longest way from the root to a node. -/
def height (system : FileSystem) : Nat :=
  system.nodes.foldr (fun (location, _) height => max location.length height) 0

/-- No way through a file system is longer than this. Every link that is followed leads to a
directory that the way has not passed, and between two links each step leads farther from the
root. -/
def reachLimit (system : FileSystem) : Nat :=
  (system.nodes.length + 2) * (system.height + 2)

/-- The paths of the files in and below the directory at a location, on ways that are not longer
than a limit. The way has passed the given locations. -/
def filesIn (system : FileSystem) :
    Nat → List Location → Path → Location → List Path
  | 0, _, _, _ => []
  | limit + 1, passed, path, directory =>
    match system.listing directory with
    | .error _ => []
    | .ok names =>
      names.flatMap fun name =>
        let child := path.child name
        match system.locate child with
        | .error _ => []
        | .ok location =>
          match system.node? location with
          | some (.file _) => [child]
          | some .directory =>
            let linked := ((system.node? (name :: directory)).map FileNode.isLink).getD false
            if linked && (directory :: passed).contains location then []
            else system.filesIn limit (directory :: passed) child location
          | _ => []

/-- The paths of the files that are reached from a path. Below a directory nothing is a fault, only
what the path itself names has to be there and, if it is a directory, may be listed. -/
def filesFrom (system : FileSystem) (path : Path) : Except FileFault (List Path) :=
  match system.locate path with
  | .error fault => .error fault
  | .ok location =>
    match system.node? location with
    | some (.file _) => .ok [path]
    | _ =>
      match system.listing location with
      | .error fault => .error fault
      | .ok _ => .ok (system.filesIn system.reachLimit [] path location)

end IconSize.Files.FileSystem
