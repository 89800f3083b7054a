import IconSize.Files.Reach

/-!
Which files a batch takes: those with one of some extensions whose path holds none of some patterns.
Each place is taken once and the places come in the order of their paths.
-/

namespace IconSize
open Files

/-- Does the pattern stand somewhere in the text? -/
def occursIn (pattern : List Char) : List Char → Bool
  | [] => pattern.isEmpty
  | text@(_ :: rest) => pattern.isPrefixOf text || occursIn pattern rest

theorem occursIn_iff (pattern text : List Char) : occursIn pattern text ↔ pattern <:+: text := by
  induction text with
  | nil => simp [occursIn]
  | cons character rest induction =>
      rw [occursIn, Bool.or_eq_true, induction, List.isPrefixOf_iff_prefix]
      exact List.infix_cons_iff.symm

/-- What a batch is told about the files that it takes. -/
structure Selection where
  extensions : List String
  /-- A file is passed over if one of these stands in its path. -/
  ignorePatterns : List String
deriving DecidableEq, Repr, Inhabited

namespace Selection

def standard : Selection where
  extensions := ["js", "jsx", "ts", "tsx"]
  ignorePatterns := ["node_modules"]

def hasExtension (selection : Selection) (path : Path) : Bool :=
  match path.extension? with
  | none => false
  | some extension => selection.extensions.contains extension

/-- Does one of the patterns stand in the path? -/
def ignores (selection : Selection) (path : Path) : Bool :=
  selection.ignorePatterns.any fun pattern => occursIn pattern.toList path.spelling.toList

def accepts (selection : Selection) (path : Path) : Bool :=
  selection.hasExtension path && !selection.ignores path

end Selection

/-- Of paths to the same place that follow one another, keep the first. -/
def distinctPlaces : List Path → List Path
  | [] => []
  | path :: rest => path :: after path rest
where
  /-- Leave out what names the place that was kept last. -/
  after (last : Path) : List Path → List Path
    | [] => []
    | path :: rest => if last.same path then after last rest else path :: after path rest

/-- What is found below the roots of a batch. -/
structure Survey where
  candidates : List Path
  unreadable : List (Path × FileFault)
deriving Repr, Inhabited

/-- The files below the roots that are taken, root by root. -/
def Selection.filesBelow (selection : Selection) (system : FileSystem) (roots : List Path) :
    List Path :=
  let reached := roots.flatMap fun root =>
    match system.filesFrom root with
    | .ok paths => paths
    | .error _ => []
  reached.filter selection.accepts

/-- Look below the roots for the files that are taken. -/
def Selection.survey (selection : Selection) (system : FileSystem) (roots : List Path) : Survey :=
  let unreadable := roots.filterMap fun root =>
    match system.filesFrom root with
    | .ok _ => none
    | .error fault => some (root, fault)
  ⟨distinctPlaces ((selection.filesBelow system roots).mergeSort Path.isUpTo), unreadable⟩

end IconSize
