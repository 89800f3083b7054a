import IconSize.Text.Bytes

/-!
Plans of edits. A plan collects replacements and insertions by byte offsets of a source that stays
as it is; applying the plan splices all of them in at once. Whatever no edit covers comes back
byte for byte.
-/

namespace IconSize
open Text

/-- Put `text` in the place of the bytes from `start` to `stop`. -/
structure Edit where
  start : Nat
  stop : Nat
  text : String
deriving DecidableEq, Repr, Inhabited

namespace Edit

/-- Edits are ordered by where they begin, then by where they end. -/
def isBefore (left right : Edit) : Bool :=
  left.start < right.start || (left.start == right.start && left.stop ≤ right.stop)

end Edit

/-- Why a plan cannot be applied. -/
inductive PlanFault where
  /-- An edit begins before the end of an earlier one, or does not lie in the source. -/
  | overlap (start stop : Nat)
  /-- An edit begins or ends inside a character. -/
  | insideCharacter
deriving DecidableEq, Repr, Inhabited

/-- Edits in the order in which they were planned. -/
structure Plan where
  edits : List Edit
deriving DecidableEq, Repr, Inhabited

namespace Plan

def empty : Plan := ⟨[]⟩

def size (plan : Plan) : Nat := plan.edits.length

def isEmpty (plan : Plan) : Bool := plan.edits.isEmpty

def add (plan : Plan) (edit : Edit) : Plan := ⟨plan.edits ++ [edit]⟩

def addAll (plan : Plan) (edits : List Edit) : Plan := ⟨plan.edits ++ edits⟩

/-- The edits in the order of the source. Insertions at one offset keep the order in which they
were planned. -/
def ordered (plan : Plan) : List Edit := plan.edits.mergeSort Edit.isBefore

/-- Splice ordered edits into the rest of a source. `cursor` is the offset where the rest begins;
there is no rest where that offset lies inside a character. -/
def splice (length : Nat) : Nat → Option (List Char) → List Edit →
    Except PlanFault (List Char)
  | _, none, [] => .error .insideCharacter
  | _, some rest, [] => .ok rest
  | cursor, rest, edit :: later =>
    if edit.start < cursor ∨ length < edit.stop ∨ edit.stop < edit.start then
      .error (.overlap edit.start edit.stop)
    else
      match rest.bind (splitAt? (edit.start - cursor)) with
      | none => .error .insideCharacter
      | some (kept, after) =>
        let rest := (splitAt? (edit.stop - edit.start) after).map (·.2)
        (splice length edit.stop rest later).map fun spliced =>
          kept ++ edit.text.toList ++ spliced

def apply (plan : Plan) (source : String) : Except PlanFault String :=
  let chars := source.toList
  (splice (byteLength chars) 0 (some chars) plan.ordered).map String.ofList

end Plan
end IconSize
