/-!
Sets of code points, given by the ranges that make them up. The properties of characters that the
library needs beyond ASCII are tables of this kind.
-/

namespace IconSize.Text

/-- A set of code points: inclusive ranges in ascending order. -/
structure CodePoints where
  ranges : List (Nat × Nat)

namespace CodePoints

def containsCode (set : CodePoints) (code : Nat) : Bool :=
  set.ranges.any fun range => range.1 ≤ code && code ≤ range.2

def contains (set : CodePoints) (character : Char) : Bool :=
  set.containsCode character.toNat

theorem contains_iff (set : CodePoints) (character : Char) :
    set.contains character = true ↔
      ∃ range ∈ set.ranges, range.1 ≤ character.toNat ∧ character.toNat ≤ range.2 := by
  simp [contains, containsCode]

end CodePoints
end IconSize.Text
