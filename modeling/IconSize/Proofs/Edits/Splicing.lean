import IconSize.Edits.Plan
import IconSize.Syntax.Tree
import Mathlib.Data.List.Pairwise

/-!
What applying a plan does to a source. The answer is a splice: between two edits the source comes
back as it is, and each edit puts its text in the place of the bytes that it covers. Edits that lie
in the source and divide no character fail together exactly if two of them overlap.
-/

namespace IconSize
open Syntax Text

section

variable {Error First Second : Type} {change : First → Second} {answer : Except Error First}

theorem map_eq_ok_iff {result : Second} :
    answer.map change = .ok result ↔ ∃ value, answer = .ok value ∧ change value = result := by
  cases answer <;> simp [Except.map]

theorem map_eq_error_iff {error : Error} :
    answer.map change = .error error ↔ answer = .error error := by
  cases answer <;> simp [Except.map]

theorem exists_eq_ok (succeeded : answer.isOk = true) : ∃ value, answer = .ok value := by
  cases answer with
  | error error => cases succeeded
  | ok value => exact ⟨value, rfl⟩

end

/-- No byte belongs to both spans, and neither is empty inside the other. -/
def Syntax.Span.Apart (left right : Span) : Prop :=
  left.stop ≤ right.start ∨ right.stop ≤ left.start

instance (left right : Span) : Decidable (left.Apart right) :=
  inferInstanceAs (Decidable (_ ∨ _))

theorem Syntax.Span.Apart.symm {left right : Span} (apart : left.Apart right) :
    right.Apart left :=
  Or.symm apart

/-- `result` is `rest`, a source from the offset `cursor` on, with the edits in their order. -/
inductive Spliced : (cursor : Nat) → (rest : List Char) → List Edit → (result : List Char) → Prop
  | done (cursor : Nat) (rest : List Char) : Spliced cursor rest [] rest
  | edit {cursor : Nat} {kept replaced after result : List Char} {edit : Edit} {later : List Edit}
      (start : cursor + byteLength kept = edit.start)
      (stop : edit.start + byteLength replaced = edit.stop)
      (remaining : Spliced edit.stop after later result) :
      Spliced cursor (kept ++ replaced ++ after) (edit :: later)
        (kept ++ edit.text.toList ++ result)

namespace Edit

def span (edit : Edit) : Span := ⟨edit.start, edit.stop⟩

/-- No byte belongs to both edits, and neither is inserted inside the other. -/
def Apart (left right : Edit) : Prop := left.span.Apart right.span

theorem Apart.symm {left right : Edit} (apart : left.Apart right) : right.Apart left :=
  Span.Apart.symm apart

theorem pairwise_apart_iff_span (edits : List Edit) :
    edits.Pairwise Apart ↔ (edits.map span).Pairwise Span.Apart := by
  rw [List.pairwise_map]
  rfl

theorem isBefore_iff (left right : Edit) :
    left.isBefore right = true ↔
      left.start < right.start ∨ left.start = right.start ∧ left.stop ≤ right.stop := by
  simp [isBefore]

theorem isBefore_total (left right : Edit) :
    (left.isBefore right || right.isBefore left) = true := by
  rw [Bool.or_eq_true, isBefore_iff, isBefore_iff]
  omega

theorem isBefore_trans (first second third : Edit) (left : first.isBefore second = true)
    (right : second.isBefore third = true) : first.isBefore third = true := by
  rw [isBefore_iff] at left right ⊢
  omega

end Edit

namespace Plan

theorem ordered_perm (plan : Plan) : plan.ordered.Perm plan.edits :=
  List.mergeSort_perm plan.edits Edit.isBefore

theorem pairwise_ordered (plan : Plan) :
    plan.ordered.Pairwise fun left right => left.isBefore right = true :=
  List.pairwise_mergeSort Edit.isBefore_trans Edit.isBefore_total plan.edits

theorem ordered_of_pairwise {plan : Plan}
    (inOrder : plan.edits.Pairwise fun left right => left.isBefore right = true) :
    plan.ordered = plan.edits :=
  List.mergeSort_of_pairwise inOrder

/-- The edits in the order of the source, if no two of them have the same span. -/
theorem ordered_of_perm {plan : Plan} {edits : List Edit} (permuted : edits.Perm plan.edits)
    (inOrder : edits.Pairwise fun left right =>
      left.isBefore right = true ∧ right.isBefore left = false) : plan.ordered = edits := by
  refine (plan.ordered_perm.trans permuted.symm).eq_of_pairwise ?_ plan.pairwise_ordered
    (inOrder.imp And.left)
  intro first second firstMember secondMember before after
  have member : first ∈ edits :=
    permuted.mem_iff.mpr (plan.ordered_perm.mem_iff.mp firstMember)
  -- Of two different edits one comes before the other, which does not come before it.
  have apart : edits.Pairwise fun left right =>
      ¬(left.isBefore right = true ∧ right.isBefore left = true) := by
    refine inOrder.imp fun ordered both => ?_
    simp [ordered.2] at both
  have symmetric : Std.Symm fun left right : Edit =>
      ¬(left.isBefore right = true ∧ right.isBefore left = true) :=
    ⟨fun _ _ different both => different both.symm⟩
  by_cases same : first = second
  · exact same
  · exact absurd ⟨before, after⟩ (apart.forall member secondMember same)

theorem apply_of_perm {plan : Plan} {edits : List Edit} (permuted : edits.Perm plan.edits)
    (inOrder : edits.Pairwise fun left right =>
      left.isBefore right = true ∧ right.isBefore left = false) (source : String) :
    plan.apply source =
      (splice (byteLength source.toList) 0 (some source.toList) edits).map String.ofList := by
  unfold apply
  rw [ordered_of_perm permuted inOrder]

theorem apply_of_pairwise {plan : Plan}
    (inOrder : plan.edits.Pairwise fun left right => left.isBefore right = true)
    (source : String) :
    plan.apply source =
      (splice (byteLength source.toList) 0 (some source.toList) plan.edits).map
        String.ofList := by
  unfold apply
  rw [ordered_of_pairwise inOrder]

/-! ## The splice -/

theorem splice_none (length cursor : Nat) (edits : List Edit) (result : List Char) :
    splice length cursor none edits ≠ .ok result := by
  cases edits with
  | nil => simp [splice]
  | cons edit later =>
      unfold splice
      split <;> simp

theorem splice_cons {length cursor : Nat} {kept replaced after : List Char} {edit : Edit}
    (later : List Edit) (start : cursor + byteLength kept = edit.start)
    (stop : edit.start + byteLength replaced = edit.stop) (inside : edit.stop ≤ length) :
    splice length cursor (some (kept ++ replaced ++ after)) (edit :: later) =
      (splice length edit.stop (some after) later).map fun spliced =>
        kept ++ edit.text.toList ++ spliced := by
  have keptLength : edit.start - cursor = byteLength kept := by omega
  have replacedLength : edit.stop - edit.start = byteLength replaced := by omega
  rw [splice, if_neg (by omega)]
  simp only [keptLength, replacedLength, List.append_assoc, Option.bind_some, splitAt?_append,
    Option.map_some]

/-- Splicing succeeds with a result exactly if that is the splice. -/
theorem splice_eq_ok_iff {length cursor : Nat} {rest result : List Char} {edits : List Edit}
    (whole : length = cursor + byteLength rest) :
    splice length cursor (some rest) edits = .ok result ↔ Spliced cursor rest edits result := by
  induction edits generalizing cursor rest result with
  | nil =>
      constructor
      · intro equal
        cases equal
        exact .done cursor rest
      · rintro ⟨⟩
        rfl
  | cons edit later induction =>
      constructor
      · intro equal
        unfold splice at equal
        split at equal
        · cases equal
        · rename_i inside
          simp only [not_or, Nat.not_lt] at inside
          rcases inside with ⟨before, _, ordered⟩
          cases first : splitAt? (edit.start - cursor) rest with
          | none => simp [first] at equal
          | some parts =>
              rcases parts with ⟨kept, tail⟩
              rcases splitAt?_eq_some first with ⟨rfl, keptLength⟩
              simp only [Option.bind_some, first] at equal
              rcases map_eq_ok_iff.mp equal with ⟨spliced, remaining, rfl⟩
              cases second : splitAt? (edit.stop - edit.start) tail with
              | none =>
                  rw [second] at remaining
                  exact absurd remaining (splice_none _ _ _ _)
              | some parts =>
                  rcases parts with ⟨replaced, after⟩
                  rcases splitAt?_eq_some second with ⟨rfl, replacedLength⟩
                  rw [second] at remaining
                  simp only [byteLength_append] at whole
                  rw [← List.append_assoc]
                  exact .edit (by omega) (by omega) ((induction (by omega)).mp remaining)
      · intro spliced
        cases spliced with
        | edit start stop remaining =>
            simp only [byteLength_append] at whole
            rw [splice_cons later start stop (by omega), (induction (by omega)).mpr remaining]
            rfl

/-- Applying a plan succeeds exactly with the splice of its edits in the order of the source. -/
theorem apply_eq_ok_iff {plan : Plan} {source code : String} :
    plan.apply source = .ok code ↔ Spliced 0 source.toList plan.ordered code.toList := by
  rw [← splice_eq_ok_iff (Nat.zero_add (byteLength source.toList)).symm]
  unfold apply
  constructor
  · intro applied
    rcases map_eq_ok_iff.mp applied with ⟨spliced, equal, rfl⟩
    rw [equal, String.toList_ofList]
  · intro equal
    simp only [equal, Except.map, String.ofList_toList]

end Plan

/-! ## Edits of a splice -/

namespace Spliced

variable {cursor : Nat} {rest result : List Char} {edits : List Edit}

/-- Every edit of a splice begins after the cursor and does not end before it begins. -/
theorem bounds (spliced : Spliced cursor rest edits result) :
    ∀ edit ∈ edits, cursor ≤ edit.start ∧ edit.start ≤ edit.stop := by
  induction spliced with
  | done => simp
  | edit start stop _ induction =>
      intro other member
      rcases List.mem_cons.mp member with rfl | later
      · omega
      · have := induction other later
        omega

/-- The edits of a splice follow each other without overlap. -/
theorem pairwise (spliced : Spliced cursor rest edits result) :
    edits.Pairwise fun left right => left.stop ≤ right.start := by
  induction spliced with
  | done => exact .nil
  | edit _ _ remaining induction =>
      exact .cons (fun other later => (remaining.bounds other later).1) induction

end Spliced

namespace Text

/-- The offset divides the text between two characters, or lies at one of its ends. -/
def IsBoundary (text : List Char) (offset : Nat) : Prop :=
  ∃ front back, text = front ++ back ∧ byteLength front = offset

theorem byteLength_eq_zero {text : List Char} (empty : byteLength text = 0) : text = [] := by
  cases text with
  | nil => rfl
  | cons character text =>
      have := character.utf8Size_pos
      simp only [byteLength_cons] at empty
      omega

theorem IsBoundary.after {before rest : List Char} {offset : Nat}
    (boundary : IsBoundary (before ++ rest) offset) (later : byteLength before ≤ offset) :
    ∃ kept after, rest = kept ++ after ∧ byteLength before + byteLength kept = offset := by
  rcases boundary with ⟨front, back, equal, rfl⟩
  rcases List.append_eq_append_iff.mp equal with ⟨kept, rfl, rfl⟩ | ⟨kept, rfl, rfl⟩
  · exact ⟨kept, back, rfl, (byteLength_append before kept).symm⟩
  · rw [byteLength_append] at later
    obtain rfl : kept = [] := byteLength_eq_zero (by omega)
    exact ⟨[], rest, rfl, by simp⟩

theorem isBoundary_iff {text : List Char} {offset : Nat} :
    IsBoundary text offset ↔ (splitAt? offset text).isSome = true := by
  constructor
  · rintro ⟨front, back, rfl, rfl⟩
    rw [splitAt?_append]
    rfl
  · intro found
    rcases Option.isSome_iff_exists.mp found with ⟨⟨front, back⟩, found⟩
    exact ⟨front, back, splitAt?_eq_some found⟩

instance (text : List Char) (offset : Nat) : Decidable (IsBoundary text offset) :=
  decidable_of_iff _ isBoundary_iff.symm

theorem IsBoundary.le {text : List Char} {offset : Nat} (boundary : IsBoundary text offset) :
    offset ≤ byteLength text := by
  rcases boundary with ⟨front, back, rfl, rfl⟩
  rw [byteLength_append]
  omega

end Text

/-- The span covers whole characters of the source. -/
structure Syntax.Span.LiesIn (span : Span) (source : List Char) : Prop where
  ordered : span.start ≤ span.stop
  start : IsBoundary source span.start
  stop : IsBoundary source span.stop

instance (span : Span) (source : List Char) : Decidable (span.LiesIn source) :=
  decidable_of_iff (span.start ≤ span.stop ∧ IsBoundary source span.start ∧
      IsBoundary source span.stop)
    ⟨fun ⟨ordered, start, stop⟩ => ⟨ordered, start, stop⟩,
      fun ⟨ordered, start, stop⟩ => ⟨ordered, start, stop⟩⟩

def Edit.LiesIn (edit : Edit) (source : List Char) : Prop := edit.span.LiesIn source

namespace Edit.LiesIn

theorem exists_parts {edit : Edit} {before rest : List Char} (lies : edit.LiesIn (before ++ rest))
    (later : byteLength before ≤ edit.start) :
    ∃ kept replaced after, rest = kept ++ replaced ++ after ∧
      byteLength before + byteLength kept = edit.start ∧
      edit.start + byteLength replaced = edit.stop := by
  rcases lies.start.after later with ⟨kept, tail, rfl, keptLength⟩
  have stop := lies.stop
  rw [← List.append_assoc] at stop
  rcases stop.after (by rw [byteLength_append, keptLength]; exact lies.ordered)
      with ⟨replaced, after, rfl, replacedLength⟩
  rw [byteLength_append, keptLength] at replacedLength
  exact ⟨kept, replaced, after, (List.append_assoc _ _ _).symm, keptLength, replacedLength⟩

end Edit.LiesIn

namespace Plan

/-- Edits that lie in the source and follow each other can be spliced in. -/
theorem exists_spliced (before rest : List Char) {edits : List Edit}
    (lie : ∀ edit ∈ edits, edit.LiesIn (before ++ rest))
    (after : ∀ edit ∈ edits, byteLength before ≤ edit.start)
    (follow : edits.Pairwise fun left right => left.stop ≤ right.start) :
    ∃ result, Spliced (byteLength before) rest edits result := by
  induction edits generalizing before rest with
  | nil => exact ⟨rest, .done _ rest⟩
  | cons edit later induction =>
      rcases List.pairwise_cons.mp follow with ⟨first, follow⟩
      have lies := lie edit List.mem_cons_self
      rcases lies.exists_parts (after edit List.mem_cons_self)
          with ⟨kept, replaced, tail, rfl, start, stop⟩
      have length : byteLength (before ++ kept ++ replaced) = edit.stop := by
        simp only [byteLength_append]
        omega
      have whole : before ++ (kept ++ replaced ++ tail) = before ++ kept ++ replaced ++ tail := by
        simp
      rcases induction (before ++ kept ++ replaced) tail
        (fun other member => whole ▸ lie other (List.mem_cons_of_mem edit member))
        (fun other member => length ▸ first other member) follow with ⟨result, spliced⟩
      rw [length] at spliced
      exact ⟨_, .edit start stop spliced⟩

/-- Splicing never divides a character, if no edit that is ordered and ends in the source does. -/
theorem splice_ne_insideCharacter (before rest : List Char) {edits : List Edit}
    (lie : ∀ edit ∈ edits, edit.start ≤ edit.stop → edit.stop ≤ byteLength (before ++ rest) →
      edit.LiesIn (before ++ rest)) :
    splice (byteLength (before ++ rest)) (byteLength before) (some rest) edits ≠
      .error .insideCharacter := by
  induction edits generalizing before rest with
  | nil => simp [splice]
  | cons edit later induction =>
      by_cases overlap : edit.start < byteLength before ∨ byteLength (before ++ rest) < edit.stop ∨
          edit.stop < edit.start
      · rw [splice, if_pos overlap]
        simp
      · simp only [not_or, Nat.not_lt] at overlap
        rcases overlap with ⟨begins, ends, ordered⟩
        have lies := lie edit List.mem_cons_self ordered ends
        rcases lies.exists_parts begins with ⟨kept, replaced, tail, rfl, start, stop⟩
        have length : byteLength (before ++ kept ++ replaced) = edit.stop := by
          simp only [byteLength_append]
          omega
        have whole : before ++ (kept ++ replaced ++ tail) = before ++ kept ++ replaced ++ tail := by
          simp
        have remaining := induction (before ++ kept ++ replaced) tail
          fun other member => whole ▸ lie other (List.mem_cons_of_mem edit member)
        rw [splice_cons later start stop lies.stop.le, Ne, map_eq_error_iff, whole]
        rwa [length] at remaining

/-- Edits in order do not overlap exactly if they follow each other. -/
theorem pairwise_apart_iff {edits : List Edit} (ordered : ∀ edit ∈ edits, edit.start ≤ edit.stop)
    (inOrder : edits.Pairwise fun left right => left.isBefore right = true) :
    edits.Pairwise Edit.Apart ↔ edits.Pairwise fun left right => left.stop ≤ right.start := by
  induction edits with
  | nil => simp
  | cons edit later induction =>
      rcases List.pairwise_cons.mp inOrder with ⟨first, inOrder⟩
      rw [List.pairwise_cons, List.pairwise_cons,
        induction (fun other member => ordered other (List.mem_cons_of_mem edit member)) inOrder]
      refine and_congr_left fun _ => forall₂_congr fun other member => ?_
      have before := (edit.isBefore_iff other).mp (first other member)
      have := ordered other (List.mem_cons_of_mem edit member)
      simp only [Edit.Apart, Span.Apart, Edit.span]
      omega

variable {plan : Plan} {source : String}

/-- Applying a plan whose edits lie in the source succeeds exactly if no two edits overlap. -/
theorem exists_apply_eq_ok_iff (lie : ∀ edit ∈ plan.edits, edit.LiesIn source.toList) :
    (∃ code, plan.apply source = .ok code) ↔ plan.edits.Pairwise Edit.Apart := by
  have lieOrdered : ∀ edit ∈ plan.ordered, edit.LiesIn source.toList :=
    fun edit member => lie edit (plan.ordered_perm.mem_iff.mp member)
  rw [← plan.ordered_perm.pairwise_iff Edit.Apart.symm,
    pairwise_apart_iff (fun edit member => (lieOrdered edit member).ordered) plan.pairwise_ordered]
  constructor
  · rintro ⟨code, applied⟩
    exact (apply_eq_ok_iff.mp applied).pairwise
  · intro follow
    rcases exists_spliced [] source.toList lieOrdered
      (fun edit _ => Nat.zero_le edit.start) follow with ⟨result, spliced⟩
    exact ⟨String.ofList result, apply_eq_ok_iff.mpr (by rwa [String.toList_ofList])⟩

theorem apply_ne_insideCharacter (lie : ∀ edit ∈ plan.edits, edit.LiesIn source.toList) :
    plan.apply source ≠ .error .insideCharacter := by
  rw [Ne, apply, map_eq_error_iff]
  exact splice_ne_insideCharacter [] source.toList fun edit member _ _ =>
    lie edit (plan.ordered_perm.mem_iff.mp member)

/-- Where the edits of a plan lie in the source, overlap is all that can keep it from being
applied. -/
theorem exists_apply_eq_overlap_iff (lie : ∀ edit ∈ plan.edits, edit.LiesIn source.toList) :
    (∃ start stop, plan.apply source = .error (.overlap start stop)) ↔
      ¬ plan.edits.Pairwise Edit.Apart := by
  rw [← exists_apply_eq_ok_iff lie]
  constructor
  · rintro ⟨start, stop, failed⟩ ⟨code, applied⟩
    rw [failed] at applied
    cases applied
  · intro unapplied
    cases applied : plan.apply source with
    | ok code => exact absurd ⟨code, applied⟩ unapplied
    | error fault =>
        cases fault with
        | overlap start stop => exact ⟨start, stop, rfl⟩
        | insideCharacter => exact absurd applied (apply_ne_insideCharacter lie)

end Plan
end IconSize
