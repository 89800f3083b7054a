import IconSize.Proofs.Edits.Conflicts

/-!
Where the bytes of a source go when a plan is applied. An edit makes the text longer by its growth,
which may be negative. Each byte that no edit covers moves by the growth of the edits that end
before it, and the text of an edit stands where the edit begins, moved by the growth of the edits
before it. Which edits come before another one follows from their spans and, for equal spans, from
the order in which they are planned, so that plans that agree on these give the same text.
-/

namespace IconSize
open Syntax Text

namespace Text

@[simp] theorem encode_append (front back : String) :
    encode (front ++ back) = encode front ++ encode back := by
  simp [encode]

@[simp] theorem length_encode (text : String) : (encode text).length = byteLength text.toList := by
  rw [← String.ofList_toList (s := text)]
  generalize text.toList = chars
  induction chars with
  | nil => rfl
  | cons character rest induction =>
      rw [String.toList_ofList] at induction ⊢
      have first : (encode (String.singleton character)).length = character.utf8Size := by
        simp [encode, List.utf8Encode]
      rw [String.ofList_cons, encode_append, List.length_append, first, induction,
        byteLength_cons]

/-- The bytes of a text that is given by its characters. -/
def bytes (chars : List Char) : List UInt8 := encode (String.ofList chars)

@[simp] theorem bytes_append (front back : List Char) :
    bytes (front ++ back) = bytes front ++ bytes back := by
  simp [bytes]

@[simp] theorem length_bytes (chars : List Char) : (bytes chars).length = byteLength chars := by
  simp [bytes, length_encode]

@[simp] theorem bytes_toList (text : String) : bytes text.toList = encode text := by
  simp [bytes]

end Text

/-! ## Growth -/

namespace Edit

/-- By how many bytes the edit makes the text longer. -/
def growth (edit : Edit) : Int := (encode edit.text).length - ((edit.stop : Int) - edit.start)

/-- By how many bytes the edits make the text longer together. -/
def growthOfAll : List Edit → Int
  | [] => 0
  | edit :: edits => edit.growth + growthOfAll edits

@[simp] theorem growthOfAll_nil : growthOfAll [] = 0 := rfl

@[simp] theorem growthOfAll_cons (edit : Edit) (edits : List Edit) :
    growthOfAll (edit :: edits) = edit.growth + growthOfAll edits := rfl

theorem growthOfAll_perm {left right : List Edit} (permuted : left.Perm right) :
    growthOfAll left = growthOfAll right := by
  induction permuted with
  | nil => rfl
  | cons edit _ induction => rw [growthOfAll_cons, growthOfAll_cons, induction]
  | swap first second edits =>
      simp only [growthOfAll_cons]
      omega
  | trans _ _ first second => exact first.trans second

end Edit

/-! ## Places in a splice -/

namespace Spliced
open Edit (growthOfAll)

variable {cursor : Nat} {rest result : List Char} {edits : List Edit}

theorem growth_of_length {replaced : List Char} {edit : Edit}
    (stop : edit.start + byteLength replaced = edit.stop) :
    edit.growth = (byteLength edit.text.toList : Int) - byteLength replaced := by
  rw [Edit.growth, length_encode]
  omega

/-- The text grows by what all edits add. -/
theorem byteLength_result (spliced : Spliced cursor rest edits result) :
    (byteLength result : Int) = byteLength rest + growthOfAll edits := by
  induction spliced with
  | done => simp
  | edit start stop _ induction =>
      simp only [byteLength_append, Edit.growthOfAll_cons, growth_of_length stop]
      omega

/-- A byte that no edit covers moves by what the edits add that end before it. -/
theorem getElem?_result (spliced : Spliced cursor rest edits result) {offset : Nat}
    (uncovered : ∀ edit ∈ edits, ¬ edit.Covers (cursor + offset)) :
    ∃ place : Nat,
      (place : Int) = offset + growthOfAll (edits.filter (·.stop ≤ cursor + offset)) ∧
        (bytes result)[place]? = (bytes rest)[offset]? := by
  induction spliced generalizing offset with
  | done => exact ⟨offset, by simp, rfl⟩
  | @edit cursor kept replaced after result edit later start stop remaining induction =>
      have bounds := (Spliced.edit start stop remaining).bounds
      by_cases early : offset < byteLength kept
      · -- The byte stands before the first edit, and no edit ends before it.
        have none : (edit :: later).filter (·.stop ≤ cursor + offset) = [] := by
          refine List.filter_eq_nil_iff.mpr fun other member => ?_
          have ordered := (bounds other member).2
          have follows : edit.start ≤ other.start := by
            rcases List.mem_cons.mp member with rfl | member
            · exact Nat.le_refl _
            · have := (remaining.bounds other member).1
              omega
          simp only [decide_eq_true_eq]
          omega
        refine ⟨offset, by simp [none], ?_⟩
        simp only [bytes_append, List.append_assoc]
        rw [List.getElem?_append_left (by simpa using early),
          List.getElem?_append_left (by simpa using early)]
      · -- Otherwise it stands behind the edit, which does not cover it.
        have outside := uncovered edit List.mem_cons_self
        unfold Edit.Covers at outside
        obtain ⟨later', rfl⟩ : ∃ rest, offset = byteLength kept + byteLength replaced + rest :=
          ⟨offset - (byteLength kept + byteLength replaced), by omega⟩
        have position : cursor + (byteLength kept + byteLength replaced + later') =
            edit.stop + later' := by omega
        rw [position] at uncovered ⊢
        rcases induction fun other member => uncovered other (List.mem_cons_of_mem edit member)
            with ⟨place, moved, same⟩
        refine ⟨byteLength kept + byteLength edit.text.toList + place, ?_, ?_⟩
        · rw [List.filter_cons_of_pos (by simp), Edit.growthOfAll_cons, growth_of_length stop]
          omega
        · simp only [bytes_append]
          rw [List.getElem?_append_right (by simp), List.getElem?_append_right (by simp)]
          simpa using same

/-- The text of an edit begins where the edit does, moved by what the edits before it add. -/
theorem exists_text {before later : List Edit} {edit : Edit}
    (spliced : Spliced cursor rest (before ++ edit :: later) result) :
    ∃ front back, result = front ++ edit.text.toList ++ back ∧
      (cursor + byteLength front : Int) = edit.start + growthOfAll before := by
  induction before generalizing cursor rest result with
  | nil =>
      cases spliced with
      | @edit _ kept _ _ result _ _ start stop remaining =>
          exact ⟨kept, result, rfl, by simp; omega⟩
  | cons first before induction =>
      cases spliced with
      | @edit _ kept _ _ result _ _ start stop remaining =>
          rcases induction remaining with ⟨front, back, rfl, place⟩
          refine ⟨kept ++ first.text.toList ++ front, back, by simp, ?_⟩
          simp only [byteLength_append, Edit.growthOfAll_cons, growth_of_length stop]
          omega

end Spliced

/-! ## The order of the source -/

namespace Edit

/-- Of the edits of a plan, `earlier` and `later` than this one, those that come before it in the
order of the source: they begin before it, or begin where it does and end before it, or have its
span and are planned earlier. -/
def preceding (edit : Edit) (earlier later : List Edit) : List Edit :=
  earlier.filter (·.isBefore edit) ++ later.filter (! edit.isBefore ·)

/-- Of the edits of a plan, those that come after this one in the order of the source. -/
def following (edit : Edit) (earlier later : List Edit) : List Edit :=
  earlier.filter (! ·.isBefore edit) ++ later.filter (edit.isBefore ·)

theorem span_eq_iff {left right : Edit} : left.span = right.span ↔
    left.isBefore right = true ∧ right.isBefore left = true := by
  simp only [span, Span.mk.injEq, isBefore_iff]
  omega

theorem not_isBefore {left right : Edit} (after : left.isBefore right = false) :
    right.isBefore left = true := by
  have total := isBefore_total left right
  rwa [after, Bool.false_or] at total

end Edit

namespace Plan

/-- Two plans with the same edits, in which those of one span stand in the same order. -/
def Rearranges (left right : Plan) : Prop :=
  ∀ span, left.edits.filter (·.span == span) = right.edits.filter (·.span == span)

theorem mem_iff_of_filter_span {left right : List Edit}
    (same : ∀ span, left.filter (·.span == span) = right.filter (·.span == span)) (edit : Edit) :
    edit ∈ left ↔ edit ∈ right := by
  have members := congrArg (edit ∈ ·) (same edit.span)
  simpa using members

/-- Edits in order that are the same for each span are the same. -/
theorem eq_of_filter_span {left right : List Edit}
    (leftOrdered : left.Pairwise fun first second => first.isBefore second = true)
    (rightOrdered : right.Pairwise fun first second => first.isBefore second = true)
    (same : ∀ span, left.filter (·.span == span) = right.filter (·.span == span)) :
    left = right := by
  induction left generalizing right with
  | nil =>
      refine (List.eq_nil_iff_forall_not_mem.mpr fun edit member => ?_).symm
      exact List.not_mem_nil ((mem_iff_of_filter_span same edit).mpr member)
  | cons edit left induction =>
      have inRight := (mem_iff_of_filter_span same edit).mp List.mem_cons_self
      cases right with
      | nil => exact absurd inRight List.not_mem_nil
      | cons other right =>
          have inLeft := (mem_iff_of_filter_span same other).mpr List.mem_cons_self
          rw [List.pairwise_cons] at leftOrdered rightOrdered
          -- Each of the first edits comes before the other one or is it.
          have forward : edit.isBefore other = true := by
            rcases List.mem_cons.mp inLeft with rfl | member
            · exact (Edit.span_eq_iff.mp rfl).1
            · exact leftOrdered.1 other member
          have backward : other.isBefore edit = true := by
            rcases List.mem_cons.mp inRight with rfl | member
            · exact (Edit.span_eq_iff.mp rfl).1
            · exact rightOrdered.1 edit member
          have spans : edit.span = other.span := Edit.span_eq_iff.mpr ⟨forward, backward⟩
          have heads := same edit.span
          rw [List.filter_cons_of_pos (by simp), List.filter_cons_of_pos (by simp [spans])] at heads
          obtain rfl : edit = other := (List.cons.inj heads).1
          rw [induction leftOrdered.2 rightOrdered.2 fun span => ?_]
          by_cases first : edit.span = span <;> simpa [first] using same span

/-- In the order of the source, edits of one span keep the order in which they are planned. -/
theorem rearranges_ordered (plan : Plan) : Rearranges ⟨plan.ordered⟩ plan := by
  intro span
  have part : (plan.edits.filter (·.span == span)).Sublist plan.ordered := by
    refine List.sublist_mergeSort Edit.isBefore_trans Edit.isBefore_total ?_ List.filter_sublist
    refine List.pairwise_of_forall_mem_list fun left leftMember right rightMember => ?_
    have leftSpan : left.span = span := by simpa using (List.mem_filter.mp leftMember).2
    have rightSpan : right.span = span := by simpa using (List.mem_filter.mp rightMember).2
    exact (Edit.span_eq_iff.mp (leftSpan.trans rightSpan.symm)).1
  have inside := part.filter (·.span == span)
  rw [List.filter_filter] at inside
  simp only [Bool.and_self] at inside
  refine (inside.eq_of_length ?_).symm
  exact (plan.ordered_perm.filter (·.span == span)).length_eq.symm

theorem Rearranges.ordered_eq {left right : Plan} (rearranged : left.Rearranges right) :
    left.ordered = right.ordered := by
  refine eq_of_filter_span left.pairwise_ordered right.pairwise_ordered fun span => ?_
  rw [left.rearranges_ordered span, right.rearranges_ordered span]
  exact rearranged span

/-- Plans that have the same edits for each span do the same. -/
theorem Rearranges.apply_eq {left right : Plan} (rearranged : left.Rearranges right)
    (source : String) : left.apply source = right.apply source := by
  rw [apply, apply, rearranged.ordered_eq]

/-- Of the edits with one span, a condition on the span takes all or none. -/
theorem filter_span_filter {holds : Edit → Bool} {answer : Bool} {span : Span}
    (decided : ∀ edit : Edit, edit.span = span → holds edit = answer) (edits : List Edit) :
    (edits.filter holds).filter (·.span == span) =
      if answer then edits.filter (·.span == span) else [] := by
  rw [List.filter_filter]
  cases answer with
  | true =>
      refine List.filter_congr fun edit _ => ?_
      by_cases same : edit.span = span <;> simp [same, decided]
  | false =>
      refine List.filter_eq_nil_iff.mpr fun edit _ => ?_
      by_cases same : edit.span = span <;> simp [same, decided]

/-- The order of the source puts an edit between those that precede and those that follow it. -/
theorem ordered_eq_append {plan : Plan} {earlier later : List Edit} {edit : Edit}
    (split : plan.edits = earlier ++ edit :: later) :
    plan.ordered = ordered ⟨edit.preceding earlier later⟩ ++
      edit :: ordered ⟨edit.following earlier later⟩ := by
  have precede : ∀ other ∈ ordered ⟨edit.preceding earlier later⟩,
      other.isBefore edit = true := by
    intro other member
    rw [(ordered_perm _).mem_iff] at member
    rcases List.mem_append.mp member with member | member
    · exact (List.mem_filter.mp member).2
    · exact Edit.not_isBefore (by simpa using (List.mem_filter.mp member).2)
  have follow : ∀ other ∈ ordered ⟨edit.following earlier later⟩,
      edit.isBefore other = true := by
    intro other member
    rw [(ordered_perm _).mem_iff] at member
    rcases List.mem_append.mp member with member | member
    · exact Edit.not_isBefore (by simpa using (List.mem_filter.mp member).2)
    · exact (List.mem_filter.mp member).2
  refine eq_of_filter_span plan.pairwise_ordered ?inOrder fun span => ?_
  case inOrder =>
    refine List.pairwise_append.mpr ⟨pairwise_ordered _,
      List.pairwise_cons.mpr ⟨follow, pairwise_ordered _⟩, ?_⟩
    intro first firstMember second member
    have before := precede first firstMember
    rcases List.mem_cons.mp member with rfl | member
    · exact before
    · exact Edit.isBefore_trans first edit second before (follow second member)
  -- What the edits of one span are to this edit is the same for all of them.
  have isBefore (other : Edit) (same : other.span = span) :
      other.isBefore edit = Edit.isBefore ⟨span.start, span.stop, ""⟩ edit := by
    subst same
    rfl
  have isAfter (other : Edit) (same : other.span = span) :
      edit.isBefore other = edit.isBefore ⟨span.start, span.stop, ""⟩ := by
    subst same
    rfl
  have equal : edit.span = span ↔ edit.isBefore ⟨span.start, span.stop, ""⟩ = true ∧
      Edit.isBefore ⟨span.start, span.stop, ""⟩ edit = true :=
    @Edit.span_eq_iff edit ⟨span.start, span.stop, ""⟩
  have total := edit.isBefore_total ⟨span.start, span.stop, ""⟩
  rw [List.filter_append, List.filter_cons, rearranges_ordered, rearranges_ordered,
    rearranges_ordered, split, Edit.preceding, Edit.following]
  simp only [List.filter_append, List.filter_cons,
    filter_span_filter isBefore, filter_span_filter isAfter,
    filter_span_filter fun other same => congrArg (! ·) (isBefore other same),
    filter_span_filter fun other same => congrArg (! ·) (isAfter other same)]
  generalize edit.isBefore ⟨span.start, span.stop, ""⟩ = after at *
  generalize Edit.isBefore ⟨span.start, span.stop, ""⟩ edit = before at *
  cases before <;> cases after <;> simp_all

end Plan

/-- What applying a plan makes of a source, told without the order in which it is done. The text
grows by what all edits add; a byte that no edit covers moves by what the edits add that end before
it; the text of each edit begins where the edit does, moved by what the edits add that precede it;
and every plan that has the same edits for each span, in the same order, gives the same text. -/
theorem plan_moves_bytes_by_growth (plan : Plan) (source code : String)
    (applied : plan.apply source = .ok code) :
    ((encode code).length : Int) = (encode source).length + Edit.growthOfAll plan.edits ∧
      (∀ offset < (encode source).length, (∀ edit ∈ plan.edits, ¬ edit.Covers offset) →
        ∃ place : Nat,
          (place : Int) = offset + Edit.growthOfAll (plan.edits.filter (·.stop ≤ offset)) ∧
            (encode code)[place]? = (encode source)[offset]?) ∧
      (∀ earlier edit later, plan.edits = earlier ++ edit :: later →
        ∃ front back, encode code = front ++ encode edit.text ++ back ∧
          (front.length : Int) =
            edit.start + Edit.growthOfAll (edit.preceding earlier later)) ∧
      (∀ other : Plan, other.Rearranges plan → other.apply source = .ok code) := by
  have spliced := Plan.apply_eq_ok_iff.mp applied
  have permuted := plan.ordered_perm
  refine ⟨?length, ?kept, ?placed, fun other rearranged => ?_⟩
  case length =>
    rw [length_encode, length_encode, ← Edit.growthOfAll_perm permuted]
    exact spliced.byteLength_result
  case kept =>
    intro offset _ uncovered
    have uncoveredInOrder : ∀ edit ∈ plan.ordered, ¬ edit.Covers (0 + offset) := by
      intro edit member
      rw [Nat.zero_add]
      exact uncovered edit (permuted.mem_iff.mp member)
    rcases spliced.getElem?_result uncoveredInOrder with ⟨place, moved, same⟩
    rw [Nat.zero_add, Edit.growthOfAll_perm (permuted.filter _)] at moved
    exact ⟨place, moved, by simpa using same⟩
  case placed =>
    intro earlier edit later split
    rw [Plan.ordered_eq_append split] at spliced
    rcases spliced.exists_text with ⟨front, back, equal, place⟩
    refine ⟨bytes front, bytes back, ?_, ?_⟩
    · rw [← bytes_toList code, equal]
      simp
    · rw [length_bytes, ← Edit.growthOfAll_perm (Plan.ordered_perm _), ← place]
      simp
  · rw [rearranged.apply_eq, applied]

/-- In `aéb` the accented letter is replaced, with an insertion on each side of it, of which the one
behind it is planned first. -/
private def insertionsAroundLetter : Plan := ⟨[⟨3, 3, ">"⟩, ⟨1, 3, "e"⟩, ⟨1, 1, "<<"⟩]⟩

/-- The insertions add three bytes and the replacement takes one. The last letter moves by all of
them, and the text of the replacement by the two bytes that are inserted before it. -/
theorem letter_between_insertions_moves :
    insertionsAroundLetter.apply "aéb" = .ok "a<<e>b" ∧
      (encode "a<<e>b").length = (encode "aéb").length + 2 ∧
      (∃ place : Nat, (place : Int) = 3 + 2 ∧
        (encode "a<<e>b")[place]? = (encode "aéb")[3]?) ∧
      ∃ front back, encode "a<<e>b" = front ++ encode "e" ++ back ∧
        (front.length : Int) = 1 + 2 := by
  have permuted : List.Perm [⟨1, 1, "<<"⟩, ⟨1, 3, "e"⟩, ⟨3, 3, ">"⟩]
      insertionsAroundLetter.edits := by decide
  have applied : insertionsAroundLetter.apply "aéb" = .ok "a<<e>b" := by
    rw [Plan.apply_of_perm permuted (by decide)]
    decide +kernel
  rcases plan_moves_bytes_by_growth insertionsAroundLetter "aéb" "a<<e>b" applied with
    ⟨-, kept, placed, -⟩
  refine ⟨applied, by decide +kernel, ?_, ?_⟩
  · exact kept 3 (by decide +kernel) (by simp [insertionsAroundLetter, Edit.Covers])
  · exact placed [⟨3, 3, ">"⟩] ⟨1, 3, "e"⟩ [⟨1, 1, "<<"⟩] rfl

end IconSize
