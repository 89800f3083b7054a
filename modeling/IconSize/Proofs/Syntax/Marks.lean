import IconSize.Proofs.Syntax.Outline
import IconSize.Proofs.Syntax.Roles

/-!
What a tree keeps of the source, in the order in which it is written there. Every mark takes a byte
of the source at least, and the marks of a tree that is laid out in a source follow each other. So
its outline fits the source, and no two of its identifiers have the same span.
-/

namespace IconSize.Syntax
open Text

/-- A stretch of the source that a tree keeps. -/
inductive Mark where
  /-- A name that refers to something. -/
  | name (span : Span)
  /-- The name in an opening tag without type arguments, and the place for attributes. -/
  | tag (span : Span) (attributesAt : Nat)
  /-- The closing angle of the type arguments in an opening tag, with the place for attributes
  behind it. -/
  | angle (attributesAt : Nat)
  /-- Something that stands aside: a part of an import, or a name of another module. -/
  | aside (span : Span)
deriving DecidableEq

namespace Mark

def span? : Mark → Option Span
  | name span | tag span _ | aside span => some span
  | angle _ => none

/-- The mark stands in the source, after one offset and up to another. -/
def Stands (source : List Char) (low high : Nat) : Mark → Prop
  | name span | aside span =>
    span.LiesIn source ∧ span.start < span.stop ∧ low ≤ span.start ∧ span.stop = high
  | tag span attributesAt =>
    span.LiesIn source ∧ span.start < span.stop ∧ low ≤ span.start ∧ span.stop = high ∧
      attributesAt = high
  | angle attributesAt => IsBoundary source attributesAt ∧ low < attributesAt ∧ attributesAt = high

/-- The spans of what the marks cover. -/
def spans (marks : List Mark) : List Span := marks.filterMap span?

/-- The names of the mark that refer to something, and its place for attributes. -/
def stretches : Mark → List Span
  | name span => [span]
  | tag span attributesAt => [span, ⟨attributesAt, attributesAt⟩]
  | angle attributesAt => [⟨attributesAt, attributesAt⟩]
  | aside _ => []

@[simp] theorem spans_append (front back : List Mark) :
    spans (front ++ back) = spans front ++ spans back := List.filterMap_append

@[simp] theorem spans_nil : spans [] = [] := rfl

@[simp] theorem spans_name (span : Span) (others : List Mark) :
    spans (.name span :: others) = span :: spans others := rfl

@[simp] theorem spans_tag (span : Span) (attributesAt : Nat) (others : List Mark) :
    spans (.tag span attributesAt :: others) = span :: spans others := rfl

@[simp] theorem spans_angle (attributesAt : Nat) (others : List Mark) :
    spans (.angle attributesAt :: others) = spans others := rfl

@[simp] theorem spans_aside (span : Span) (others : List Mark) :
    spans (.aside span :: others) = span :: spans others := rfl

end Mark

/-- The marks follow each other in the source, from one offset up to another. -/
def Laid (source : List Char) (low : Nat) : List Mark → Nat → Prop
  | [], high => low ≤ high
  | mark :: marks, high => ∃ stop, mark.Stands source low stop ∧ Laid source stop marks high

section

variable {source : List Char} {low high : Nat} {mark : Mark} {marks others : List Mark}

theorem Mark.Stands.lt (stands : mark.Stands source low high) : low < high := by
  cases mark <;> simp only [Mark.Stands] at stands <;> omega

theorem Mark.Stands.mono {lower : Nat} (stands : mark.Stands source low high) (le : lower ≤ low) :
    mark.Stands source lower high := by
  cases mark <;> simp only [Mark.Stands] at stands ⊢ <;> grind

namespace Laid

theorem le (laid : Laid source low marks high) : low ≤ high := by
  induction marks generalizing low with
  | nil => exact laid
  | cons mark marks induction =>
      rcases laid with ⟨stop, stands, laid⟩
      exact Nat.le_of_lt (Nat.lt_of_lt_of_le stands.lt (induction laid))

theorem mono_low {lower : Nat} (laid : Laid source low marks high) (le : lower ≤ low) :
    Laid source lower marks high := by
  cases marks with
  | nil => exact Nat.le_trans le laid
  | cons mark marks =>
      rcases laid with ⟨stop, stands, laid⟩
      exact ⟨stop, stands.mono le, laid⟩

theorem mono_high {higher : Nat} (laid : Laid source low marks high) (le : high ≤ higher) :
    Laid source low marks higher := by
  induction marks generalizing low with
  | nil => exact Nat.le_trans laid le
  | cons mark marks induction =>
      rcases laid with ⟨stop, stands, laid⟩
      exact ⟨stop, stands, induction laid⟩

theorem append_iff : Laid source low (marks ++ others) high ↔
    ∃ middle, Laid source low marks middle ∧ Laid source middle others high := by
  induction marks generalizing low with
  | nil =>
      exact ⟨fun laid => ⟨low, Nat.le_refl low, laid⟩,
        fun ⟨_, le, laid⟩ => laid.mono_low le⟩
  | cons mark marks induction =>
      constructor
      · rintro ⟨stop, stands, laid⟩
        rcases induction.mp laid with ⟨middle, first, second⟩
        exact ⟨middle, ⟨stop, stands, first⟩, second⟩
      · rintro ⟨middle, ⟨stop, stands, first⟩, second⟩
        exact ⟨stop, stands, induction.mpr ⟨middle, first, second⟩⟩

theorem append {middle : Nat} (first : Laid source low marks middle)
    (second : Laid source middle others high) : Laid source low (marks ++ others) high :=
  append_iff.mpr ⟨middle, first, second⟩

theorem sublist (laid : Laid source low marks high) (part : others.Sublist marks) :
    Laid source low others high := by
  induction part generalizing low with
  | slnil => exact laid
  | cons mark _ induction =>
      rcases laid with ⟨stop, stands, laid⟩
      exact induction (laid.mono_low (Nat.le_of_lt stands.lt))
  | cons_cons mark _ induction =>
      rcases laid with ⟨stop, stands, laid⟩
      exact ⟨stop, stands, induction laid⟩

/-- The stretches of the marks begin and end behind the first offset. -/
theorem after_of_mem_stretches (laid : Laid source low marks high) :
    ∀ span ∈ marks.flatMap Mark.stretches, low ≤ span.start ∧ low < span.stop := by
  induction marks generalizing low with
  | nil => exact List.forall_mem_nil _
  | cons mark marks induction =>
      rcases laid with ⟨stop, stands, laid⟩
      intro span member
      rcases List.mem_append.mp member with first | later
      · cases mark <;> simp only [Mark.stretches, Mark.Stands, List.mem_cons, List.not_mem_nil,
          or_false] at first stands <;> grind
      · have after := induction laid span later
        have := stands.lt
        omega

/-- No two stretches of the marks are the same. -/
theorem nodup_stretches (laid : Laid source low marks high) :
    (marks.flatMap Mark.stretches).Nodup := by
  induction marks generalizing low with
  | nil => exact .nil
  | cons mark marks induction =>
      rcases laid with ⟨stop, stands, laid⟩
      refine List.nodup_append.mpr ⟨?_, induction laid, ?_⟩
      · cases mark <;> simp only [Mark.stretches, Mark.Stands, List.nodup_cons, List.mem_cons,
          List.not_mem_nil, or_false, not_false_eq_true, List.nodup_nil, and_true] at stands ⊢
        rintro rfl
        exact Nat.lt_irrefl _ stands.2.1
      · rintro first member other later rfl
        have after := laid.after_of_mem_stretches first later
        cases mark <;> simp only [Mark.stretches, Mark.Stands, List.mem_cons, List.not_mem_nil,
          or_false] at member stands <;> grind

/-- What the marks cover is not empty and begins behind the first offset. -/
theorem filled_of_mem_spans (laid : Laid source low marks high) :
    ∀ span ∈ Mark.spans marks, low ≤ span.start ∧ span.start < span.stop := by
  induction marks generalizing low with
  | nil => exact List.forall_mem_nil _
  | cons mark marks induction =>
      rcases laid with ⟨stop, stands, laid⟩
      have later (span : Span) (member : span ∈ Mark.spans marks) :
          low ≤ span.start ∧ span.start < span.stop := by
        have := induction laid span member
        have := stands.lt
        omega
      cases mark <;> simp only [Mark.Stands] at stands
      case angle => exact later
      all_goals exact List.forall_mem_cons.mpr ⟨by omega, later⟩

/-- What the marks cover stands one behind the other. -/
theorem pairwise_spans (laid : Laid source low marks high) :
    (Mark.spans marks).Pairwise fun left right => left.stop ≤ right.start := by
  induction marks generalizing low with
  | nil => exact .nil
  | cons mark marks induction =>
      rcases laid with ⟨stop, stands, laid⟩
      have behind (span : Span) (member : span ∈ Mark.spans marks) : stop ≤ span.start :=
        (laid.filled_of_mem_spans span member).1
      cases mark <;> simp only [Mark.Stands] at stands
      case angle => exact induction laid
      all_goals
        refine List.pairwise_cons.mpr ⟨fun other member => ?_, induction laid⟩
        have := behind other member
        omega

end Laid
end

/-! ## Marks of an outline -/

namespace Outline

variable {source : List Char}

mutual

/-- The marks of the outline, in the order in which they stand in the source. -/
def marks : Outline → List Mark
  | leaf span => [.name span]
  | aside span => [.aside span]
  | parts inside => marksOfAll inside
  | head name [] attributesAt => [.tag name attributesAt]
  | head name (first :: others) attributesAt =>
    .name name :: (first.marks ++ marksOfAll others) ++ [.angle attributesAt]

def marksOfAll : List Outline → List Mark
  | [] => []
  | outline :: others => outline.marks ++ marksOfAll others

end

@[simp] theorem marksOfAll_append (front back : List Outline) :
    marksOfAll (front ++ back) = marksOfAll front ++ marksOfAll back := by
  induction front with
  | nil => rfl
  | cons outline front induction => simp [marksOfAll, induction]

theorem marksOfAll_leaves (spans : List Span) :
    marksOfAll (spans.map .leaf) = spans.map .name := by
  induction spans with
  | nil => rfl
  | cons span spans induction => simp [marksOfAll, marks, induction]

@[simp] theorem marksOfAll_asides (spans : List Span) :
    marksOfAll (spans.map .aside) = spans.map .aside := by
  induction spans with
  | nil => rfl
  | cons span spans induction => simp [marksOfAll, marks, induction]

mutual

/-- An outline whose marks are laid out fits the source. -/
theorem exists_fits_of_laid :
    ∀ {outline : Outline} {low high : Nat}, Laid source low outline.marks high →
      ∃ outer, outline.Fits source outer ∧ low ≤ outer.start ∧ outer.stop ≤ high ∧
        outer.start ≤ outer.stop
  | .leaf span, low, high, laid => by
      rcases laid with ⟨_, ⟨lies, _, after, rfl⟩, le⟩
      exact ⟨span, ⟨rfl, lies⟩, after, le, lies.ordered⟩
  | .aside span, low, high, laid => by
      rcases laid with ⟨_, ⟨lies, _, after, rfl⟩, le⟩
      exact ⟨span, trivial, after, le, lies.ordered⟩
  | .parts inside, low, high, laid => by
      rcases exists_fitAll_of_laid laid with ⟨spans, fit, nested⟩
      exact ⟨⟨low, high⟩, ⟨spans, fit, nested⟩, Nat.le_refl _, Nat.le_refl _, laid.le⟩
  | .head name [] attributesAt, low, high, laid => by
      rcases laid with ⟨_, ⟨lies, _, after, rfl, rfl⟩, le⟩
      refine ⟨name, ⟨lies, rfl, lies, [], rfl, ?_⟩, after, le, lies.ordered⟩
      exact ⟨List.pairwise_singleton _ _, by simp⟩
  | .head span (first :: others) attributesAt, low, high, laid => by
      rcases laid with ⟨_, ⟨lies, _, after, rfl⟩, laid⟩
      rcases Laid.append_iff.mp laid with ⟨middle, inside, _, ⟨boundary, before, rfl⟩, le⟩
      obtain ⟨spans, fit, apart, within⟩ : ∃ spans, FitAll source (first :: others) spans ∧
          Nested spans ⟨span.stop, middle⟩ := exists_fitAll_of_laid inside
      have reached : span.stop ≤ attributesAt := Nat.le_trans inside.le (Nat.le_of_lt before)
      have ordered : span.start ≤ span.stop := lies.ordered
      have head : Span.LiesIn ⟨span.start, attributesAt⟩ source :=
        ⟨Nat.le_trans ordered reached, lies.start, boundary⟩
      refine ⟨⟨span.start, attributesAt⟩, ⟨head, rfl, lies, spans, fit, ?_⟩, after, le,
        head.ordered⟩
      refine ⟨List.pairwise_cons.mpr ⟨fun other member => .inl (within other member).1, apart⟩, ?_⟩
      refine List.forall_mem_cons.mpr ⟨⟨Nat.le_refl _, reached⟩, fun other member => ?_⟩
      have := within other member
      dsimp only at this ⊢
      omega

theorem exists_fitAll_of_laid :
    ∀ {outlines : List Outline} {low high : Nat}, Laid source low (marksOfAll outlines) high →
      ∃ spans, FitAll source outlines spans ∧ Nested spans ⟨low, high⟩
  | [], low, high, laid => ⟨[], rfl, .nil, List.forall_mem_nil _⟩
  | outline :: others, low, high, laid => by
      rcases Laid.append_iff.mp laid with ⟨middle, first, second⟩
      rcases exists_fits_of_laid first with ⟨outer, fits, after, before, ordered⟩
      rcases exists_fitAll_of_laid second with ⟨spans, fit, apart, within⟩
      refine ⟨outer :: spans, ⟨outer, spans, rfl, fits, fit⟩, ?_, ?_⟩
      · refine List.pairwise_cons.mpr ⟨fun span member => .inl ?_, apart⟩
        exact Nat.le_trans before (within span member).1
      · have passed : low ≤ middle := Nat.le_trans after (Nat.le_trans ordered before)
        refine List.forall_mem_cons.mpr ⟨⟨after, Nat.le_trans before second.le⟩, ?_⟩
        intro span member
        exact ⟨Nat.le_trans passed (within span member).1, (within span member).2⟩

end

mutual

/-- The stretches of an outline are those of its marks, apart from their order. -/
theorem perm_stretches : ∀ outline : Outline,
    (outline.marks.flatMap Mark.stretches).Perm outline.stretches
  | .leaf _ => .refl _
  | .aside _ => .refl _
  | .parts inside => perm_stretchesOfAll inside
  | .head name [] attributesAt => .refl _
  | .head name (first :: others) attributesAt => by
      have inside := (perm_stretchesOfAll (first :: others)).cons ⟨attributesAt, attributesAt⟩
      refine .cons name (.trans ?_ inside)
      show ((marksOfAll (first :: others) ++
        [Mark.angle attributesAt]).flatMap Mark.stretches).Perm _
      rw [List.flatMap_append]
      exact List.perm_append_comm

theorem perm_stretchesOfAll : ∀ outlines : List Outline,
    ((marksOfAll outlines).flatMap Mark.stretches).Perm (stretchesOfAll outlines)
  | [] => .refl _
  | outline :: others => by
      rw [marksOfAll, stretchesOfAll, List.flatMap_append]
      exact (perm_stretches outline).append (perm_stretchesOfAll others)

end

end Outline

end IconSize.Syntax
