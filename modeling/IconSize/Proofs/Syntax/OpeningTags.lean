import IconSize.Proofs.Syntax.Reading
import IconSize.Syntax.Grammar.Markup

/-!
Where the attributes of an element begin: behind the type arguments if there are any, and behind
the name otherwise.
-/

namespace IconSize.Syntax

namespace Parser

/-- The last token that was taken is the one that the name was read from. -/
theorem lastStop_markupName {surroundings : Surroundings} {cursor after : Cursor}
    {name : Identifier} (read : markupName.read surroundings cursor = .ok (name, after)) :
    after.lastStop = name.span.stop := by
  rcases read_bind_eq_ok read with ⟨isName, _, _, read⟩
  split at read
  · rcases read_bind_eq_ok read with ⟨_, word, _, read⟩
    rcases read_bind_eq_ok read with ⟨token, _, taken, read⟩
    cases taken
    cases read
    rfl
  · cases read

end Parser

namespace Grammar
open IconSize.Syntax.Parser

/-- A plain name of a tag is read as its only token. -/
theorem lastStop_tagName {surroundings : Surroundings} {cursor after : Cursor}
    {name : Identifier} {spelling : String}
    (read : tagName.read surroundings cursor = .ok ((.reference name, spelling), after)) :
    after.lastStop = name.span.stop := by
  rcases read_bind_eq_ok read with ⟨token, _, _, read⟩
  rcases read_bind_eq_ok read with ⟨first, named, firstRead, read⟩
  have stop := lastStop_markupName firstRead
  rcases read_bind_eq_ok read with ⟨colon, behind, colonRead, read⟩
  rw [read_eat] at colonRead
  split at colonRead
  · cases colonRead
    rcases read_bind_eq_ok read with ⟨second, _, _, read⟩
    cases read
  · cases colonRead
    rcases read_bind_eq_ok read with ⟨dotted, _, dotRead, read⟩
    cases dotRead
    split at read
    · rcases read_bind_eq_ok read with ⟨_, _, _, read⟩
      rcases read_bind_eq_ok read with ⟨_, _, _, read⟩
      split at read <;> cases read
    · split at read
      · cases read
        exact stop
      · cases read

variable [Grammar]

/-- A list of type arguments is not empty, and its closing angle is taken last. -/
theorem lastStop_typeArguments {surroundings : Surroundings} {cursor after : Cursor}
    {arguments : List Node}
    (read : typeArguments.read surroundings cursor = .ok (arguments, after)) :
    arguments ≠ [] ∧ ∃ angle : Cursor, angle.token.isPunctuator ">" ∧
      after = .at angle.after angle.token.span.stop angle.openDefaults := by
  rcases read_bind_eq_ok read with ⟨_, _, _, read⟩
  rcases read_bind_eq_ok read with ⟨found, _, _, read⟩
  rcases read_bind_eq_ok read with ⟨_, angle, failed, read⟩
  rcases read_bind_eq_ok read with ⟨_, behind, closed, read⟩
  cases read
  rw [read_expect] at closed
  split at closed
  · cases closed
    refine ⟨fun empty => ?_, angle, ‹_›, rfl⟩
    subst empty
    cases failed
  · cases closed

/-- The offset is the end of the type arguments, of which the closing angle comes last, or the end
of the name if there are none. -/
def EndsHead (surroundings : Surroundings) (name : Identifier) (arguments : List Node)
    (offset : Nat) : Prop :=
  arguments = [] ∧ offset = name.span.stop ∨
    arguments ≠ [] ∧ ∃ named angle : Cursor, named.lastStop = name.span.stop ∧
      angle.token.isPunctuator ">" ∧ offset = angle.token.span.stop ∧
      typeArguments.read surroundings named =
        .ok (arguments, .at angle.after angle.token.span.stop angle.openDefaults)

/-- The attributes of an element begin where its name with the type arguments ends. -/
theorem element_endsHead {nested : Bool} {surroundings : Surroundings} {cursor after : Cursor}
    {name : Identifier} {arguments : List Node} {attributesAt : Nat}
    {attributes children : List Node} {closing : Option TagName}
    (read : (element nested).read surroundings cursor =
      .ok (.element (.reference name) arguments attributesAt attributes children closing, after)) :
    EndsHead surroundings name arguments attributesAt := by
  rcases read_bind_eq_ok read with ⟨_, _, _, read⟩
  rcases read_bind_eq_ok read with ⟨isFragment, _, _, read⟩
  split at read
  · iterate 5 rcases read_bind_eq_ok read with ⟨_, _, _, read⟩
    cases read
  · rcases read_bind_eq_ok read with ⟨⟨tag, spelling⟩, named, tagRead, read⟩
    rcases read_bind_eq_ok read with ⟨_, _, typedRead, read⟩
    cases typedRead
    rcases read_bind_eq_ok read with ⟨_, _, angleRead, read⟩
    cases angleRead
    split at read
    -- What follows the type arguments is the same whether there are any.
    all_goals
      rcases read_bind_eq_ok read with ⟨found, behind, foundRead, read⟩
      rcases read_bind_eq_ok read with ⟨_, _, cursorRead, read⟩
      cases cursorRead
      rcases read_bind_eq_ok read with ⟨_, _, _, read⟩
      rcases read_bind_eq_ok read with ⟨_, _, _, read⟩
      obtain ⟨rfl, rfl, rfl⟩ : tag = .reference name ∧ found = arguments ∧
          behind.lastStop = attributesAt := by
        split at read
        · rcases read_bind_eq_ok read with ⟨_, _, _, read⟩
          cases read
          exact ⟨rfl, rfl, rfl⟩
        · iterate 7 rcases read_bind_eq_ok read with ⟨_, _, _, read⟩
          cases read
          exact ⟨rfl, rfl, rfl⟩
    · rcases lastStop_typeArguments foundRead with ⟨nonempty, angle, isAngle, rfl⟩
      exact .inr ⟨nonempty, named, angle, lastStop_tagName tagRead, isAngle, rfl, foundRead⟩
    · cases foundRead
      exact .inl ⟨rfl, lastStop_tagName tagRead⟩

end Grammar
end IconSize.Syntax
