import IconSize.Syntax.Parser

/-!
What the parsers read: an equation for each of the small ones, by which a rule of the grammar can be
carried out step by step at a cursor that is known in part.
-/

namespace IconSize.Syntax

/-- The cursor at the first token of what lies ahead. -/
def Cursor.at (ahead : Ahead) (lastStop : Nat) (openDefaults : List Nat) : Cursor :=
  let step := Lexer.next ahead
  ⟨step.token, step.here, step.after, lastStop, openDefaults⟩

/-- A word is no punctuator. -/
@[simp]
theorem Token.isPunctuator_word (text other : String) (span : Span)
    (onNewLine escaped malformed : Bool) :
    (Token.mk .word text span onNewLine escaped malformed).isPunctuator other = false := rfl

namespace Parser

variable {α β σ : Type} (surroundings : Surroundings) (cursor : Cursor)

@[simp]
theorem read_pure (value : α) :
    (pure value : Parser α).read surroundings cursor = .ok (value, cursor) := rfl

@[simp]
theorem read_bind (first : Parser α) (next : α → Parser β) :
    (first >>= next).read surroundings cursor =
      match first.read surroundings cursor with
      | .ok (value, cursor) => (next value).read surroundings cursor
      | .error error => .error error := rfl

/-- What two parsers yield one after the other is read by the first one and then by the other. -/
theorem read_bind_eq_ok {first : Parser α} {next : α → Parser β} {surroundings : Surroundings}
    {cursor after : Cursor} {answer : β}
    (read : (first >>= next).read surroundings cursor = .ok (answer, after)) :
    ∃ value between, first.read surroundings cursor = .ok (value, between) ∧
      (next value).read surroundings between = .ok (answer, after) := by
  rw [read_bind] at read
  cases taken : first.read surroundings cursor with
  | error error => simp [taken] at read
  | ok result =>
      rw [taken] at read
      exact ⟨result.1, result.2, rfl, read⟩

@[simp]
theorem read_ite (condition : Prop) [Decidable condition] (first second : Parser α) :
    (if condition then first else second).read surroundings cursor =
      if condition then first.read surroundings cursor else second.read surroundings cursor := by
  split <;> rfl

@[simp]
theorem read_fail (fault : SyntaxFault) : (fail fault : Parser α).read surroundings cursor =
    .error ⟨cursor.token.span.start, fault⟩ := rfl

@[simp]
theorem read_within (change : Surroundings → Surroundings) (parser : Parser α) :
    (within change parser).read surroundings cursor =
      parser.read (change surroundings) cursor := rfl

@[simp]
theorem read_foreseeOr (otherwise : α) (parser : Parser α) :
    (foreseeOr otherwise parser).read surroundings cursor =
      .ok (match parser.read surroundings cursor with
        | .ok (value, _) => value
        | .error _ => otherwise, cursor) := by
  unfold foreseeOr look
  dsimp only
  rcases parser.read surroundings cursor with error | ⟨value, after⟩ <;> rfl

@[simp]
theorem read_attempt (parser : Parser α) : (attempt parser).read surroundings cursor =
    match parser.read surroundings cursor with
    | .ok (value, cursor) => .ok (some value, cursor)
    | .error _ => .ok (none, cursor) := rfl

@[simp]
theorem read_unlessNone (parser : Parser (Option α)) :
    (unlessNone parser).read surroundings cursor =
      match parser.read surroundings cursor with
      | .ok (some value, cursor) => .ok (some value, cursor)
      | .ok (none, _) => .ok (none, cursor)
      | .error error => .error error := rfl

@[simp]
theorem read_surroundings :
    Parser.surroundings.read surroundings cursor = .ok (surroundings, cursor) := rfl

@[simp]
theorem read_dialect :
    dialect.read surroundings cursor = .ok (surroundings.dialect, cursor) := rfl

@[simp]
theorem read_token : token.read surroundings cursor = .ok (cursor.token, cursor) := rfl

@[simp]
theorem read_sees (test : Token → Bool) :
    (sees test).read surroundings cursor = .ok (test cursor.token, cursor) := rfl

@[simp]
theorem read_cursor : Parser.cursor.read surroundings cursor = .ok (cursor, cursor) := rfl

@[simp]
theorem read_at? (text : String) : (at? text).read surroundings cursor =
    .ok (cursor.token.isPunctuator text, cursor) := rfl

@[simp]
theorem read_atAny (texts : List String) : (atAny texts).read surroundings cursor =
    .ok (cursor.token.kind == .punctuator && texts.contains cursor.token.text, cursor) := rfl

@[simp]
theorem read_atWord (text : String) : (atWord text).read surroundings cursor =
    .ok (cursor.token.isKeyword text, cursor) := rfl

@[simp]
theorem read_atKind (kind : TokenKind) : (atKind kind).read surroundings cursor =
    .ok (cursor.token.kind == kind, cursor) := rfl

@[simp]
theorem read_onNewLine :
    onNewLine.read surroundings cursor = .ok (cursor.token.onNewLine, cursor) := rfl

@[simp]
theorem read_typed : typed.read surroundings cursor =
    .ok (surroundings.dialect.typescript, cursor) := rfl

@[simp]
theorem read_advance : advance.read surroundings cursor =
    .ok ((), .at cursor.after cursor.token.span.stop cursor.openDefaults) := rfl

@[simp]
theorem read_next (parser : Parser Bool) : (next parser).read surroundings cursor =
    .ok (match parser.read surroundings
        (.at cursor.after cursor.token.span.stop cursor.openDefaults) with
      | .ok (value, _) => value
      | .error _ => false, cursor) := by
  simp only [next, foresee, read_foreseeOr, read_bind, read_advance]
  rcases parser.read surroundings
    (.at cursor.after cursor.token.span.stop cursor.openDefaults) with error | ⟨value, after⟩ <;>
      rfl

@[simp]
theorem read_eat (text : String) : (eat text).read surroundings cursor =
    if cursor.token.isPunctuator text then
      .ok (true, .at cursor.after cursor.token.span.stop cursor.openDefaults)
    else .ok (false, cursor) := by
  simp [eat]

@[simp]
theorem read_eatWord (text : String) : (eatWord text).read surroundings cursor =
    if cursor.token.isKeyword text then
      .ok (true, .at cursor.after cursor.token.span.stop cursor.openDefaults)
    else .ok (false, cursor) := by
  simp [eatWord]

@[simp]
theorem read_expect (text : String) : (expect text).read surroundings cursor =
    if cursor.token.isPunctuator text then
      .ok ((), .at cursor.after cursor.token.span.stop cursor.openDefaults)
    else .error ⟨cursor.token.span.start, .unexpected⟩ := by
  simp [expect]

@[simp]
theorem read_expectWord (text : String) : (expectWord text).read surroundings cursor =
    if cursor.token.isKeyword text then
      .ok ((), .at cursor.after cursor.token.span.stop cursor.openDefaults)
    else .error ⟨cursor.token.span.start, .unexpected⟩ := by
  simp [expectWord]

@[simp]
theorem read_startOffset :
    startOffset.read surroundings cursor = .ok (cursor.token.span.start, cursor) := rfl

@[simp]
theorem read_spanFrom (start : Nat) :
    (spanFrom start).read surroundings cursor = .ok (⟨start, cursor.lastStop⟩, cursor) := rfl

@[simp]
theorem read_loop (start : σ) (step : σ → Parser (σ ⊕ α)) :
    (loop start step).read surroundings cursor =
      (iterate step (surroundings.size + 2) start).read surroundings cursor := rfl

@[simp]
theorem read_iterate_succ (step : σ → Parser (σ ⊕ α)) (steps : Nat) (state : σ) :
    (iterate step (steps + 1) state).read surroundings cursor =
      match (step state).read surroundings cursor with
      | .ok (.inl state, cursor) => (iterate step steps state).read surroundings cursor
      | .ok (.inr value, cursor) => .ok (value, cursor)
      | .error error => .error error := by
  rw [iterate, read_bind]
  rcases (step state).read surroundings cursor with error | ⟨state | value, cursor⟩ <;> rfl

end Parser

end IconSize.Syntax
