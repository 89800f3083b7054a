import IconSize.Proofs.Syntax.Reading
import IconSize.Proofs.Syntax.WordsAndNumbers

/-!
What the next token says about the source. A word is a name, and a punctuator is written as it is.
So behind a punctuator nothing goes on a name before it.
-/

namespace IconSize.Syntax
namespace Lexer
open Text

/-- The token stands here and tells so; a word is a name, and a punctuator is written out. -/
structure Step.IsAt (step : Step) (place : Ahead) : Prop extends step.Follows place where
  begins : step.here = place
  word : step.token.kind = .word → isName step.token.text.toList = true
  punctuator : step.token.kind = .punctuator → step.token.text.toList <+: place.chars

theorem Step.Follows.isAt {kind : TokenKind} {text : String} {newLine : Bool} {here : Ahead}
    {count : Nat} (follows : (Step.of kind text newLine here count).Follows here)
    (plain : kind ≠ .word) (punctuator : kind = .punctuator → text.toList <+: here.chars) :
    (Step.of kind text newLine here count).IsAt here where
  toFollows := follows
  begins := rfl
  word named := absurd named plain
  punctuator := punctuator

theorem Step.of_isAt {kind : TokenKind} {text : String} {here : Ahead} (newLine : Bool)
    (count : Nat) (plain : kind.isFilled = false) :
    (Step.of kind text newLine here count).IsAt here := by
  refine (Step.of_follows plain text newLine here count).isAt ?_ ?_ <;>
    · rintro rfl
      cases plain

theorem Step.invalid_isAt (newLine : Bool) (here : Ahead) :
    (Step.invalid newLine here).IsAt here :=
  Step.of_isAt newLine 1 rfl

theorem word_isAt (newLine : Bool) (here : Ahead) : (word newLine here).IsAt here := by
  have follows := word_follows newLine here
  revert follows
  unfold word
  dsimp only
  split
  · rename_i letters decoded
    split
    · rename_i name
      intro follows
      refine ⟨follows, rfl, fun _ => ?_, nofun⟩
      change isName (String.ofList letters).toList = true
      rw [String.toList_ofList, name]
    · exact fun _ => Step.invalid_isAt newLine here
  · exact fun _ => Step.invalid_isAt newLine here

theorem privateName_isAt (newLine : Bool) (here : Ahead) (name : List Char) :
    (privateName newLine here name).IsAt here := by
  unfold privateName
  dsimp only
  split
  · split
    · exact Step.of_isAt newLine _ rfl
    · exact Step.invalid_isAt newLine here
  · exact Step.invalid_isAt newLine here

theorem string_isAt (newLine : Bool) {here : Ahead} {quote : Char} {chars : List Char}
    (opens : here.chars = quote :: chars) : (string newLine here quote chars).IsAt here := by
  have follows := string_follows newLine opens
  revert follows
  unfold string
  split
  · exact fun _ => Step.invalid_isAt newLine here
  · split
    · exact fun _ => Step.invalid_isAt newLine here
    · exact fun follows => ⟨follows, rfl, nofun, nofun⟩

theorem template_isAt (opening newLine : Bool) (here : Ahead) (chars : List Char) :
    (template opening newLine here chars).IsAt here := by
  have follows := template_follows opening newLine here chars
  revert follows
  unfold template
  split
  · exact fun _ => Step.invalid_isAt newLine here
  · rename_i more _ _
    refine fun follows => ⟨follows, rfl, ?_, ?_⟩ <;> cases opening <;> cases more <;> exact nofun

theorem number_isAt (newLine : Bool) (here : Ahead) : (number newLine here).IsAt here := by
  unfold number
  split
  · exact Step.invalid_isAt newLine here
  · rename_i found
    split
    · rcases number?_kind found with rfl | rfl <;> exact Step.of_isAt newLine _ rfl
    · exact Step.invalid_isAt newLine here

theorem punctuator_isAt {texts : List String} (filled : "" ∉ texts) (newLine : Bool)
    (here : Ahead) : (punctuator texts newLine here).IsAt here := by
  have follows := punctuator_follows filled newLine here
  revert follows
  unfold punctuator
  split
  · rename_i text found
    unfold firstOf at found
    have starts := List.find?_some found
    exact fun follows => follows.isAt (by decide) fun _ => List.isPrefixOf_iff_prefix.mp starts
  · exact fun _ => Step.invalid_isAt newLine here

theorem tokenAt_isAt (newLine : Bool) (here : Ahead) : (tokenAt newLine here).IsAt here := by
  unfold tokenAt
  split
  · exact Step.of_isAt newLine _ rfl
  · rename_i opens
    exact string_isAt newLine opens
  · rename_i opens
    exact string_isAt newLine opens
  · exact template_isAt ..
  · exact privateName_isAt ..
  · split
    · exact number_isAt newLine here
    · exact punctuator_isAt (by decide) ..
  · rename_i ahead
    split
    · exact (Step.of_succ_follows (by decide) ahead ..).isAt (by decide) fun _ => ⟨_, ahead.symm⟩
    · exact punctuator_isAt (by decide) ..
  · split
    · exact number_isAt newLine here
    · split
      · exact word_isAt newLine here
      · exact punctuator_isAt (by decide) ..

theorem next_isAt (ahead : Ahead) : (next ahead).IsAt (next ahead).here := by
  unfold next
  split
  · rename_i newLine here _
    have stands := tokenAt_isAt newLine here
    rw [stands.begins]
    exact stands
  · exact Step.invalid_isAt false ahead

/-! ## Behind an entry -/

/-- A gap is the same wherever it stands. -/
theorem skipGap_add (gap : Gap) (newLine : Bool) (offset extra : Nat) (chars : List Char) :
    skipGap gap newLine (offset + extra) chars =
      (skipGap gap newLine offset chars).map fun found =>
        (found.1, ⟨found.2.offset + extra, found.2.chars⟩) := by
  fun_induction skipGap gap newLine offset chars with
  | case1 => rfl
  | case2 | case7 => simp [skipGap, *]
  | case3 _ _ _ induction | case4 _ _ _ induction | case10 _ _ _ induction =>
      simp only [skipGap, ← induction, Nat.add_right_comm _ extra]
  | case5 _ _ _ _ _ _ _ induction | case6 _ _ _ _ _ _ _ _ induction
  | case8 _ _ _ _ _ induction | case9 _ _ _ _ _ induction
  | case11 _ _ _ _ _ induction =>
      simp [skipGap, Nat.add_right_comm _ extra, *]

/-- A comma or a closing brace, as it stands behind an entry in braces. -/
def isSeparator (token : Token) : Bool :=
  token.isPunctuator "," || token.isPunctuator closeBrace

theorem isSeparator_tokenAt_iff {newLine : Bool} {here : Ahead} :
    isSeparator (tokenAt newLine here).token = true ↔
      ∃ rest, here.chars = ',' :: rest ∨ here.chars = '}' :: rest := by
  constructor
  · intro separates
    have stands := tokenAt_isAt newLine here
    simp only [isSeparator, Token.isPunctuator, Bool.or_eq_true, Bool.and_eq_true,
      beq_iff_eq] at separates
    rcases separates with ⟨kind, text⟩ | ⟨kind, text⟩
    all_goals
      rcases stands.punctuator kind with ⟨rest, starts⟩
      rw [text] at starts
    · exact ⟨rest, .inl starts.symm⟩
    · exact ⟨rest, .inr starts.symm⟩
  · rcases here with ⟨offset, chars⟩
    rintro ⟨rest, rfl | rfl⟩ <;> rfl

/-- An entry ends before these characters. -/
def EndsEntry (chars : List Char) : Prop :=
  ∀ offset, isSeparator (next ⟨offset, chars⟩).token = true

/-- Where an entry ends does not depend on the offset. -/
theorem endsEntry_of_isSeparator {offset : Nat} {chars : List Char}
    (separates : isSeparator (next ⟨offset, chars⟩).token = true) : EndsEntry chars := by
  intro other
  have here (place : Nat) := skipGap_add .between false 0 place chars
  simp only [Nat.zero_add] at here
  cases found : skipGap .between false 0 chars with
  | none =>
      rw [next, here, found] at separates
      cases separates
  | some gap =>
      rw [next, here, found] at separates ⊢
      dsimp only [Option.map_some] at separates ⊢
      rw [isSeparator_tokenAt_iff] at separates ⊢
      exact separates

/-- A name ends before these characters. -/
def EndsName (chars : List Char) : Prop :=
  ∃ character rest, chars = character :: rest ∧ isIdentifierPart character = false ∧
    character ≠ '\\'

@[simp]
theorem endsName_blank (chars : List Char) : EndsName (' ' :: chars) :=
  ⟨' ', chars, rfl, by decide, by decide⟩

theorem EndsEntry.endsName {chars : List Char} (ends : EndsEntry chars) : EndsName chars := by
  have separates := ends 0
  cases chars with
  | nil => cases separates
  | cons character rest =>
      -- Before a letter or a backslash there is no gap, and neither is a comma or a brace.
      have noGap (gap : ∀ newLine offset, skipGap .between newLine offset (character :: rest) =
          some (newLine, ⟨offset, character :: rest⟩)) : character = ',' ∨ character = '}' := by
        rw [next, gap] at separates
        rcases isSeparator_tokenAt_iff.mp separates with ⟨_, same | same⟩
        · exact .inl (List.cons.inj same).1
        · exact .inr (List.cons.inj same).1
      refine ⟨character, rest, rfl, ?_, ?_⟩
      · rw [Bool.eq_false_iff]
        intro part
        rcases noGap fun newLine offset => skipGap_of_part part newLine offset rest with
          rfl | rfl <;> exact absurd part (by decide)
      · rintro rfl
        rcases noGap fun _ _ => rfl with same | same <;> exact absurd same (by decide)

end Lexer

/-! ## Cursors -/

namespace Cursor

/-- The token ahead stands where the cursor does and tells so. -/
def IsExact (cursor : Cursor) : Prop :=
  Lexer.Step.IsAt ⟨cursor.token, cursor.here, cursor.after⟩ cursor.here

theorem at_isExact (ahead : Ahead) (lastStop : Nat) (openDefaults : List Nat) :
    (Cursor.at ahead lastStop openDefaults).IsExact :=
  Lexer.next_isAt ahead

end Cursor
end IconSize.Syntax
