import IconSize.Syntax.Lexer

/-!
Readers: the lexers together with what their steps have in common. The token lies in what is ahead
and has the span of what is taken for it, words, strings and punctuators take a byte at least, and
the value of a string is that of the literal which stands there.
-/

namespace IconSize.Syntax

/-- Is a token of this kind never empty? -/
def TokenKind.isFilled : TokenKind → Bool
  | word | string | punctuator => true
  | _ => false

namespace Lexer
open Text Escape

/-- Do the characters begin with a string literal of this value? -/
def BeginsLiteral (chars : List Char) (value : String) : Prop :=
  ∃ quote text raw rest malformed, chars = quote :: text ∧
    spanString quote text = some (raw, rest) ∧ stringValue? raw = some (value, malformed)

/-- The step lies in what is ahead. The span of its token is what lies between the place where it
begins and the one after it, which is empty for some kinds of token only, and a string token has the
value of the literal that it is. -/
structure Step.Follows (step : Step) (ahead : Ahead) : Prop where
  here : ahead.Reaches step.here
  covers : step.here.Reaches step.after
  span : step.token.span = ⟨step.here.offset, step.after.offset⟩
  takes : step.token.kind.isFilled = true → step.here.offset < step.after.offset
  literal : step.token.kind = .string → BeginsLiteral step.here.chars step.token.text

theorem Step.Follows.after_gap {step : Step} {ahead here : Ahead} (follows : step.Follows here)
    (gap : ahead.Reaches here) : step.Follows ahead :=
  { follows with here := gap.trans follows.here }

theorem Step.of_follows {kind : TokenKind} (plain : kind.isFilled = false) (text : String)
    (newLine : Bool) (here : Ahead) (count : Nat) :
    (Step.of kind text newLine here count).Follows here where
  here := .refl here
  covers := here.reaches_skip count
  span := rfl
  takes filled := absurd (plain.symm.trans filled) (by decide)
  literal string := by
    rw [show kind = .string from string] at plain
    cases plain

theorem Step.invalid_follows (newLine : Bool) (here : Ahead) :
    (Step.invalid newLine here).Follows here :=
  Step.of_follows rfl "" newLine here 1

theorem offset_lt_skip {here : Ahead} {first : Char} {rest : List Char}
    (ahead : here.chars = first :: rest) (count : Nat) :
    here.offset < (here.skip (count + 1)).offset := by
  have bytes := first.utf8Size_pos
  simp only [Ahead.skip, ahead, List.take_succ_cons, byteLength_cons]
  omega

/-- A token of one character or more. -/
theorem Step.of_succ_follows {kind : TokenKind} (plain : kind ≠ .string) {here : Ahead}
    {first : Char} {rest : List Char} (ahead : here.chars = first :: rest) (text : String)
    (newLine : Bool) (count : Nat) :
    (Step.of kind text newLine here (count + 1)).Follows here where
  here := .refl here
  covers := here.reaches_skip _
  span := rfl
  takes _ := offset_lt_skip ahead count
  literal string := absurd string plain

theorem skipGap_reaches {gap : Gap} {newLine found : Bool} {offset : Nat} {chars : List Char}
    {here : Ahead} (skipped : skipGap gap newLine offset chars = some (found, here)) :
    Ahead.Reaches ⟨offset, chars⟩ here := by
  fun_induction skipGap gap newLine offset chars with
  | case1 => cases skipped
  | case2 | case7 =>
      cases skipped
      exact .refl _
  | case3 _ _ _ induction | case4 _ _ _ induction | case10 _ _ _ induction =>
      exact Ahead.Reaches.trans ⟨[_, _], rfl, rfl⟩ (induction skipped)
  | case5 _ _ _ _ _ _ _ induction | case6 _ _ _ _ _ _ _ _ induction
  | case8 _ _ _ _ _ induction | case9 _ _ _ _ _ induction
  | case11 _ _ _ _ _ induction =>
      exact Ahead.Reaches.trans ⟨[_], rfl, rfl⟩ (induction skipped)

/-- A word takes a character at least. -/
theorem offset_lt_skip_spanWord {here : Ahead} (some : (spanWord false here.chars).1 ≠ []) :
    here.offset < (here.skip (spanWord false here.chars).1.length).offset := by
  cases ahead : here.chars with
  | nil => exact absurd (by rw [ahead]; rfl) some
  | cons first rest =>
      rw [← ahead, ← Nat.succ_pred_eq_of_ne_zero (mt List.length_eq_zero_iff.mp some)]
      exact offset_lt_skip ahead _

theorem word_follows (newLine : Bool) (here : Ahead) : (word newLine here).Follows here := by
  unfold word
  dsimp only
  split
  · split
    · rename_i letters decoded name
      have some : (spanWord false here.chars).1 ≠ [] := by
        intro empty
        rw [empty] at decoded
        cases decoded
        cases name
      exact ⟨.refl here, here.reaches_skip _, rfl, fun _ => offset_lt_skip_spanWord some, nofun⟩
    · exact Step.invalid_follows newLine here
  · exact Step.invalid_follows newLine here

theorem privateName_follows (newLine : Bool) (here : Ahead) (name : List Char) :
    (privateName newLine here name).Follows here := by
  unfold privateName
  dsimp only
  split
  · split
    · exact Step.of_follows rfl ..
    · exact Step.invalid_follows newLine here
  · exact Step.invalid_follows newLine here

theorem string_follows (newLine : Bool) {here : Ahead} {quote : Char} {text : List Char}
    (opens : here.chars = quote :: text) : (string newLine here quote text).Follows here := by
  unfold string
  split
  · exact Step.invalid_follows newLine here
  · rename_i raw rest spanned
    split
    · exact Step.invalid_follows newLine here
    · rename_i value malformed decoded
      exact ⟨.refl here, here.reaches_skip _, rfl, fun _ => offset_lt_skip opens _,
        fun _ => ⟨quote, text, raw, rest, malformed, opens, spanned, decoded⟩⟩

theorem template_follows (opening newLine : Bool) (here : Ahead) (text : List Char) :
    (template opening newLine here text).Follows here := by
  unfold template
  split
  · exact Step.invalid_follows newLine here
  · rename_i more _ _
    refine ⟨.refl here, here.reaches_skip _, rfl, ?_, ?_⟩ <;>
      cases opening <;> cases more <;> exact nofun

theorem exponent_kind {taken chars digits rest : List Char} {kind : TokenKind}
    (found : number?.exponent taken chars = some (kind, digits, rest)) :
    kind = .number ∨ kind = .bigint := by
  unfold number?.exponent at found
  grind

theorem decimal_kind {whole chars digits rest : List Char} {kind : TokenKind}
    (found : number?.decimal whole chars = some (kind, digits, rest)) :
    kind = .number ∨ kind = .bigint := by
  unfold number?.decimal at found
  grind [exponent_kind]

theorem number?_kind {chars digits rest : List Char} {kind : TokenKind}
    (found : number? chars = some (kind, digits, rest)) : kind = .number ∨ kind = .bigint := by
  unfold number? at found
  grind [decimal_kind]

theorem number_follows (newLine : Bool) (here : Ahead) : (number newLine here).Follows here := by
  unfold number
  split
  · exact Step.invalid_follows newLine here
  · rename_i found
    split
    · rcases number?_kind found with rfl | rfl <;> exact Step.of_follows rfl ..
    · exact Step.invalid_follows newLine here

theorem punctuator_follows {texts : List String} (filled : "" ∉ texts) (newLine : Bool)
    (here : Ahead) : (punctuator texts newLine here).Follows here := by
  unfold punctuator
  split
  · rename_i text found
    unfold firstOf at found
    have starts := List.find?_some found
    rw [List.isPrefixOf_iff_prefix] at starts
    cases letters : text.toList with
    | nil =>
        rw [String.toList_eq_nil_iff] at letters
        exact absurd (letters ▸ List.mem_of_find?_eq_some found) filled
    | cons first rest =>
        rcases letters ▸ starts with ⟨behind, ahead⟩
        rw [← String.length_toList, letters, List.length_cons]
        exact Step.of_succ_follows (by decide) ahead.symm ..
  · exact Step.invalid_follows newLine here

theorem tokenAt_follows (newLine : Bool) (here : Ahead) : (tokenAt newLine here).Follows here := by
  unfold tokenAt
  split
  · exact Step.of_follows rfl ..
  · rename_i opens
    exact string_follows newLine opens
  · rename_i opens
    exact string_follows newLine opens
  · exact template_follows ..
  · exact privateName_follows ..
  · split
    · exact number_follows newLine here
    · exact punctuator_follows (by decide) ..
  · rename_i ahead
    split
    · exact Step.of_succ_follows (by decide) ahead ..
    · exact punctuator_follows (by decide) ..
  · split
    · exact number_follows newLine here
    · split
      · exact word_follows newLine here
      · exact punctuator_follows (by decide) ..

theorem next_follows (ahead : Ahead) : (next ahead).Follows ahead := by
  unfold next
  split
  · rename_i newLine here skipped
    exact (tokenAt_follows newLine here).after_gap (skipGap_reaches skipped)
  · exact Step.invalid_follows false ahead

theorem regex_follows (newLine : Bool) (here : Ahead) : (regex newLine here).Follows here := by
  unfold regex
  split
  · exact Step.invalid_follows newLine here
  · dsimp only
    split
    · exact Step.of_follows rfl ..
    · exact Step.invalid_follows newLine here

theorem markupChild_follows (ahead : Ahead) : (markupChild ahead).Follows ahead := by
  unfold markupChild
  split
  · exact Step.of_follows rfl ..
  · rename_i opens
    exact Step.of_succ_follows (by decide) opens ..
  · rename_i opens
    exact Step.of_succ_follows (by decide) opens ..
  · dsimp only
    split
    · exact Step.invalid_follows false ahead
    · exact Step.of_follows rfl ..

theorem attributeValue_follows (ahead : Ahead) : (attributeValue ahead).Follows ahead := by
  unfold attributeValue
  split
  · exact Step.invalid_follows false ahead
  · rename_i newLine here skipped
    refine Step.Follows.after_gap ?_ (skipGap_reaches skipped)
    dsimp only
    split
    · split
      · exact Step.invalid_follows newLine here
      · exact Step.of_follows rfl ..
    · split
      · exact Step.invalid_follows newLine here
      · exact Step.of_follows rfl ..
    · exact tokenAt_follows newLine here

theorem reaches_markupNameRest (ahead : Ahead) : ahead.Reaches (markupNameRest ahead).2 :=
  ahead.reaches_skip _

theorem reaches_afterHashbang (chars : List Char) :
    Ahead.Reaches ⟨0, chars⟩ (afterHashbang chars) := by
  unfold afterHashbang
  split
  · exact Ahead.reaches_skip ..
  · exact .refl _

end Lexer

/-- A lexer whose steps stay in the source. -/
structure Reader where
  lex : Ahead → Lexer.Step
  follows : ∀ ahead, (lex ahead).Follows ahead

namespace Reader

def next : Reader := ⟨Lexer.next, Lexer.next_follows⟩

def markupChild : Reader := ⟨Lexer.markupChild, Lexer.markupChild_follows⟩

def attributeValue : Reader := ⟨Lexer.attributeValue, Lexer.attributeValue_follows⟩

def regex (newLine : Bool) : Reader := ⟨Lexer.regex newLine, Lexer.regex_follows newLine⟩

def templateContinuation (newLine : Bool) : Reader :=
  ⟨Lexer.templateContinuation newLine, fun _ => Lexer.template_follows ..⟩

def closingAngle (newLine : Bool) : Reader :=
  ⟨Lexer.closingAngle newLine, Lexer.punctuator_follows (by decide) newLine⟩

def openingAngle (newLine : Bool) : Reader :=
  ⟨Lexer.openingAngle newLine, Lexer.punctuator_follows (by decide) newLine⟩

end Reader
end IconSize.Syntax
