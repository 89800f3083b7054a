import IconSize.Edits.Renaming
import IconSize.Proofs.Icon.Component

/-!
The wrapper of an icon in a tag. The element in it is markup. Where markup is read, the wrapper is
an expression. Where it is not, the angle begins a type or nothing at all; the name of the icon can
be read as that type, but the name of the first attribute cannot follow it.
-/

namespace IconSize
open Syntax Syntax.Grammar Syntax.Parser Text

/-! ## Names of icons in tags

They differ from all keywords, which begin with a small letter. -/

section

variable {name : String} (kind : WrapperKind.ofName name = .tag)
include kind

theorem WrapperKind.ne_of_tag {word : String} (small : WrapperKind.ofName word = .callable) :
    name ≠ word := by
  rintro rfl
  exact WrapperKind.noConfusion (kind.symm.trans small)

theorem WrapperKind.contains_of_tag {words : List String}
    (small : (words.all (WrapperKind.ofName · == .callable)) = true) :
    words.contains name = false := by
  simp only [List.all_eq_true, beq_iff_eq] at small
  rw [List.contains_eq_mem, decide_eq_false_iff_not]
  exact fun member => ne_of_tag kind (small _ member) rfl

end

namespace Wrapper

/-! ## Places in the element -/

/-- The last attribute and the end of the element. -/
abbrev propsText (rest : List Char) : List Char := " \x7b...props\x7d />".toList ++ rest

/-- The element after the name of the icon. -/
abbrev attributesText (digits rest : List Char) : List Char :=
  " ref=\x7bref\x7d size=\x7b".toList ++ (digits ++ '}' :: propsText rest)

/-- The cursor at the angle before the name of the icon. -/
def atAngle (name : String) (here : Ahead) (lastStop : Nat) (openDefaults : List Nat)
    (digits rest : List Char) : Cursor :=
  ⟨⟨.punctuator, "<", ⟨here.offset, here.offset + 1⟩, false, false, false⟩, here,
    ⟨here.offset + 1, name.toList ++ attributesText digits rest⟩, lastStop, openDefaults⟩

/-- Where the name of the icon stands after an angle. -/
def nameSpan (name : String) (angle : Nat) : Span :=
  ⟨angle + 1, angle + 1 + byteLength name.toList⟩

/-- The cursor at the name of the icon. -/
def atName (name : String) (span : Span) (here : Ahead) (lastStop : Nat) (openDefaults : List Nat)
    (digits rest : List Char) : Cursor :=
  ⟨⟨.word, name, span, false, false, false⟩, here, ⟨span.stop, attributesText digits rest⟩,
    lastStop, openDefaults⟩

/-- The cursor at the attribute for the reference. -/
def atRef (offset lastStop : Nat) (openDefaults : List Nat) (digits rest : List Char) : Cursor :=
  .at ⟨offset, attributesText digits rest⟩ lastStop openDefaults

/-- The cursor at the attribute for the size. -/
def atSize (offset : Nat) (openDefaults : List Nat) (digits rest : List Char) : Cursor :=
  .at ⟨offset, " size=\x7b".toList ++ (digits ++ '}' :: propsText rest)⟩ offset openDefaults

/-- The cursor at the last attribute. -/
def atProps (offset : Nat) (openDefaults : List Nat) (rest : List Char) : Cursor :=
  .at ⟨offset, propsText rest⟩ offset openDefaults

/-- The cursor at the slash that ends the element. -/
def atSlash (offset : Nat) (openDefaults : List Nat) (rest : List Char) : Cursor :=
  .at ⟨offset, " />".toList ++ rest⟩ offset openDefaults

section

variable (name : String) (surroundings : Surroundings) (span : Span) (here : Ahead)
  (offset lastStop : Nat) (openDefaults : List Nat) (digits rest : List Char)

@[simp]
theorem token_atAngle : (atAngle name here lastStop openDefaults digits rest).token =
    ⟨.punctuator, "<", ⟨here.offset, here.offset + 1⟩, false, false, false⟩ := rfl

@[simp]
theorem openDefaults_atAngle :
    (atAngle name here lastStop openDefaults digits rest).openDefaults = openDefaults := rfl

@[simp]
theorem token_atName : (atName name span here lastStop openDefaults digits rest).token =
    ⟨.word, name, span, false, false, false⟩ := rfl

@[simp]
theorem openDefaults_atName :
    (atName name span here lastStop openDefaults digits rest).openDefaults = openDefaults := rfl

@[simp]
theorem at_after_name (stop : Nat) :
    .at (atName name span here lastStop openDefaults digits rest).after stop openDefaults =
      atRef span.stop stop openDefaults digits rest := rfl

@[simp]
theorem token_atRef : (atRef offset lastStop openDefaults digits rest).token =
    ⟨.word, "ref", ⟨offset + 1, offset + 4⟩, false, false, false⟩ := by
  cbv

@[simp]
theorem lastStop_atRef :
    (atRef offset lastStop openDefaults digits rest).lastStop = lastStop := rfl

@[simp]
theorem token_atSlash : (atSlash offset openDefaults rest).token =
    ⟨.punctuator, "/", ⟨offset + 1, offset + 2⟩, false, false, false⟩ := rfl

@[simp]
theorem openDefaults_atSlash : (atSlash offset openDefaults rest).openDefaults = openDefaults := rfl

theorem at_after_angle {name : String} (plain : Lexer.isName name.toList = true) (stop : Nat) :
    .at (atAngle name here lastStop openDefaults digits rest).after stop openDefaults =
      atName name (nameSpan name here.offset)
        (atAngle name here lastStop openDefaults digits rest).after stop openDefaults digits
        rest := by
  have read : Lexer.next ⟨here.offset + 1, name.toList ++ attributesText digits rest⟩ = _ :=
    Lexer.next_of_isName plain ' ' (by decide) (by decide) (here.offset + 1)
      ("ref=\x7bref\x7d size=\x7b".toList ++ (digits ++ '}' :: propsText rest))
  simp only [Cursor.at, atAngle, atName, nameSpan, read, Lexer.Step.of, Ahead.skip,
    String.ofList_toList, List.take_left', List.drop_left']
  rfl

end

/-! ## The name in the tag -/

section

variable {name : String} {surroundings : Surroundings} {lastStop : Nat} {span : Span}
  {here : Ahead} {openDefaults : List Nat} {digits rest : List Char}

theorem read_extendWord :
    extendWord.read surroundings (atName name span here lastStop openDefaults digits rest) =
      .ok ((), atName name span here lastStop openDefaults digits rest) := by
  have none : Lexer.markupNameRest (atName name span here lastStop openDefaults digits rest).after =
      ([], (atName name span here lastStop openDefaults digits rest).after) := by
    rfl
  simp only [extendWord, move, none, String.ofList_nil, String.append_empty]
  rfl

theorem read_tagName : ∃ tag,
    tagName.read surroundings (atName name span here lastStop openDefaults digits rest) =
      .ok ((tag, name), atRef span.stop span.stop openDefaults digits rest) := by
  simp only [tagName, markupName, Parser.atName, Token.isWord, Token.identifier, read_extendWord,
    read_bind, read_pure, read_token, read_sees, read_ite, read_advance, read_eat, read_at?,
    at_after_name, openDefaults_atName, token_atName, token_atRef, Token.isPunctuator_word,
    beq_self_eq_true, Bool.false_eq_true, if_true, if_false]
  split
  · exact ⟨_, rfl⟩
  · exact ⟨_, rfl⟩

variable (kind : WrapperKind.ofName name = .tag)
include kind

theorem isIdentifier_name {onNewLine escaped malformed : Bool} :
    (Token.mk .word name span onNewLine escaped malformed).isIdentifier = true := by
  have reserved : Token.reservedWords.contains name = false :=
    WrapperKind.contains_of_tag kind (by decide)
  simp only [Token.isIdentifier, reserved]
  rfl

theorem isKeyword_name {onNewLine escaped malformed : Bool} {word : String}
    (small : WrapperKind.ofName word = .callable) :
    (Token.mk .word name span onNewLine escaped malformed).isKeyword word = false := by
  simp [Token.isKeyword, WrapperKind.ne_of_tag kind small]

theorem read_atAnyWord {words : List String}
    (small : (words.all (WrapperKind.ofName · == .callable)) = true) :
    (atAnyWord words).read surroundings (atName name span here lastStop openDefaults digits rest) =
      .ok (false, atName name span here lastStop openDefaults digits rest) := by
  simp only [atAnyWord, read_sees, token_atName, WrapperKind.contains_of_tag kind small,
    Bool.and_false]

theorem read_identifier :
    identifier.read surroundings (atName name span here lastStop openDefaults digits rest) =
      .ok (⟨name, span⟩, atRef span.stop span.stop openDefaults digits rest) := by
  have await : name ≠ "await" := WrapperKind.ne_of_tag kind (by decide)
  have yield : name ≠ "yield" := WrapperKind.ne_of_tag kind (by decide)
  simp [identifier, identifierOf, isIdentifier_name kind, Token.identifier, await, yield]

end

/-! ## Without markup -/

section

variable [Grammar] {name : String} (kind : WrapperKind.ofName name = .tag)
  {surroundings : Surroundings} {lastStop : Nat} {span : Span} {here : Ahead}
  {openDefaults : List Nat} {digits rest : List Char}
include kind

theorem read_functionTypeAhead :
    functionTypeAhead.read surroundings (atName name span here lastStop openDefaults digits rest) =
      .ok (false, atName name span here lastStop openDefaults digits rest) := by
  simp (disch := decide) [functionTypeAhead, isKeyword_name kind]

omit kind in
theorem read_namedType :
    namedType.read surroundings (atName name span here lastStop openDefaults digits rest) =
      .ok (.typeReference ⟨name, span⟩ [], atRef span.stop span.stop openDefaults digits rest) := by
  cbv

theorem read_singleType :
    singleType.read surroundings (atName name span here lastStop openDefaults digits rest) =
      .ok (.typeReference ⟨name, span⟩ [], atRef span.stop span.stop openDefaults digits rest) := by
  have keyword : keywordTypes.contains name = false :=
    WrapperKind.contains_of_tag kind (by decide)
  simp only [singleType, token_atName, read_bind, read_token, Bool.false_eq_true, if_false]
  split
  -- The last case is that of a name; in all others the name is a keyword.
  rotate_right
  · rw [read_bind, keyword]
    exact read_namedType
  all_goals exact absurd rfl (WrapperKind.ne_of_tag kind (by decide))

theorem read_suffixedType :
    suffixedType.read surroundings (atName name span here lastStop openDefaults digits rest) =
      .ok (.typeReference ⟨name, span⟩ [], atRef span.stop span.stop openDefaults digits rest) := by
  rw [suffixedType, read_bind, read_singleType kind]
  cbv

theorem read_operandType :
    operandType.read surroundings (atName name span here lastStop openDefaults digits rest) =
      .ok (.typeReference ⟨name, span⟩ [], atRef span.stop span.stop openDefaults digits rest) := by
  simp (disch := decide) [operandType, read_suffixedType kind, read_atAnyWord kind,
    isKeyword_name kind]

/-- The name of the icon is read as a type. -/
theorem read_typeSyntax :
    typeSyntax.read surroundings (atName name span here lastStop openDefaults digits rest) =
      .ok (.typeReference ⟨name, span⟩ [], atRef span.stop span.stop openDefaults digits rest) := by
  simp [typeSyntax, read_functionTypeAhead kind, read_operandType kind, joinedType,
    Token.isKeyword]

theorem read_typeParameter :
    typeParameter.read surroundings (atName name span here lastStop openDefaults digits rest) =
      .ok (.typeParameter ⟨name, span⟩ [], atRef span.stop span.stop openDefaults digits rest) := by
  simp (disch := decide) [typeParameter, many, read_identifier kind, read_atAnyWord kind,
    Token.isKeyword]

/-- The angle begins no type parameters of an arrow function: the name of the attribute follows
neither a parameter nor a list of them. -/
theorem read_arrowHead (plain : Lexer.isName name.toList = true)
    (typed : surroundings.dialect.typescript = true) : ∃ error,
      arrowHead.read surroundings (atAngle name here lastStop openDefaults digits rest) =
        .error error := by
  simp [arrowHead, typeParameters, commaList, commaListFlagged, typed,
    at_after_angle _ _ _ _ _ plain, read_typeParameter kind, Token.isPunctuator, Token.isKeyword]

omit [Grammar] in
theorem read_likelihoodInAngles (surroundings : Surroundings) (span : Span) (here : Ahead)
    (lastStop : Nat) (openDefaults : List Nat) (digits rest : List Char) : ∃ cursor,
      likelihoodInAngles.read surroundings
          (atName name span here lastStop openDefaults digits rest) =
        .ok (if surroundings.dialect.jsx then .excluded else .possible, cursor) := by
  cases markup : surroundings.dialect.jsx <;>
    simp [likelihoodInAngles, atIdentifier, isIdentifier_name kind, markup, Token.isKeyword]

omit [Grammar] in
/-- Only in a dialect with types and without markup the angle may begin type parameters. -/
theorem read_arrowLikelihood (plain : Lexer.isName name.toList = true) :
    arrowLikelihood.read surroundings (atAngle name here lastStop openDefaults digits rest) =
      .ok (if surroundings.dialect.typescript && !surroundings.dialect.jsx then .possible
        else .excluded, atAngle name here lastStop openDefaults digits rest) := by
  rcases read_likelihoodInAngles kind surroundings (nameSpan name here.offset)
    (atAngle name here lastStop openDefaults digits rest).after (here.offset + 1) openDefaults
    digits rest with ⟨cursor, judged⟩
  cases typed : surroundings.dialect.typescript <;> cases markup : surroundings.dialect.jsx <;>
    simp [arrowLikelihood, typed, markup, at_after_angle _ _ _ _ _ plain, judged,
      Token.isPunctuator, Token.isKeyword]

end

section

variable [Grammar] {name : String} (plain : Lexer.isName name.toList = true)
  {surroundings : Surroundings} (markup : surroundings.dialect.jsx = false)
  (types : ∀ surroundings span here lastStop openDefaults digits rest,
    (parse .type).read surroundings (atName name span here lastStop openDefaults digits rest) =
      .ok (.typeReference ⟨name, span⟩ [], atRef span.stop span.stop openDefaults digits rest))
  (here : Ahead) (lastStop : Nat) (openDefaults : List Nat) (digits rest : List Char)
include plain markup types

/-- The angle begins no operand: where it begins the type of a cast, that goes on after the name. -/
theorem read_unary_without_markup : ∃ error,
    unary.read surroundings (atAngle name here lastStop openDefaults digits rest) =
      .error error := by
  cases typed : surroundings.dialect.typescript <;>
    simp [unary, types, at_after_angle _ _ _ _ _ plain, markup, typed, Token.isPunctuator]

theorem read_assignment_without_markup (kind : WrapperKind.ofName name = .tag) : ∃ error,
    (assignmentExpression true).read surroundings
      (atAngle name here lastStop openDefaults digits rest) = .error error := by
  rcases read_unary_without_markup plain markup types here lastStop openDefaults digits rest
    with ⟨error, failed⟩
  cases typed : surroundings.dialect.typescript with
  | false =>
      simp [assignmentExpression, arrowInParentheses?, asyncArrow?, binary,
        read_arrowLikelihood kind plain, typed, failed, Token.isKeyword]
  | true =>
      obtain ⟨error, head⟩ : ∃ error, arrowHead.read surroundings
          (atAngle name here lastStop openDefaults digits rest) = .error error :=
        read_arrowHead kind plain typed
      simp [assignmentExpression, arrowInParentheses?, asyncArrow?, binary,
        read_arrowLikelihood kind plain, typed, markup, failed, head, Token.isKeyword]

end

/-! ## With markup -/

section

variable (surroundings : Surroundings) (depth offset lastStop : Nat) (openDefaults : List Nat)
  {digits : List Char} (rest : List Char)

theorem read_refAttribute : (@markupAttribute ⟨grammar (depth + 2)⟩).read surroundings
    (atRef offset lastStop openDefaults digits rest) =
      .ok (.group .tagAttribute [.reference ⟨"ref", ⟨offset + 6, offset + 9⟩⟩],
        atSize (offset + 10) openDefaults digits rest) := by
  cbv

theorem read_propsAttribute : (@markupAttribute ⟨grammar (depth + 2)⟩).read surroundings
    (atProps offset openDefaults rest) =
      .ok (.group .tagAttribute [.reference ⟨"props", ⟨offset + 5, offset + 10⟩⟩],
        atSlash (offset + 11) openDefaults rest) := by
  cbv

theorem read_sizeAttribute_value [Grammar] : markupAttribute.read surroundings
    (.at ⟨offset, " size=\x7b".toList ++ (digits ++ '}' :: rest)⟩ lastStop openDefaults) =
      (do return .group .tagAttribute [← bracedExpression .next] : Parser Node).read surroundings
        (.at ⟨offset + 6, '{' :: (digits ++ '}' :: rest)⟩ (offset + 6) openDefaults) := by
  cbv

variable (some : digits ≠ []) (all : ∀ digit ∈ digits, digit.isDigit = true)
include some all

/-- The attribute for the size is read as one, whatever stands behind it. -/
theorem read_sizeAttribute : ∃ stop, (@markupAttribute ⟨grammar (depth + 2)⟩).read surroundings
    (.at ⟨offset, " size=\x7b".toList ++ (digits ++ '}' :: rest)⟩ lastStop openDefaults) =
      .ok (.group .tagAttribute [literal], .at ⟨stop, rest⟩ stop openDefaults) := by
  have number := @read_digits digits some all '}' (by decide) (offset + 7) (offset + 7) openDefaults
    rest ⟨grammar (depth + 1)⟩ (argumentSurroundings surroundings)
  have brace (rest : List Char) : Cursor.at ⟨offset + 6, '{' :: rest⟩ (offset + 6) openDefaults =
      ⟨⟨.punctuator, Lexer.openBrace, ⟨offset + 6, offset + 7⟩, false, false, false⟩,
        ⟨offset + 6, '{' :: rest⟩, ⟨offset + 7, rest⟩, offset + 6, openDefaults⟩ := by
    rfl
  refine ⟨offset + 7 + byteLength digits + 1, ?_⟩
  rw [@read_sizeAttribute_value _ _ _ _ digits rest ⟨grammar (depth + 2)⟩, brace]
  simp only [bracedExpression, read_bind, read_expect, Token.isPunctuator, read_assignmentWithIn,
    number, beq_self_eq_true, Bool.and_true, if_true]
  rfl

theorem read_attributes (long : 2 ≤ surroundings.size) : ∃ attributes stop,
    (many (do return !(← atAny [">", "/"])) (@markupAttribute ⟨grammar (depth + 2)⟩)).read
        surroundings (atRef offset lastStop openDefaults digits rest) =
      .ok (attributes, atSlash stop openDefaults rest) := by
  rcases Nat.exists_eq_add_of_le' long with ⟨more, size⟩
  rcases read_sizeAttribute surroundings depth (offset + 10) (offset + 10) openDefaults
    (propsText rest) some all with ⟨middle, second⟩
  rw [← atSize, ← atProps] at second
  have word : (atSize (offset + 10) openDefaults digits rest).token.kind = .word := by rfl
  have brace : (atProps middle openDefaults rest).token.text = Lexer.openBrace := by rfl
  refine ⟨[.group .tagAttribute [.reference ⟨"ref", ⟨offset + 6, offset + 9⟩⟩],
    .group .tagAttribute [literal],
    .group .tagAttribute [.reference ⟨"props", ⟨middle + 5, middle + 10⟩⟩]], middle + 11, ?_⟩
  simp [many, size, read_refAttribute, word, second, brace, read_propsAttribute, Lexer.openBrace]

theorem read_element {name : String} (here : Ahead) (plain : Lexer.isName name.toList = true)
    (long : 2 ≤ surroundings.size) : ∃ tag place attributes stop,
      (@element ⟨grammar (depth + 2)⟩ false).read surroundings
          (atAngle name here lastStop openDefaults digits rest) =
        .ok (.element tag [] place attributes [] none, .at ⟨stop, rest⟩ stop openDefaults) := by
  have name_read := at_after_angle here lastStop openDefaults digits rest plain
  obtain ⟨tag, named⟩ : ∃ tag, tagName.read surroundings
      (atName name (nameSpan name here.offset)
        (atAngle name here lastStop openDefaults digits rest).after (here.offset + 1) openDefaults
        digits rest) =
      .ok ((tag, name), atRef (nameSpan name here.offset).stop (nameSpan name here.offset).stop
        openDefaults digits rest) := read_tagName
  obtain ⟨attributes, stop, listed⟩ : ∃ attributes stop,
      (many (do return !(← atAny [">", "/"])) (@markupAttribute ⟨grammar (depth + 2)⟩)).read
        surroundings (atRef (nameSpan name here.offset).stop (nameSpan name here.offset).stop
          openDefaults digits rest) = .ok (attributes, atSlash stop openDefaults rest) :=
    read_attributes surroundings depth _ _ openDefaults rest some all long
  have last : (lastAngle false).read surroundings
      (.at (atSlash stop openDefaults rest).after (stop + 2) openDefaults) =
        .ok ((), .at ⟨stop + 3, rest⟩ (stop + 3) openDefaults) := by
    rfl
  refine ⟨tag, (nameSpan name here.offset).stop, attributes, stop + 3, ?_⟩
  simp [element, name_read, named, Grammar.atAngle, listed, last, Token.isPunctuator]

end

/-- What is read as an element is a whole expression before a closing parenthesis. -/
theorem read_assignment_with_markup [Grammar] {name : String}
    (kind : WrapperKind.ofName name = .tag) (plain : Lexer.isName name.toList = true)
    {surroundings : Surroundings} (markup : surroundings.dialect.jsx = true) {here : Ahead}
    {lastStop place stop : Nat} {openDefaults : List Nat} {digits rest : List Char}
    {tag : TagName} {attributes : List Node}
    (parsed : (parse (.element false)).read surroundings
      (atAngle name here lastStop openDefaults digits (')' :: rest)) =
        .ok (.element tag [] place attributes [] none,
          .at ⟨stop, ')' :: rest⟩ stop openDefaults)) :
    (assignmentExpression true).read surroundings
      (atAngle name here lastStop openDefaults digits (')' :: rest)) =
        .ok (.element tag [] place attributes [] none,
          .at ⟨stop, ')' :: rest⟩ stop openDefaults) := by
  have begins : BeginsOperand surroundings
      (atAngle name here lastStop openDefaults digits (')' :: rest)) := by
    refine ⟨fun yields => ?_, ?_, ?_, ?_⟩
    · simp [Token.isKeyword] at yields
    · rw [read_arrowLikelihood kind plain, markup]
      simp
    · simp [asyncArrow?, Token.isKeyword]
    · simp
  refine read_assignment_of_unary begins ?_ (closes_at (by decide) ..)
  simp [unary, markup, parsed, Token.isPunctuator]

/-! ## The wrapper as a whole -/

theorem at_angle {name : String} (plain : Lexer.isName name.toList = true) (offset lastStop : Nat)
    (openDefaults : List Nat) (digits rest : List Char) :
    Cursor.at ⟨offset, ' ' :: '<' :: (name.toList ++ attributesText digits rest)⟩ lastStop
        openDefaults =
      atAngle name ⟨offset + 1, '<' :: (name.toList ++ attributesText digits rest)⟩ lastStop
        openDefaults digits rest := by
  rcases Lexer.exists_start_of_isName plain with ⟨first, letters, spelled, start⟩
  simp only [atAngle, spelled]
  rw [List.cons_append, Cursor.at, Lexer.next_angle start]
  rfl

/-- The text of a tag wrapper, divided where its parts are read. -/
theorem toList_tagText (name : String) (size : Nat) (rest : List Char) :
    (tagText name size).toList ++ rest = componentText (' ' :: '<' ::
      (name.toList ++ attributesText (toString size).toList (')' :: rest))) := by
  have opening : "React.forwardRef((props, ref) => <".toList =
      "React".toList ++ '.' :: ("forwardRef".toList ++ '(' :: ("(props, ref) =>".toList ++
        [' ', '<'])) := by
    rfl
  have closing : "\x7d \x7b...props\x7d />)".toList =
      '}' :: (" \x7b...props\x7d />".toList ++ [')']) := by
    rfl
  -- The equation of `tagText` takes the literals apart, which is slow.
  delta tagText
  simp only [String.toList_append, opening, closing, componentText, reactText, List.append_assoc,
    List.cons_append, List.nil_append]

section

variable {name : String} (kind : WrapperKind.ofName name = .tag)
  (plain : Lexer.isName name.toList = true) {surroundings : Surroundings} (depth size offset : Nat)
  (lastStop : Nat) (openDefaults : List Nat) (rest : List Char)
include kind plain

/-- Without markup the wrapper cannot be read, whatever comes after it. -/
theorem read_tagText_without_markup (markup : surroundings.dialect.jsx = false) : ∃ error,
    (grammar (depth + 4) (.assignment true)).read surroundings
      (.at ⟨offset, (tagText name size).toList ++ rest⟩ lastStop openDefaults) =
        .error error := by
  have types := @read_typeSyntax ⟨grammar depth⟩ name kind
  have angle := at_angle plain (offset + 32) (offset + 32) openDefaults (toString size).toList
    (')' :: rest)
  obtain ⟨error, failed⟩ := @read_assignment_without_markup ⟨grammar (depth + 1)⟩ name plain
    (componentSurroundings surroundings) markup (fun _ _ _ _ _ _ _ => types)
    ⟨offset + 32 + 1, '<' :: (name.toList ++ attributesText (toString size).toList (')' :: rest))⟩
    (offset + 32) openDefaults (toString size).toList (')' :: rest) kind
  rw [← angle] at failed
  have noBody : (Cursor.at ⟨offset + 32, ' ' :: '<' :: (name.toList ++
      attributesText (toString size).toList (')' :: rest))⟩ (offset + 32)
        openDefaults).token.isPunctuator Lexer.openBrace = false := by
    rw [angle]
    rfl
  have level : grammar (depth + 4) (.assignment true) =
      @assignmentExpression ⟨grammar (depth + 1 + 2)⟩ true := by
    rfl
  rw [level, toList_tagText]
  exact ⟨error, read_component_error (depth + 1) offset lastStop noBody failed⟩

/-- With markup the wrapper is an expression where one may end. -/
theorem read_tagText_with_markup (markup : surroundings.dialect.jsx = true)
    (long : 2 ≤ surroundings.size) {closing : Char}
    (closes : closing ∈ [')', ']', '}', ',', ';']) : ∃ node stop,
      (grammar (depth + 6) (.assignment true)).read surroundings
        (.at ⟨offset, (tagText name size).toList ++ closing :: rest⟩ lastStop openDefaults) =
          .ok (node, .at ⟨stop, closing :: rest⟩ stop openDefaults) := by
  have angle := at_angle plain (offset + 32) (offset + 32) openDefaults (toString size).toList
    (')' :: closing :: rest)
  rcases read_element (componentSurroundings surroundings) depth (offset + 32) openDefaults
    (')' :: closing :: rest) toString_ne_nil isDigit_of_mem_toString
    ⟨offset + 32 + 1, '<' :: (name.toList ++
      attributesText (toString size).toList (')' :: closing :: rest))⟩ plain long with
    ⟨tag, place, attributes, stop, parsed⟩
  have read := @read_assignment_with_markup ⟨grammar (depth + 3)⟩ name kind plain
    (componentSurroundings surroundings) markup _ _ _ _ _ _ _ _ _ parsed
  have noBody : (Cursor.at ⟨offset + 32, ' ' :: '<' :: (name.toList ++
      attributesText (toString size).toList (')' :: closing :: rest))⟩ (offset + 32)
        openDefaults).token.isPunctuator Lexer.openBrace = false := by
    rw [angle]
    rfl
  rw [← angle] at read
  have level : grammar (depth + 6) (.assignment true) =
      @assignmentExpression ⟨grammar (depth + 3 + 2)⟩ true := by
    rfl
  rw [level, toList_tagText]
  rcases read_component (Nat.le_of_succ_le long) (depth + 3) offset lastStop noBody closes read
    with ⟨component, whole⟩
  exact ⟨_, _, whole⟩

end

end Wrapper
end IconSize
