import IconSize.Proofs.Syntax.EntryForms
import IconSize.Syntax.Grammar.Expression
import IconSize.Syntax.Grammar.Function

/-!
Operands in the grammar: what is read of a name, a number, an object, and the call of a member,
where a closing punctuator comes after them. None of them begins an arrow function, so each is a
whole expression.
-/

namespace IconSize.Syntax
open Text

/-- A punctuator is ahead that ends the expression before it. -/
def Cursor.Closes (cursor : Cursor) : Prop :=
  ∃ text ∈ [")", "]", "\x7d", ",", ";"], ∃ span newLine,
    cursor.token = ⟨.punctuator, text, span, newLine, false, false⟩

theorem Lexer.next_dot {first : Char} (start : isIdentifierStart first = true) (offset : Nat)
    (rest : List Char) : Lexer.next ⟨offset, '.' :: first :: rest⟩ =
      Step.of .punctuator "." false ⟨offset, '.' :: first :: rest⟩ 1 := by
  have dot : '.' ≠ first := (ne_of_start start (by decide)).symm
  have found : firstOf punctuators ('.' :: first :: rest) = some "." := by
    simp [firstOf, punctuators, openBrace, closeBrace, List.isPrefixOf, dot]
  have gap : skipGap .between false offset ('.' :: first :: rest) =
      some (false, ⟨offset, '.' :: first :: rest⟩) := by
    rfl
  have token : tokenAt false ⟨offset, '.' :: first :: rest⟩ =
      punctuator punctuators false ⟨offset, '.' :: first :: rest⟩ := by
    simp [tokenAt, not_isDigit_of_start start]
  simp only [Lexer.next, gap, token, punctuator, found]
  rfl

theorem Cursor.Closes.text_ne {cursor : Cursor} (closes : cursor.Closes) {other : String}
    (different : [")", "]", "\x7d", ",", ";"].contains other = false) :
    cursor.token.text ≠ other := by
  rcases closes with ⟨text, listed, span, newLine, token⟩
  rw [token]
  rintro rfl
  exact absurd (List.contains_iff_mem.mpr listed) (Bool.eq_false_iff.mp different)

namespace Grammar
open IconSize.Syntax.Parser

theorem closes_at {closing : Char} (closes : closing ∈ [')', ']', '}', ',', ';']) (offset : Nat)
    (rest : List Char) (lastStop : Nat) (openDefaults : List Nat) :
    (Cursor.at ⟨offset, closing :: rest⟩ lastStop openDefaults).Closes := by
  simp only [List.mem_cons, List.not_mem_nil, or_false] at closes
  rcases closes with rfl | rfl | rfl | rfl | rfl
  · exact ⟨")", by simp, ⟨offset, offset + 1⟩, false, rfl⟩
  · exact ⟨"]", by simp, ⟨offset, offset + 1⟩, false, rfl⟩
  · exact ⟨"\x7d", by simp, ⟨offset, offset + 1⟩, false, rfl⟩
  · exact ⟨",", by simp, ⟨offset, offset + 1⟩, false, rfl⟩
  · exact ⟨";", by simp, ⟨offset, offset + 1⟩, false, rfl⟩

theorem endsName_closing {closing : Char} (closes : closing ∈ [')', ']', '}', ',', ';'])
    (rest : List Char) : Lexer.EndsName (closing :: rest) := by
  simp only [List.mem_cons, List.not_mem_nil, or_false] at closes
  rcases closes with rfl | rfl | rfl | rfl | rfl
  all_goals exact ⟨_, rest, rfl, by decide, by decide⟩

section

variable (surroundings : Surroundings) {cursor : Cursor} (closes : cursor.Closes)
include closes

theorem read_operatorToken_of_closes :
    operatorToken.read surroundings cursor = .ok (cursor.token, cursor) := by
  rcases closes with ⟨text, listed, span, newLine, token⟩
  have other : text ≠ ">" := by
    rintro rfl
    exact absurd listed (by decide)
  simp [operatorToken, look, token, other, Token.isPunctuator]

theorem read_operatorLevel?_of_closes :
    operatorLevel?.read surroundings cursor = .ok (none, cursor) := by
  have operator := read_operatorToken_of_closes surroundings closes
  rcases closes with ⟨text, listed, span, newLine, token⟩
  simp only [List.mem_cons, List.not_mem_nil, or_false] at listed
  rcases listed with rfl | rfl | rfl | rfl | rfl <;>
    simp [operatorLevel?, operator, token, operatorLevels]

theorem read_chain_of_closes [Grammar] (node : Node) :
    (chain true node).read surroundings cursor = .ok (node, cursor) := by
  rcases closes with ⟨text, listed, span, newLine, token⟩
  simp only [List.mem_cons, List.not_mem_nil, or_false] at listed
  rcases listed with rfl | rfl | rfl | rfl | rfl <;>
    simp [chain, token]

end

/-- An operand is ahead: no arrow function, no `yield` with its value, and no private name. -/
structure BeginsOperand [Grammar] (surroundings : Surroundings) (cursor : Cursor) : Prop where
  noYield : cursor.token.isKeyword "yield" = true → surroundings.inGenerator = false ∧
    (next operandOnLine).read surroundings cursor = .ok (false, cursor)
  noArrow : arrowLikelihood.read surroundings cursor = .ok (.excluded, cursor)
  noAsync : (asyncArrow? true).read surroundings cursor = .ok (none, cursor)
  notPrivate : cursor.token.kind ≠ .privateName

section

variable [Grammar] {surroundings : Surroundings} {cursor after : Cursor} {node : Node}
  (begins : BeginsOperand surroundings cursor)
include begins

/-- Whatever stands behind it, no `yield` with a value is ahead. -/
theorem BeginsOperand.exists_next : ∃ valued,
    (next operandOnLine).read surroundings cursor = .ok (valued, cursor) ∧
      (cursor.token.isKeyword "yield" && (surroundings.inGenerator || valued)) = false := by
  cases yields : cursor.token.isKeyword "yield" with
  | false => exact ⟨_, read_next .., rfl⟩
  | true =>
      rcases begins.noYield yields with ⟨plain, alone⟩
      exact ⟨false, alone, by rw [plain]; rfl⟩

theorem BeginsOperand.read_arrowInParentheses? :
    (arrowInParentheses? true).read surroundings cursor = .ok (none, cursor) := by
  simp [arrowInParentheses?, begins.noArrow]

/-- An operand before a closing punctuator is a whole expression. -/
theorem read_assignment_of_unary (parsed : unary.read surroundings cursor = .ok (node, after))
    (closes : after.Closes) :
    (assignmentExpression true).read surroundings cursor = .ok (node, after) := by
  have operator := read_operatorToken_of_closes surroundings closes
  have level := read_operatorLevel?_of_closes surroundings closes
  have left : (binary 0).read surroundings cursor = .ok (node, after) := by
    simp [binary, begins.notPrivate, parsed, level]
  have whole : (conditional true node).read surroundings after = .ok (node, after) := by
    rcases closes with ⟨text, listed, span, newLine, token⟩
    have other : text ≠ "?" := by
      rintro rfl
      exact absurd listed (by decide)
    simp [conditional, token, other, Token.isPunctuator]
  rcases begins.exists_next with ⟨valued, follows, noYield⟩
  have closing : after.token.isPunctuator "=>" = false ∧ after.token.isPunctuator "=" = false ∧
      (after.token.kind == .punctuator && compoundAssignments.contains after.token.text) =
        false := by
    rcases closes with ⟨text, listed, span, newLine, token⟩
    simp only [List.mem_cons, List.not_mem_nil, or_false] at listed
    rcases listed with rfl | rfl | rfl | rfl | rfl <;>
      simp [token, compoundAssignments, Token.isPunctuator]
  simp only [assignmentExpression, read_bind, read_atWord, read_surroundings, follows, noYield,
    Bool.false_eq_true, if_false, begins.read_arrowInParentheses?, begins.noAsync, left]
  split <;>
    simp only [read_bind, read_at?, closing, operator, Bool.false_eq_true, if_false, whole]

theorem read_assignment_of_unary_error {error : SyntaxError}
    (failed : unary.read surroundings cursor = .error error) :
    (assignmentExpression true).read surroundings cursor = .error error := by
  rcases begins.exists_next with ⟨valued, follows, noYield⟩
  have left : (binary 0).read surroundings cursor = .error error := by
    simp [binary, begins.notPrivate, failed]
  simp only [assignmentExpression, read_bind, read_atWord, read_surroundings, follows, noYield,
    Bool.false_eq_true, if_false, begins.read_arrowInParentheses?, begins.noAsync, left]

end

/-- A word that is not reserved is an identifier. -/
theorem read_identifierOf {surroundings : Surroundings} {cursor : Cursor} {name : String}
    {span : Span} {newLine : Bool} (notReserved : Token.reservedWords.contains name = false)
    (noAwait : name = "await" → surroundings.inAsync = false)
    (noYield : name = "yield" → surroundings.inGenerator = false) :
    (identifierOf ⟨.word, name, span, newLine, false, false⟩).read surroundings cursor =
      .ok (⟨name, span⟩, cursor) := by
  have isIdentifier : (Token.mk .word name span newLine false false).isIdentifier = true := by
    simp only [Token.isIdentifier, notReserved]
    rfl
  have noReservedName : ((name == "await" && surroundings.inAsync) ||
      (name == "yield" && surroundings.inGenerator)) = false := by
    simpa [Classical.or_iff_not_imp_left] using And.intro noAwait noYield
  simp only [identifierOf, isIdentifier, noReservedName, read_bind, read_surroundings]
  rfl

/-- A word that is an identifier is ahead, and a punctuator behind it that begins no parameters and
no type arguments. -/
structure NamesOperand (surroundings : Surroundings) (cursor : Cursor) (identifier : Identifier) :
    Prop where
  token : ∃ newLine, cursor.token =
    ⟨.word, identifier.name, identifier.span, newLine, false, false⟩
  notReserved : Token.reservedWords.contains identifier.name = false
  noAwait : identifier.name = "await" → surroundings.inAsync = false
  noYield : identifier.name = "yield" → surroundings.inGenerator = false
  follows : ∃ text span newLine, text ≠ "(" ∧ text ≠ "<" ∧
    (Cursor.at cursor.after identifier.span.stop cursor.openDefaults).token =
      ⟨.punctuator, text, span, newLine, false, false⟩

namespace NamesOperand

variable {surroundings : Surroundings} {cursor after : Cursor} {identifier : Identifier}
  (names : NamesOperand surroundings cursor identifier)
include names

theorem ne_of_reserved {word : String} (reserved : Token.reservedWords.contains word = true) :
    identifier.name ≠ word := by
  rintro rfl
  exact Bool.noConfusion (names.notReserved.symm.trans reserved)

theorem begins [Grammar] : BeginsOperand surroundings cursor := by
  rcases names.token with ⟨newLine, token⟩
  rcases names.follows with ⟨text, span, onNewLine, noParenthesis, noAngle, second⟩
  have stop : cursor.token.span.stop = identifier.span.stop := by rw [token]
  refine ⟨fun yields => ⟨names.noYield ?_, ?_⟩, ?_, ?_, ?_⟩
  · simpa [token, Token.isKeyword] using yields
  · simp [operandOnLine, stop, second]
  · by_cases async : identifier.name = "async"
    · cases onNewLine <;>
        simp [arrowLikelihood, token, second, async, Token.isKeyword, Token.isPunctuator,
          noParenthesis, noAngle]
    · simp [arrowLikelihood, token, async, Token.isKeyword]
  · by_cases async : identifier.name = "async"
    · simp [asyncArrow?, atIdentifier, token, second, Token.isIdentifier]
    · simp [asyncArrow?, token, async, Token.isKeyword]
  · simp [token]

theorem read_identifier : Parser.identifier.read surroundings cursor =
    .ok (identifier, .at cursor.after identifier.span.stop cursor.openDefaults) := by
  have named := @read_identifierOf surroundings cursor identifier.name identifier.span
  rcases names.token with ⟨newLine, token⟩
  simp [Parser.identifier, token, named names.notReserved names.noAwait names.noYield]

theorem read_functionAhead [Grammar] :
    functionAhead.read surroundings cursor = .ok (false, cursor) := by
  have noFunction : identifier.name ≠ "function" := names.ne_of_reserved (by decide)
  rcases names.token with ⟨newLine, token⟩
  rcases names.follows with ⟨text, span, onNewLine, _, _, second⟩
  simp [functionAhead, noFunction, token, second, Token.isKeyword]

theorem read_primary [Grammar] : primary.read surroundings cursor =
    .ok (.reference identifier, .at cursor.after identifier.span.stop cursor.openDefaults) := by
  have ahead := names.read_functionAhead
  have read := names.read_identifier
  rcases names.token with ⟨newLine, token⟩
  simp only [primary, token, read_bind, read_token, Bool.false_eq_true, if_false]
  split
  -- The last case is that of no keyword.
  rotate_right
  · simp only [read_bind, ahead, read, Bool.false_eq_true, if_false, read_pure]
  all_goals exact absurd ‹_› (names.ne_of_reserved (by decide))

/-- A name begins a chain, after which an operator can stand. -/
theorem read_unary [Grammar] : unary.read surroundings cursor =
    (do
      let node ← chain true (.reference identifier)
      if (← atAny ["++", "--"]) && !(← onNewLine) then
        let operand ← target Node.toSimpleTarget? node
        advance
        return .group .update [operand]
      else return node : Parser Node).read surroundings
        (.at cursor.after identifier.span.stop cursor.openDefaults) := by
  have primary := names.read_primary
  have noOperator : (cursor.token.isKeyword "delete" || cursor.token.isKeyword "void" ||
      cursor.token.isKeyword "typeof") = false := by
    rcases names.token with ⟨newLine, token⟩
    simpa [token, Token.isKeyword] using
      ⟨⟨names.ne_of_reserved (by decide), names.ne_of_reserved (by decide)⟩,
        names.ne_of_reserved (by decide)⟩
  obtain ⟨valued, follows, noAwait⟩ : ∃ valued,
      (next operandOnLine).read surroundings cursor = .ok (valued, cursor) ∧
        (cursor.token.isKeyword "await" && (surroundings.inAsync || valued)) = false := by
    rcases names.token with ⟨newLine, token⟩
    rcases names.follows with ⟨text, span, onNewLine, _, _, second⟩
    refine ⟨false, by simp [operandOnLine, token, second], ?_⟩
    have plain := names.noAwait
    simpa [token, Token.isKeyword] using plain
  have noPunctuator (text : String) : cursor.token.isPunctuator text = false := by
    rcases names.token with ⟨newLine, token⟩
    simp [token]
  have noSign : (cursor.token.kind == .punctuator &&
      ["+", "-", "~", "!"].contains cursor.token.text) = false := by
    rcases names.token with ⟨newLine, token⟩
    simp [token]
  simp only [unary, leftHandSide, read_bind, read_token, read_atAny, read_surroundings, noSign,
    noPunctuator, noOperator, follows, noAwait, primary, Bool.or_self, Bool.false_eq_true, if_false]

/-- The name is an expression, with what a chain adds to it before a closing punctuator. -/
theorem read_assignment [Grammar] {node : Node}
    (chained : (chain true (.reference identifier)).read surroundings
      (.at cursor.after identifier.span.stop cursor.openDefaults) = .ok (node, after))
    (closes : after.Closes) :
    (assignmentExpression true).read surroundings cursor = .ok (node, after) := by
  refine read_assignment_of_unary names.begins ?_ closes
  have increment : after.token.text ≠ "++" := closes.text_ne (by decide)
  have decrement : after.token.text ≠ "--" := closes.text_ne (by decide)
  simp [names.read_unary, chained, increment, decrement]

theorem read_assignment_error [Grammar] {error : SyntaxError}
    (failed : (chain true (.reference identifier)).read surroundings
      (.at cursor.after identifier.span.stop cursor.openDefaults) = .error error) :
    (assignmentExpression true).read surroundings cursor = .error error := by
  refine read_assignment_of_unary_error names.begins ?_
  simp only [names.read_unary, failed, read_bind]

end NamesOperand

/-- A name that is no keyword is an expression before a closing punctuator. -/
theorem read_assignment_name [Grammar] {surroundings : Surroundings} {name : String}
    (plain : Lexer.isName name.toList = true)
    (notReserved : Token.reservedWords.contains name = false)
    (noAwait : name = "await" → surroundings.inAsync = false)
    (noYield : name = "yield" → surroundings.inGenerator = false) {offset lastStop : Nat}
    {openDefaults : List Nat} {rest : List Char} (ends : Lexer.EndsName rest) :
    let after := Cursor.at ⟨offset + byteLength name.toList, rest⟩
      (offset + byteLength name.toList) openDefaults
    after.Closes →
      (assignmentExpression true).read surroundings
        (.at ⟨offset, name.toList ++ rest⟩ lastStop openDefaults) =
          .ok (.reference ⟨name, ⟨offset, offset + byteLength name.toList⟩⟩, after) := by
  intro after closes
  have names : NamesOperand surroundings
      (.word name false offset rest lastStop openDefaults)
      ⟨name, ⟨offset, offset + byteLength name.toList⟩⟩ := by
    refine ⟨⟨false, rfl⟩, notReserved, noAwait, noYield, ?_⟩
    have noParenthesis : after.token.text ≠ "(" := closes.text_ne (by decide)
    have noAngle : after.token.text ≠ "<" := closes.text_ne (by decide)
    rcases closes with ⟨text, listed, span, newLine, token⟩
    rw [token] at noParenthesis noAngle
    exact ⟨text, span, newLine, noParenthesis, noAngle, token⟩
  rw [Cursor.at_name plain ends]
  exact names.read_assignment (read_chain_of_closes surroundings closes _) closes

/-! ## Calls of members -/

@[simp]
theorem token_parenthesis {offset lastStop : Nat} {openDefaults : List Nat} {next : List Char} :
    (Cursor.at ⟨offset, '(' :: next⟩ lastStop openDefaults).token =
      ⟨.punctuator, "(", ⟨offset, offset + 1⟩, false, false, false⟩ := rfl

@[simp]
theorem after_parenthesis {offset lastStop : Nat} {openDefaults : List Nat} {next : List Char} :
    (Cursor.at ⟨offset, '(' :: next⟩ lastStop openDefaults).after = ⟨offset + 1, next⟩ := rfl

@[simp]
theorem token_closing {offset lastStop : Nat} {openDefaults : List Nat} {next : List Char} :
    (Cursor.at ⟨offset, ')' :: next⟩ lastStop openDefaults).token =
      ⟨.punctuator, ")", ⟨offset, offset + 1⟩, false, false, false⟩ := rfl

@[simp]
theorem after_closing {offset lastStop : Nat} {openDefaults : List Nat} {next : List Char} :
    (Cursor.at ⟨offset, ')' :: next⟩ lastStop openDefaults).after = ⟨offset + 1, next⟩ := rfl

/-- The call of a member, where its arguments are read. -/
def memberCall (object : Identifier) (arguments : List Node) : Node :=
  .group .call (.group .member [.reference object] :: arguments)

section

variable [Grammar] {member : String} (plain : Lexer.isName member.toList = true)
  {surroundings : Surroundings} (long : 1 ≤ surroundings.size) {object : Identifier}
  {offset place lastStop : Nat} {openDefaults : List Nat} {next rest : List Char}
  {arguments : List Node} {after : Cursor}
include plain

omit [Grammar] in
theorem at_dot : Cursor.at ⟨offset, '.' :: (member.toList ++ next)⟩ lastStop openDefaults =
    ⟨⟨.punctuator, ".", ⟨offset, offset + 1⟩, false, false, false⟩,
      ⟨offset, '.' :: (member.toList ++ next)⟩, ⟨offset + 1, member.toList ++ next⟩, lastStop,
      openDefaults⟩ := by
  rcases Lexer.exists_start_of_isName plain with ⟨first, letters, spelled, start⟩
  rw [spelled, List.cons_append, Cursor.at, Lexer.next_dot start]
  rfl

omit [Grammar] in
theorem read_memberName : memberName.read surroundings
    (.at ⟨offset, member.toList ++ '(' :: next⟩ lastStop openDefaults) =
      .ok ((), .at ⟨offset + byteLength member.toList, '(' :: next⟩
        (offset + byteLength member.toList) openDefaults) := by
  rw [Cursor.at_name plain ⟨'(', next, rfl, by decide, by decide⟩]
  rfl

include long

theorem read_chain_memberCall
    (parsed : callArguments.read surroundings
      (.at ⟨offset + 1 + byteLength member.toList, '(' :: next⟩
        (offset + 1 + byteLength member.toList) openDefaults) = .ok (arguments, after))
    (closes : after.Closes) :
    (chain true (.reference object)).read surroundings
      (.at ⟨offset, '.' :: (member.toList ++ '(' :: next)⟩ lastStop openDefaults) =
        .ok (memberCall object arguments, after) := by
  rcases Nat.exists_eq_add_of_le' long with ⟨more, size⟩
  rcases closes with ⟨text, listed, span, newLine, token⟩
  simp only [List.mem_cons, List.not_mem_nil, or_false] at listed
  rcases listed with rfl | rfl | rfl | rfl | rfl <;>
    simp [chain, at_dot plain, read_memberName plain, size, parsed, token, callHead, memberCall]

omit long in
theorem read_chain_memberCall_error {error : SyntaxError}
    (failed : callArguments.read surroundings
      (.at ⟨offset + 1 + byteLength member.toList, '(' :: next⟩
        (offset + 1 + byteLength member.toList) openDefaults) = .error error) :
    (chain true (.reference object)).read surroundings
      (.at ⟨offset, '.' :: (member.toList ++ '(' :: next)⟩ lastStop openDefaults) =
        .error error := by
  simp [chain, at_dot plain, read_memberName plain, failed]

end

section

variable [Grammar] {surroundings : Surroundings} {object member : String}
  (plain : Lexer.isName object.toList = true) (plainMember : Lexer.isName member.toList = true)
  (notKeyword : ("await" :: "yield" :: Token.reservedWords).contains object = false)
  (long : 1 ≤ surroundings.size) {offset opening lastStop : Nat} {openDefaults : List Nat}
  {next : List Char}
  (opens : opening = offset + byteLength object.toList + 1 + byteLength member.toList)
include plainMember notKeyword

omit [Grammar] in
theorem namesOperand_object : NamesOperand surroundings
    (.word object false offset ('.' :: (member.toList ++ '(' :: next)) lastStop openDefaults)
    ⟨object, ⟨offset, offset + byteLength object.toList⟩⟩ := by
  have dot (stop : Nat) : (Cursor.at ⟨offset + byteLength object.toList,
      '.' :: (member.toList ++ '(' :: next)⟩ stop openDefaults) = _ := at_dot plainMember
  simp only [List.contains_cons, Bool.or_eq_false_iff, beq_eq_false_iff_ne] at notKeyword
  exact ⟨⟨false, rfl⟩, notKeyword.2.2, fun same => absurd same notKeyword.1,
    fun same => absurd same notKeyword.2.1, ".", _, _, by decide, by decide,
    congrArg Cursor.token (dot _)⟩

include plain long opens

/-- A call of a member is an expression before a closing punctuator, once its arguments are read. -/
theorem read_memberCall {nodes : List Node} {after : Cursor}
    (parsed : callArguments.read surroundings (.at ⟨opening, '(' :: next⟩ opening openDefaults) =
      .ok (nodes, after)) (closes : after.Closes) :
    (assignmentExpression true).read surroundings
      (.at ⟨offset, object.toList ++ '.' :: (member.toList ++ '(' :: next)⟩ lastStop
        openDefaults) =
          .ok (memberCall ⟨object, ⟨offset, offset + byteLength object.toList⟩⟩ nodes, after) := by
  subst opens
  rw [Cursor.at_name plain ⟨'.', _, rfl, by decide, by decide⟩]
  exact (namesOperand_object plainMember notKeyword).read_assignment
    (read_chain_memberCall plainMember long parsed closes) closes

omit long in
theorem read_memberCall_error {error : SyntaxError}
    (failed : callArguments.read surroundings (.at ⟨opening, '(' :: next⟩ opening openDefaults) =
      .error error) :
    (assignmentExpression true).read surroundings
      (.at ⟨offset, object.toList ++ '.' :: (member.toList ++ '(' :: next)⟩ lastStop
        openDefaults) = .error error := by
  subst opens
  rw [Cursor.at_name plain ⟨'.', _, rfl, by decide, by decide⟩]
  exact (namesOperand_object plainMember notKeyword).read_assignment_error
    (read_chain_memberCall_error plainMember failed)

end

/-! ## Lists with commas -/

/-- The cursor is at items with commas between them, up to a closing punctuator, before which
another comma may stand. -/
inductive ListsUpTo {α : Type} (close : String) (item : Parser α) (surroundings : Surroundings) :
    Cursor → List α → Cursor → Prop
  | done {cursor : Cursor} (closes : cursor.token.isPunctuator close = true) :
    ListsUpTo close item surroundings cursor [] cursor
  | last {cursor after : Cursor} {value : α}
    (notClosed : cursor.token.isPunctuator close = false)
    (parsed : item.read surroundings cursor = .ok (value, after))
    (closes : after.token.isPunctuator close = true) :
    ListsUpTo close item surroundings cursor [value] after
  | more {cursor between after : Cursor} {value : α} {values : List α}
    (notClosed : cursor.token.isPunctuator close = false)
    (parsed : item.read surroundings cursor = .ok (value, between))
    (comma : between.token.isPunctuator "," = true)
    (others : ListsUpTo close item surroundings
      (.at between.after between.token.span.stop between.openDefaults) values after) :
    ListsUpTo close item surroundings cursor (value :: values) after

theorem ListsUpTo.comma {α : Type} {close : String} {item : Parser α}
    {surroundings : Surroundings} {cursor after : Cursor} {value : α} {values : List α}
    {place stop : Nat} {openDefaults : List Nat} {next : List Char}
    (notClosed : cursor.token.isPunctuator close = false)
    (parsed : item.read surroundings cursor =
      .ok (value, .at ⟨place, ',' :: next⟩ stop openDefaults))
    (others : ListsUpTo close item surroundings (.at ⟨place + 1, next⟩ (place + 1) openDefaults)
      values after) :
    ListsUpTo close item surroundings cursor (value :: values) after :=
  .more notClosed parsed rfl others

theorem ListsUpTo.read_commaListFlagged {α : Type} {close : String} {item : Parser α}
    {surroundings : Surroundings} {cursor after : Cursor} {values : List α} (other : close ≠ ",")
    (lists : ListsUpTo close item surroundings cursor values after)
    (long : values.length ≤ surroundings.size + 1) : ∃ comma,
      (commaListFlagged close item).read surroundings cursor = .ok ((values, comma), after) := by
  obtain ⟨step, same, closed, last, more⟩ : ∃ step,
      commaListFlagged close item = loop ([], false) step ∧
      (∀ {items comma cursor}, cursor.token.isPunctuator close = true →
        (step (items, comma)).read surroundings cursor =
          .ok (.inr (items.reverse, comma), cursor)) ∧
      (∀ {items comma cursor after value}, cursor.token.isPunctuator close = false →
        item.read surroundings cursor = .ok (value, after) →
        after.token.isPunctuator close = true →
        (step (items, comma)).read surroundings cursor =
          .ok (.inr ((value :: items).reverse, false), after)) ∧
      ∀ {items comma cursor between value}, cursor.token.isPunctuator close = false →
        item.read surroundings cursor = .ok (value, between) →
        between.token.isPunctuator "," = true →
        (step (items, comma)).read surroundings cursor = .ok (.inl (value :: items, true),
          .at between.after between.token.span.stop between.openDefaults) := by
    refine ⟨_, rfl, ?_, ?_, ?_⟩
    · intro items comma cursor closes
      simp [closes]
    · intro items comma cursor after value notClosed parsed closes
      have noComma : after.token.isPunctuator "," = false := by
        simp only [Token.isPunctuator, Bool.and_eq_true, beq_iff_eq] at closes
        simp [Token.isPunctuator, closes.2, other]
      simp [notClosed, parsed, noComma, closes]
    · intro items comma cursor between value notClosed parsed comma
      simp [notClosed, parsed, comma]
  have all (items : List α) (comma : Bool) (steps : Nat) (enough : values.length < steps) :
      ∃ flag, (iterate step steps (items, comma)).read surroundings cursor =
        .ok ((items.reverse ++ values, flag), after) := by
    clear long
    induction lists generalizing items comma steps with
    | done closes =>
        cases steps with
        | zero => exact absurd enough (Nat.not_lt_zero _)
        | succ steps => exact ⟨comma, by rw [read_iterate_succ, closed closes, List.append_nil]⟩
    | last notClosed parsed closes =>
        cases steps with
        | zero => exact absurd enough (Nat.not_lt_zero _)
        | succ steps =>
            refine ⟨false, ?_⟩
            rw [read_iterate_succ, last notClosed parsed closes, List.reverse_cons]
    | @more _ _ _ value _ notClosed parsed separated _ induction =>
        cases steps with
        | zero => exact absurd enough (Nat.not_lt_zero _)
        | succ steps =>
            rcases induction (value :: items) true steps (Nat.lt_of_succ_lt_succ enough) with
              ⟨flag, read⟩
            refine ⟨flag, ?_⟩
            rw [read_iterate_succ, more notClosed parsed separated]
            simpa using read
  rw [same, read_loop]
  exact all [] false (surroundings.size + 2) (by omega)

section

variable [Grammar] {surroundings : Surroundings} {cursor after : Cursor}

/-- A value that is not spread is an expression. -/
theorem read_spreadOrValue (noDots : cursor.token.isPunctuator "..." = false) :
    spreadOrValue.read surroundings cursor = assignmentWithIn.read surroundings cursor := by
  simp [spreadOrValue, noDots]

theorem ListsUpTo.read_callArguments {offset lastStop place : Nat}
    {openDefaults defaults : List Nat} {next rest : List Char} {nodes : List Node}
    (lists : ListsUpTo ")" spreadOrValue surroundings
      (.at ⟨offset + 1, next⟩ (offset + 1) openDefaults) nodes
      (.at ⟨place, ')' :: rest⟩ place defaults))
    (long : nodes.length ≤ surroundings.size + 1) :
    callArguments.read surroundings (.at ⟨offset, '(' :: next⟩ lastStop openDefaults) =
      .ok (nodes, .at ⟨place + 1, rest⟩ (place + 1) defaults) := by
  rcases lists.read_commaListFlagged (by decide) long with ⟨comma, read⟩
  simp [callArguments, commaList, Token.isPunctuator, read]

/-- The only argument of a call is an expression. -/
theorem read_callArguments_error {offset lastStop : Nat}
    {openDefaults : List Nat} {next : List Char} {error : SyntaxError}
    (notClosed : (Cursor.at ⟨offset + 1, next⟩ (offset + 1) openDefaults).token.isPunctuator ")" =
      false)
    (failed : spreadOrValue.read surroundings
      (.at ⟨offset + 1, next⟩ (offset + 1) openDefaults) = .error error) :
    callArguments.read surroundings (.at ⟨offset, '(' :: next⟩ lastStop openDefaults) =
      .error error := by
  have listed : (commaList ")" spreadOrValue).read surroundings
      (.at ⟨offset + 1, next⟩ (offset + 1) openDefaults) = .error error := by
    simp [commaList, commaListFlagged, notClosed, failed]
  simp [callArguments, Token.isPunctuator, listed]

/-- A number or a brace is ahead, which begins an operand. -/
def BeginsLiteral (cursor : Cursor) : Prop :=
  ∃ kind text span newLine,
    cursor.token = ⟨kind, text, span, newLine, false, false⟩ ∧
      (kind = .number ∨ kind = .punctuator ∧ text = Lexer.openBrace)

theorem BeginsLiteral.begins (literal : BeginsLiteral cursor) :
    BeginsOperand surroundings cursor := by
  rcases literal with ⟨kind, text, span, newLine, token, rfl | ⟨rfl, rfl⟩⟩
  · refine ⟨?_, ?_, ?_, ?_⟩ <;>
      simp [token, arrowLikelihood, asyncArrow?, Token.isKeyword, Token.isPunctuator]
  · refine ⟨?_, ?_, ?_, ?_⟩ <;>
      simp [token, arrowLikelihood, asyncArrow?, Token.isKeyword, Token.isPunctuator,
        Lexer.openBrace]

/-- A number or an object before a closing punctuator is a whole expression. -/
theorem read_assignment_of_primary {node : Node} (literal : BeginsLiteral cursor)
    (parsed : primary.read surroundings cursor = .ok (node, after)) (closes : after.Closes) :
    (assignmentExpression true).read surroundings cursor = .ok (node, after) := by
  refine read_assignment_of_unary literal.begins ?_ closes
  have chained := read_chain_of_closes surroundings closes node
  have increment : after.token.text ≠ "++" := closes.text_ne (by decide)
  have decrement : after.token.text ≠ "--" := closes.text_ne (by decide)
  rcases literal with ⟨kind, text, span, newLine, token, rfl | ⟨rfl, rfl⟩⟩
  · simp [unary, token, leftHandSide, parsed, chained, increment, decrement, Token.isKeyword,
      Token.isPunctuator]
  · simp [unary, token, leftHandSide, parsed, chained, increment, decrement, Token.isKeyword,
      Token.isPunctuator, Lexer.openBrace]

end

/-! ## Members of objects -/

section

variable [Grammar] {surroundings : Surroundings} {name : String} {newLine : Bool}
  {offset lastStop : Nat} {openDefaults : List Nat} {rest : List Char}

/-- A name is no modifier of a method where a punctuator stands behind it that begins none. -/
theorem read_objectMember_word {text : String} {span : Span} {onNewLine : Bool}
    (behind : (Cursor.at ⟨offset + byteLength name.toList, rest⟩ (offset + byteLength name.toList)
      openDefaults).token = ⟨.punctuator, text, span, onNewLine, false, false⟩)
    (listed : text ∈ [":", ")", "]", "\x7d", ",", ";"]) :
    objectMember.read surroundings (.word name newLine offset rest lastStop openDefaults) =
      (do
        if ← eat ":" then return .property plainKey (← assignmentWithIn)
        return .shorthand (← identifierOf
          (Cursor.word name newLine offset rest lastStop openDefaults).token) :
        Parser Node).read surroundings
          (.at ⟨offset + byteLength name.toList, rest⟩ (offset + byteLength name.toList)
            openDefaults) := by
  let here : Cursor := .word name newLine offset rest lastStop openDefaults
  let after : Cursor := .at ⟨offset + byteLength name.toList, rest⟩
    (offset + byteLength name.toList) openDefaults
  have noPunctuator (text : String) : here.token.isPunctuator text = false := by
    rfl
  have isPunctuator (other : String) : after.token.isPunctuator other = (text == other) := by
    rw [show after.token = _ from behind]
    rfl
  have different : (text == "[") = false ∧ (text == Lexer.openBrace) = false ∧
      (text == "*") = false ∧ (text == "...") = false ∧ (text == "(") = false ∧
      (text == "<") = false ∧ (text == "=") = false := by
    simp only [List.mem_cons, List.not_mem_nil, or_false] at listed
    rcases listed with rfl | rfl | rfl | rfl | rfl | rfl <;> decide
  have kind : after.token.kind = .punctuator := congrArg Token.kind behind
  have next_here : Cursor.at here.after here.token.span.stop here.openDefaults = after := by
    rfl
  have follows : mayFollowModifier.read surroundings after = .ok (false, after) := by
    simp [mayFollowModifier, isPunctuator, different, kind]
  have noModifier : (atModifier ["async"]).read surroundings here = .ok (false, here) := by
    cases same : here.token.text == "async" <;> cases line : after.token.onNewLine <;>
      simp [atModifier, atAnyWord, next_here, follows, line, isPunctuator, different]
  have noAccessor (word : String) : (eatAccessor word).read surroundings here =
      .ok (false, here) := by
    cases same : here.token.isKeyword word <;>
      simp [eatAccessor, next_here, follows, same]
  have key : propertyKey.read surroundings here =
      .ok (⟨plainKey, some here.token, name⟩, after) := by
    rfl
  have named : (∃ binder, (identifierOf here.token).read surroundings after = .ok (binder, after)) ∨
      ∃ error, (identifierOf here.token).read surroundings after = .error error := by
    simp only [identifierOf, read_bind, read_surroundings]
    split
    · exact .inr ⟨_, rfl⟩
    · split
      · exact .inr ⟨_, rfl⟩
      · exact .inl ⟨_, rfl⟩
  change objectMember.read surroundings here = Parser.read _ surroundings after
  rcases named with ⟨binder, named⟩ | ⟨error, named⟩ <;> cases colon : text == ":" <;>
    simp [objectMember, noPunctuator, noModifier, noAccessor, key, isPunctuator, different, named,
      colon, here]

/-- A name with a value after a colon. -/
theorem read_valueMember :
    objectMember.read surroundings (.word name newLine offset (':' :: rest) lastStop openDefaults) =
      (do return .property plainKey (← assignmentWithIn) : Parser Node).read surroundings
        (.at ⟨offset + byteLength name.toList + 1, rest⟩ (offset + byteLength name.toList + 1)
          openDefaults) := by
  have colon : (Cursor.at ⟨offset + byteLength name.toList, ':' :: rest⟩
      (offset + byteLength name.toList) openDefaults).token = ⟨.punctuator, ":",
        ⟨offset + byteLength name.toList, offset + byteLength name.toList + 1⟩, false, false,
        false⟩ := by
    rfl
  rw [read_objectMember_word colon (by decide)]
  rfl

/-- A name alone. -/
theorem read_shorthandMember
    (notReserved : Token.reservedWords.contains name = false)
    (noAwait : name = "await" → surroundings.inAsync = false)
    (noYield : name = "yield" → surroundings.inGenerator = false) :
    let after := Cursor.at ⟨offset + byteLength name.toList, rest⟩
      (offset + byteLength name.toList) openDefaults
    after.Closes →
      objectMember.read surroundings (.word name newLine offset rest lastStop openDefaults) =
        .ok (.shorthand ⟨name, ⟨offset, offset + byteLength name.toList⟩⟩, after) := by
  intro after closes
  have other : after.token.text ≠ ":" := closes.text_ne (by decide)
  have named :
      (identifierOf (Cursor.word name newLine offset rest lastStop openDefaults).token).read
        surroundings after = .ok (⟨name, ⟨offset, offset + byteLength name.toList⟩⟩, after) :=
    read_identifierOf notReserved noAwait noYield
  rcases closes with ⟨text, listed, span, onNewLine, token⟩
  rw [read_objectMember_word token (List.mem_cons_of_mem _ listed)]
  change Parser.read _ surroundings after = _
  simp [Token.isPunctuator, other, named]

end
end Grammar
end IconSize.Syntax
