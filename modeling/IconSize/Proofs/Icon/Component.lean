import IconSize.Proofs.Syntax.Operands
import Mathlib

/-!
What both wrappers of an icon have. The size is a number. The component is a call of
`React.forwardRef` with an arrow function that takes the properties and the reference; it is read
as what stands behind the arrow is.
-/

namespace IconSize.Wrapper
open Syntax Syntax.Grammar Syntax.Parser Text

/-! ## The number of a size -/

theorem toString_ne_nil {size : Nat} : (toString size).toList ≠ [] := by
  intro empty
  exact Nat.toDigits_ne_nil (Nat.toList_repr.symm.trans empty)

theorem isDigit_of_mem_toString {size : Nat} :
    ∀ digit ∈ (toString size).toList, digit.isDigit = true := by
  intro digit member
  exact Nat.isDigit_of_mem_toDigits (by decide) (by decide) (Nat.toList_repr ▸ member)

section

variable {digits : List Char} (some : digits ≠ [])
  (all : ∀ digit ∈ digits, digit.isDigit = true) {closing : Char} (closes : closing ∈ ['}', ','])
  (offset lastStop : Nat) (openDefaults : List Nat) (rest : List Char)
include some all closes

theorem at_digits : Cursor.at ⟨offset, digits ++ closing :: rest⟩ lastStop openDefaults =
    ⟨⟨.number, String.ofList digits, ⟨offset, offset + byteLength digits⟩, false, false, false⟩,
      ⟨offset, digits ++ closing :: rest⟩, ⟨offset + byteLength digits, closing :: rest⟩, lastStop,
      openDefaults⟩ := by
  simp [Cursor.at, Lexer.next_digits some all closes, Lexer.Step.of, Ahead.skip]

/-- A number before a brace or a comma is an expression. -/
theorem read_digits [Grammar] (surroundings : Surroundings) :
    (assignmentExpression true).read surroundings
      (.at ⟨offset, digits ++ closing :: rest⟩ lastStop openDefaults) =
        .ok (literal, .at ⟨offset + byteLength digits, closing :: rest⟩
          (offset + byteLength digits) openDefaults) := by
  have ends : closing ∈ [')', ']', '}', ',', ';'] := by
    simp only [List.mem_cons, List.not_mem_nil, or_false] at closes ⊢
    tauto
  rw [at_digits some all closes]
  exact read_assignment_of_primary ⟨_, _, _, _, rfl, .inl rfl⟩ rfl (closes_at ends ..)

end

/-! ## Arguments and arrow functions -/

/-- Where the arguments of a call and the values of an object are read, `in` is an operator. -/
def argumentSurroundings (surroundings : Surroundings) : Surroundings :=
  { surroundings with allowIn := true, inDecorator := false }

theorem read_assignmentWithIn (depth : Nat) (surroundings : Surroundings) (cursor : Cursor) :
    (@assignmentWithIn ⟨grammar (depth + 1)⟩).read surroundings cursor =
      (@assignmentExpression ⟨grammar depth⟩ true).read (argumentSurroundings surroundings)
        cursor := rfl

/-- An argument that is not spread is an expression. -/
theorem read_argument {depth : Nat} {surroundings : Surroundings} {cursor : Cursor}
    {result : Except SyntaxError (Node × Cursor)}
    (noDots : cursor.token.isPunctuator "..." = false)
    (parsed : (@assignmentExpression ⟨grammar depth⟩ true).read (argumentSurroundings surroundings)
      cursor = result) :
    (@spreadOrValue ⟨grammar (depth + 1)⟩).read surroundings cursor = result := by
  rw [@read_spreadOrValue ⟨grammar (depth + 1)⟩ _ _ noDots, read_assignmentWithIn, parsed]

/-- An arrow function with parentheses is its head and the expression after the arrow. -/
theorem read_assignment_of_arrowHead [Grammar] {surroundings : Surroundings}
    {cursor after : Cursor} {head : ArrowHead} {span : Span}
    (opens : cursor.token = ⟨.punctuator, "(", span, false, false, false⟩)
    (likely : arrowLikelihood.read surroundings cursor = .ok (.possible, cursor))
    (headed : arrowHead.read surroundings cursor = .ok (head, after))
    (noBody : after.token.isPunctuator Lexer.openBrace = false) :
    (assignmentExpression true).read surroundings cursor =
      match (parse (.assignment true)).read
        (FunctionKind.inside ⟨head.asynchronous, false⟩ surroundings) after with
      | .ok (body, cursor) =>
        .ok (arrowNode head.generics head.parameters head.result [body], cursor)
      | .error error => .error error := by
  cases parsed : (parse (.assignment true)).read
      (FunctionKind.inside ⟨head.asynchronous, false⟩ surroundings) after with
  | error error =>
      simp [assignmentExpression, arrowInParentheses?, arrowAfter, arrowBody, opens, likely, headed,
        noBody, parsed, Token.isKeyword]
  | ok result =>
      simp [assignmentExpression, arrowInParentheses?, arrowAfter, arrowBody, opens, likely, headed,
        noBody, parsed, Token.isKeyword]

/-- The expression after the arrow may begin behind a gap. -/
theorem read_arrowFunction (depth : Nat) {surroundings : Surroundings}
    {cursor after start last : Cursor} {head : ArrowHead} {span : Span} {body : Node}
    (opens : cursor.token = ⟨.punctuator, "(", span, false, false, false⟩)
    (likely : arrowLikelihood.read surroundings cursor = .ok (.possible, cursor))
    (headed : (@arrowHead ⟨grammar (depth + 1)⟩).read surroundings cursor = .ok (head, after))
    (plain : head.asynchronous = false) (starts : after = start)
    (noBody : start.token.isPunctuator Lexer.openBrace = false)
    (parsed : (@assignmentExpression ⟨grammar depth⟩ true).read
      (FunctionKind.inside ⟨false, false⟩ surroundings) start = .ok (body, last)) :
    (@assignmentExpression ⟨grammar (depth + 1)⟩ true).read surroundings cursor =
      .ok (arrowNode head.generics head.parameters head.result [body], last) := by
  subst starts
  have whole := @read_assignment_of_arrowHead ⟨grammar (depth + 1)⟩ surroundings cursor after head
    span opens likely headed noBody
  have parsed : (@parse ⟨grammar (depth + 1)⟩ (.assignment true)).read
      (FunctionKind.inside ⟨false, false⟩ surroundings) after = .ok (body, last) :=
    parsed
  rw [plain, parsed] at whole
  exact whole

section

variable (surroundings : Surroundings) (offset lastStop : Nat) (openDefaults : List Nat)
  (rest : List Char)

theorem read_componentLikelihood : arrowLikelihood.read surroundings
    (.at ⟨offset, "(props, ref) =>".toList ++ rest⟩ lastStop openDefaults) =
      .ok (.possible, .at ⟨offset, "(props, ref) =>".toList ++ rest⟩ lastStop openDefaults) := by
  cbv

theorem read_componentHead (depth : Nat) : (@arrowHead ⟨grammar (depth + 1)⟩).read surroundings
    (.at ⟨offset, "(props, ref) =>".toList ++ rest⟩ lastStop openDefaults) =
      .ok (⟨false, [], [.mk [] (.name ⟨"props", ⟨offset + 1, offset + 6⟩⟩) none none,
          .mk [] (.name ⟨"ref", ⟨offset + 8, offset + 11⟩⟩) none none], none⟩,
        .at ⟨offset + 15, rest⟩ (offset + 15) openDefaults) := by
  rcases surroundings with ⟨⟨typescript, _, _⟩, _⟩
  cases typescript
  · cbv
  · cbv

end

/-- What is read behind the arrow of a component. -/
def componentSurroundings (surroundings : Surroundings) : Surroundings :=
  FunctionKind.inside ⟨false, false⟩ (argumentSurroundings surroundings)

section

variable (surroundings : Surroundings) (depth offset lastStop : Nat)
  {openDefaults : List Nat} {next : List Char}
  (noBody : (Cursor.at ⟨offset + 15, next⟩ (offset + 15) openDefaults).token.isPunctuator
    Lexer.openBrace = false)
include noBody

theorem read_arrow :
    (@spreadOrValue ⟨grammar (depth + 2)⟩).read surroundings
        (.at ⟨offset, "(props, ref) =>".toList ++ next⟩ lastStop openDefaults) =
      match (@assignmentExpression ⟨grammar depth⟩ true).read (componentSurroundings surroundings)
        (.at ⟨offset + 15, next⟩ (offset + 15) openDefaults) with
      | .ok (body, cursor) =>
        .ok (arrowNode [] [.mk [] (.name ⟨"props", ⟨offset + 1, offset + 6⟩⟩) none none,
          .mk [] (.name ⟨"ref", ⟨offset + 8, offset + 11⟩⟩) none none] none [body], cursor)
      | .error error => .error error := by
  have likely := read_componentLikelihood (argumentSurroundings surroundings) offset lastStop
    openDefaults next
  have headed := read_componentHead (argumentSurroundings surroundings) offset lastStop openDefaults
    next depth
  have noDots : (Cursor.at ⟨offset, "(props, ref) =>".toList ++ next⟩ lastStop
      openDefaults).token.isPunctuator "..." = false := by
    rfl
  have opens : (Cursor.at ⟨offset, "(props, ref) =>".toList ++ next⟩ lastStop
      openDefaults).token = ⟨.punctuator, "(", ⟨offset, offset + 1⟩, false, false, false⟩ := by
    rfl
  exact read_argument noDots
    (@read_assignment_of_arrowHead ⟨grammar (depth + 1)⟩ _ _ _ _ _ opens likely headed noBody)

end

/-- A call of a function of `React`. -/
def reactText (member : String) (arguments : List Char) : List Char :=
  "React".toList ++ '.' :: (member.toList ++ '(' :: arguments)

theorem at_blank_react (member : String) (arguments : List Char) (offset lastStop : Nat)
    (openDefaults : List Nat) :
    Cursor.at ⟨offset, ' ' :: reactText member arguments⟩ lastStop openDefaults =
      .at ⟨offset + 1, reactText member arguments⟩ lastStop openDefaults := by
  have ends : Lexer.EndsName ('.' :: (member.toList ++ '(' :: arguments)) :=
    ⟨'.', _, rfl, by decide, by decide⟩
  rw [reactText, Cursor.at_blank_name (by decide) ends, Cursor.at_name (by decide) ends]

section

variable [Grammar] {surroundings : Surroundings} {member : String}
  (plain : Lexer.isName member.toList = true) {offset start : Nat} (lastStop : Nat)
  {openDefaults : List Nat} {next : List Char}
  (starts : start = offset + 6 + byteLength member.toList + 1)
include plain starts

/-- The call is an expression before a closing punctuator, once its arguments are read. -/
theorem read_reactCall {arguments : List Node} {place : Nat} {closing : Char} {rest : List Char}
    (closes : closing ∈ [')', ']', '}', ',', ';'])
    (lists : ListsUpTo ")" spreadOrValue surroundings (.at ⟨start, next⟩ start openDefaults)
      arguments (.at ⟨place, ')' :: closing :: rest⟩ place openDefaults))
    (long : arguments.length ≤ surroundings.size) (some : arguments ≠ []) :
    (assignmentExpression true).read surroundings
      (.at ⟨offset, reactText member next⟩ lastStop openDefaults) =
        .ok (memberCall ⟨"React", ⟨offset, offset + byteLength "React".toList⟩⟩ arguments,
          .at ⟨place + 1, closing :: rest⟩ (place + 1) openDefaults) := by
  have filled : 1 ≤ surroundings.size :=
    Nat.le_trans (List.length_pos_iff.mpr some) long
  subst starts
  rw [reactText]
  exact read_memberCall (by decide) plain (by decide) filled rfl
    (lists.read_callArguments (Nat.le_succ_of_le long)) (closes_at closes ..)

theorem read_reactCall_error {error : SyntaxError}
    (notClosed : (Cursor.at ⟨start, next⟩ start openDefaults).token.isPunctuator ")" = false)
    (failed : spreadOrValue.read surroundings (.at ⟨start, next⟩ start openDefaults) =
      .error error) :
    (assignmentExpression true).read surroundings
      (.at ⟨offset, reactText member next⟩ lastStop openDefaults) = .error error := by
  subst starts
  rw [reactText]
  exact read_memberCall_error (by decide) plain (by decide) rfl
    (read_callArguments_error notClosed failed)

end

/-- `React.forwardRef(` with the arrow function that is called with the properties. -/
def componentText (body : List Char) : List Char :=
  reactText "forwardRef" ("(props, ref) =>".toList ++ body)

section

variable {surroundings : Surroundings} (long : 1 ≤ surroundings.size) (depth offset lastStop : Nat)
  {openDefaults : List Nat} {next : List Char}
  (noBody : (Cursor.at ⟨offset + 32, next⟩ (offset + 32) openDefaults).token.isPunctuator
    Lexer.openBrace = false)
include long noBody

theorem read_component {body : Node} {place : Nat} {closing : Char} {rest : List Char}
    (closes : closing ∈ [')', ']', '}', ',', ';'])
    (parsed : (@assignmentExpression ⟨grammar depth⟩ true).read (componentSurroundings surroundings)
      (.at ⟨offset + 32, next⟩ (offset + 32) openDefaults) =
        .ok (body, .at ⟨place, ')' :: closing :: rest⟩ place openDefaults)) : ∃ component,
    (@assignmentExpression ⟨grammar (depth + 2)⟩ true).read surroundings
      (.at ⟨offset, componentText next⟩ lastStop openDefaults) =
        .ok (component, .at ⟨place + 1, closing :: rest⟩ (place + 1) openDefaults) := by
  have arrow := read_arrow surroundings depth (offset + 17) (offset + 17) noBody
  rw [parsed] at arrow
  have lists : ListsUpTo ")" (@spreadOrValue ⟨grammar (depth + 2)⟩) surroundings
      (.at ⟨offset + 17, "(props, ref) =>".toList ++ next⟩ (offset + 17) openDefaults) [_]
      (.at ⟨place, ')' :: closing :: rest⟩ place openDefaults) :=
    .last rfl arrow rfl
  rw [componentText]
  exact ⟨_, @read_reactCall ⟨grammar (depth + 2)⟩ surroundings "forwardRef" (by decide) offset
    (offset + 17) lastStop _ _ rfl _ _ _ _ closes lists long (List.cons_ne_nil _ _)⟩

omit long in
theorem read_component_error {error : SyntaxError}
    (failed : (@assignmentExpression ⟨grammar depth⟩ true).read (componentSurroundings surroundings)
      (.at ⟨offset + 32, next⟩ (offset + 32) openDefaults) = .error error) :
    (@assignmentExpression ⟨grammar (depth + 2)⟩ true).read surroundings
      (.at ⟨offset, componentText next⟩ lastStop openDefaults) = .error error := by
  have arrow := read_arrow surroundings depth (offset + 17) (offset + 17) noBody
  rw [failed] at arrow
  rw [componentText]
  exact @read_reactCall_error ⟨grammar (depth + 2)⟩ surroundings "forwardRef" (by decide) offset
    (offset + 17) lastStop _ _ rfl _ rfl arrow

end

end IconSize.Wrapper
