import IconSize.Proofs.Syntax.LaidTypes
import IconSize.Proofs.Syntax.OpeningTags

/-!
Expressions are laid out: functions and classes, markup, and operators. What turns out to be the
target of an assignment keeps the names that it had as an expression.
-/

namespace IconSize.Syntax

namespace Parser

instance : Bare Grammar.Likelihood where

end Parser

namespace Grammar

/-! ## Targets -/

/-- What comes out of a conversion that succeeds has the same marks. -/
def KeepsMarks {α : Type} [Marked α] (value : α) (converted : Option α) : Prop :=
  ∀ target, converted = some target → marks target = marks value

/-- A simple target is the expression itself. -/
theorem toSimpleTarget?_keepsMarks (node : Node) : KeepsMarks node node.toSimpleTarget? := by
  intro target converted
  fun_induction Node.toSimpleTarget? node <;> grind [Marked.marks_parenthesized]

theorem toTarget?_keepsMarks :
    (∀ node : Node, KeepsMarks node node.toTarget?) ∧
    (∀ comma members, KeepsMarks members (Node.toMembers? comma members)) ∧
    ∀ comma elements, KeepsMarks elements (Node.toElements? comma elements) := by
  apply Node.toTarget?.mutual_induct_unfolding
  case case3 =>
    exact fun node _ _ => toSimpleTarget?_keepsMarks node
  all_goals
    intros
    simp_all only [KeepsMarks, Node.toMembers?, Node.toElements?, Option.bind_eq_bind,
      Option.bind_eq_some_iff, Option.map_eq_some_iff, Option.pure_def, Option.some.injEq,
      reduceIte, reduceCtorEq, false_implies, implies_true, Bool.false_eq_true] <;>
    grind [Marked.marks_cons, Marked.marks_nil, Marked.marks_group, Marked.marks_property,
      Marked.marks_shorthand, Marked.marks_shorthandDefault, Marked.marks_targetShorthand,
      toSimpleTarget?_keepsMarks, KeepsMarks]

end Grammar

theorem Parser.LaysAfter.target {convert : Node → Option Node} {node : Node} {β : Type}
    {next : Node → Parser β} {before : List Mark} {answer : β → List Mark}
    (keeps : Grammar.KeepsMarks node (convert node))
    (rest : ∀ target, marks target = marks node → (next target).LaysAfter before answer) :
    (Grammar.target convert node >>= next).LaysAfter before answer where
  laid stands succeeded laid := by
    rcases read_bind_eq_ok succeeded with ⟨found, between, converted, reading⟩
    unfold Grammar.target at converted
    split at converted
    · rename_i same
      rcases read_bind_eq_ok converted with ⟨_, changed, moved, taken⟩
      cases taken
      have place := Parser.keeps _ stands moved
      exact (rest found (keeps found same)).laid place.stands reading (laid.mono_high place.later)
    · cases converted

namespace Grammar
open IconSize.Syntax.Parser Lexer

/-! ## Functions -/

instance : Marked ArrowHead :=
  ⟨fun head => marks head.generics ++ marks head.parameters ++ marks head.result⟩

@[simp] theorem marks_arrowNode (generics : List Node) (parameters : List Parameter)
    (result : Option Node) (body : List Node) : marks (arrowNode generics parameters result body) =
      marks generics ++ marks parameters ++ marks result ++ marks body := by
  simp [arrowNode]

@[simp] theorem marks_arrowHead (head : ArrowHead) :
    marks head = marks head.generics ++ marks head.parameters ++ marks head.result := rfl

variable [Grammar] [grammar : LaysAll]

instance : Lays statementsInBraces where
  lays := .skip fun _ => .bind fun statements => .skip fun _ => .pure (by simp)

instance : Lays functionBody := inferInstanceAs (Lays (within _ statementsInBraces))

instance (kind : FunctionKind) (role : FunctionRole) (name : Option Identifier)
    (place : ParameterPlace) : Lays (functionRest kind role name place) where
  lays := by
    refine .within ?_
    repeat' first
      | with_reducible refine .skip fun _ => ?_
      | with_reducible refine .bind fun _ => ?_
      | split
    all_goals exact .pure (by simp)

instance (kind : FunctionKind) (place : ParameterPlace) : Lays (method kind place) :=
  inferInstanceAs (Lays (functionRest kind .expression none place))

instance (getter : Bool) (place : ParameterPlace) : Lays (accessor getter place) where
  lays := .bind fun function => .skip fun _ => .pure (by simp)

instance (role : FunctionRole) (named : Bool) : Lays (functionSyntax role named) where
  lays := by
    unfold functionSyntax
    repeat' first
      | with_reducible refine .skip fun _ => ?_
      | split
      | dsimp only
    all_goals exact .last

instance (asynchronous mayHaveResultType : Bool) :
    Lays (arrowBody asynchronous mayHaveResultType) where
  lays := by
    refine .within (.skip fun _ => ?_)
    split
    · exact .last
    · exact .bind fun value => .pure (by simp)

instance : Lays arrowHead where
  lays := by
    refine .skip fun _ => .within ?_
    repeat' first
      | with_reducible refine .skip fun _ => ?_
      | with_reducible refine .bind fun _ => ?_
      | split
    exact .pure (by simp)

theorem arrowAfter_lays (head : ArrowHead) (mayHaveResultType : Bool) :
    (arrowAfter head mayHaveResultType).LaysAfter (marks head) marks :=
  .bind fun body => .pure (by simp)

instance (mayHaveResultType : Bool) : Lays (arrowInParentheses? mayHaveResultType) where
  lays := by
    refine .skip fun likelihood => ?_
    split
    · exact .pure (by simp)
    · refine .bind fun head => .bindOf ((arrowAfter_lays _ _).mono ?_) fun arrow => ?_
      · exact List.Sublist.refl _
      · exact .pure (by simp)
    · refine .unlessNone (.bindOf (.attempt Lays.lays) fun found => ?_)
      split
      · exact .pure (by simp)
      · refine .bindOf (arrowAfter_lays _ _) fun arrow => .skip fun _ => ?_
        split
        · exact .pure (by simp)
        · exact .pure (by simp)

instance (mayHaveResultType : Bool) : Lays (asyncArrow? mayHaveResultType) where
  lays := by
    unfold asyncArrow?
    repeat' first
      | with_reducible refine .skip fun _ => ?_
      | with_reducible refine .bind fun _ => ?_
      | with_reducible refine .pureBind ?_
      | split
      | dsimp only
    all_goals exact .pure (by simp)

/-! ## Classes -/

instance : Lays heritage where
  lays := by
    unfold heritage
    repeat' first
      | with_reducible refine .skip fun _ => ?_
      | with_reducible refine .bind fun _ => ?_
      | with_reducible refine .pureBind ?_
      | split
      | dsimp only
    all_goals exact .pure (by simp)

instance : Lays implemented where
  lays := .bind fun binder => .skip fun _ => .bind fun arguments => .pure (by simp)

instance : Lays classHeritage where
  lays := by
    unfold classHeritage
    repeat' first
      | with_reducible refine .skip fun _ => ?_
      | with_reducible refine .bind fun _ => ?_
      | with_reducible refine .pureBind ?_
      | split
      | dsimp only
    all_goals exact .pure (by simp)

instance : Lays staticBlock where
  lays := .skip fun _ => .within (.bind fun body => .pure (by simp))

theorem field_lays (found : List Node) (key : Key) :
    (field found key).LaysAfter (marks found ++ marks key) marks := by
  unfold field
  repeat' first
    | with_reducible refine .skip fun _ => ?_
    | with_reducible refine .bind fun _ => ?_
    | with_reducible refine .bindBy (.within ?_) fun _ => ?_
    | split
    | dsimp only
  all_goals exact .pure (by simp [marks_key])

instance : Lays classMember where
  lays := by
    unfold classMember
    repeat' first
      | with_reducible refine .skip fun _ => ?_
      | with_reducible refine .bind fun _ => ?_
      | with_reducible refine .within ?_
      | split
      | dsimp only
    all_goals first
      | exact .last
      | exact (field_lays _ _).mono (by simp)
      | exact .pure (by simp [marks_key])

instance : Lays classMembers where
  lays := by
    refine .skip fun _ => .bindBy (.within ?_) fun members => .skip fun _ => .pure (by simp)
    refine .loop (fun members : List Node => marks members.reverse) fun members => ?_
    repeat' first
      | with_reducible refine .skip fun _ => ?_
      | with_reducible refine .bind fun _ => ?_
      | split
    all_goals exact .pure (by simp)

theorem classSyntax_lays (role : ClassRole) (decorators : List Node) :
    (classSyntax role decorators).LaysAfter (marks decorators) marks := by
  unfold classSyntax
  repeat' first
    | with_reducible refine .skip fun _ => ?_
    | with_reducible refine .bind fun _ => ?_
    | split
    | dsimp only
  all_goals exact .pure (by simp)

instance : Lays interfaceSyntax where
  lays := by
    unfold interfaceSyntax
    repeat' first
      | with_reducible refine .skip fun _ => ?_
      | with_reducible refine .bind fun _ => ?_
      | with_reducible refine .pureBind ?_
      | split
      | dsimp only
    all_goals exact .pure (by simp)

/-! ## Markup -/

omit [Grammar] grammar in
instance : Lays tagName where
  lays := by
    unfold tagName
    repeat' first
      | with_reducible refine .skip fun _ => ?_
      | with_reducible refine .bind fun _ => ?_
      | split
      | dsimp only
    all_goals exact .pure (by simp)

instance (reader : Reader) : Lays (bracedExpression reader) where
  lays := .skip fun _ => .bind fun value => .skip fun _ => .pure (by simp)

instance : Lays attributeContent where
  lays := by
    unfold attributeContent
    repeat' first
      | with_reducible refine .skip fun _ => ?_
      | split
    · exact .pure (by simp)
    · exact .last
    · exact .last

instance : Lays markupAttribute where
  lays := by
    unfold markupAttribute
    repeat' first
      | with_reducible refine .skip fun _ => ?_
      | with_reducible refine .bind fun _ => ?_
      | split
      | dsimp only
    all_goals exact .pure (by simp)

instance : Lays markupChildren where
  lays := by
    refine .many _ ?_
    repeat' first
      | with_reducible refine .skip fun _ => ?_
      | with_reducible refine .bind fun _ => ?_
      | split
    all_goals first
      | exact .last
      | exact .pure (by simp)

/-- Type arguments end before their closing angle, behind which the attributes of a tag begin. -/
theorem laid_typeArguments {source : List Char} {surroundings : Surroundings}
    {cursor after : Cursor} {arguments : List Node} (stands : cursor.IsIn source)
    (read : typeArguments.read surroundings cursor = .ok (arguments, after)) :
    Laid source cursor.lastStop (marks arguments ++ [.angle after.lastStop]) after.lastStop := by
  rcases read_bind_eq_ok read with ⟨_, opened, opening, read⟩
  rcases read_bind_eq_ok read with ⟨found, listed, foundRead, read⟩
  rcases read_bind_eq_ok read with ⟨_, angle, passed, read⟩
  rcases read_bind_eq_ok read with ⟨_, behind, closed, read⟩
  cases read
  have toList := expectAngle.keeps stands opening
  have inside : Laid source cursor.lastStop (marks arguments) listed.lastStop :=
    Lays.lays.laid toList.stands foundRead toList.later
  have toAngle := Parser.keeps _ (Parser.keeps _ toList.stands foundRead).stands passed
  rw [read_expect] at closed
  split at closed
  · rename_i isAngle
    cases closed
    have filled : angle.token.kind.isFilled = true := by
      simp only [Token.isPunctuator, Bool.and_eq_true, beq_iff_eq] at isAngle
      rw [isAngle.1]
      rfl
    rcases laid_of_isFilled toAngle.stands filled with ⟨_, ⟨lies, full, behind, rfl⟩, _⟩
    exact inside.append ⟨_, ⟨lies.stop, Nat.lt_of_le_of_lt (Nat.le_trans toAngle.later behind) full,
      rfl⟩, Nat.le_refl _⟩
  · cases closed

omit [Grammar] grammar in
/-- The beginning of an opening tag is laid out, from its name to the place for attributes. -/
theorem laid_openingTag {source : List Char} {low middle high : Nat} {tag : TagName}
    (arguments : List Node) (named : Laid source low (marks tag) middle)
    (stop : ∀ name, tag = .reference name → middle = name.span.stop)
    (rest : arguments = [] ∧ high = middle ∨
      arguments ≠ [] ∧ Laid source middle (marks arguments ++ [.angle high]) high) :
    Laid source low (tag.outline high (Node.outlineAll arguments)).marks high := by
  have inside : Laid source middle (marks arguments) high := by
    rcases rest with ⟨rfl, rfl⟩ | ⟨_, laid⟩
    · exact Nat.le_refl _
    · exact laid.sublist (List.sublist_append_left _ _)
  cases tag with
  | reference name =>
      cases arguments with
      | nil =>
          obtain rfl : high = middle := (rest.resolve_right (by simp)).2
          rcases named with ⟨_, ⟨lies, full, after, rfl⟩, _⟩
          exact ⟨_, ⟨lies, full, after, rfl, stop name rfl⟩, Nat.le_of_eq (stop name rfl).symm⟩
      | cons first others =>
          have all := named.append (rest.resolve_left (by simp)).2
          simpa [TagName.outline, Outline.marks, Node.outlineAll, Marked.marks_node] using all
  | member object =>
      have all := named.append inside
      simpa [TagName.outline, Outline.marks, Outline.marksOfAll] using all
  | intrinsic => 
      simpa [TagName.outline, Outline.marks] using inside.mono_low named.le

theorem element_lays (nested : Bool) : (element nested).LaysAfter [] marks := by
  refine .skip fun _ => .skip fun isFragment => ?_
  split
  · repeat' first
      | with_reducible refine .skip fun _ => ?_
      | with_reducible refine .bind fun _ => ?_
    exact .pure (by simp)
  refine ⟨fun {source low _ _ _ _} stands read laid => ?_⟩
  rcases read_bind_eq_ok read with ⟨⟨tag, spelling⟩, named, tagRead, read⟩
  have name := Lays.lays.laid stands tagRead laid
  rw [Marked.marks_prod, Marked.marks_string, List.append_nil] at name
  rcases read_bind_eq_ok read with ⟨_, _, typedRead, read⟩
  cases typedRead
  rcases read_bind_eq_ok read with ⟨_, _, angleRead, read⟩
  cases angleRead
  have stop (reference : Identifier) (same : tag = .reference reference) :
      named.lastStop = reference.span.stop := by
    subst same
    exact lastStop_tagName tagRead
  split at read
  -- What follows the type arguments is the same whether there are any.
  all_goals
    rcases read_bind_eq_ok read with ⟨arguments, behind, argumentsRead, read⟩
    rcases read_bind_eq_ok read with ⟨_, _, cursorRead, read⟩
    cases cursorRead
    have place := (tagName.keeps stands tagRead).stands
    have behindPlace := (Parser.keeps _ place argumentsRead).stands
    have head : Laid source low (tag.outline behind.lastStop (Node.outlineAll arguments)).marks
        behind.lastStop := by
      refine laid_openingTag arguments name stop ?_
      first
        | exact .inr ⟨(lastStop_typeArguments argumentsRead).1,
            laid_typeArguments place argumentsRead⟩
        | cases argumentsRead
          exact .inl ⟨rfl, rfl⟩
    refine LaysAfter.laid ?_ behindPlace read head
    repeat' first
      | with_reducible refine .skip fun _ => ?_
      | with_reducible refine .bind fun _ => ?_
      | split
    all_goals exact .pure (by simp)

/-! ## Values -/

omit [Grammar] grammar in
@[simp] theorem marks_literal : marks literal = [] := rfl

omit [Grammar] grammar in
@[simp] theorem marks_callHead (node : Node) : marks (callHead node) = marks node := by
  unfold callHead
  split <;> simp

instance (tagged : Bool) : Lays (substitutions tagged) where
  lays := by
    refine .loop (fun values : List Node => marks values.reverse) fun values => ?_
    repeat' first
      | with_reducible refine .skip fun _ => ?_
      | with_reducible refine .bind fun _ => ?_
      | split
      | dsimp only
    all_goals first
      | exact .fail _
      | exact .pure (by simp)

instance (tagged : Bool) : Lays (template tagged) where
  lays := by
    refine .skip fun part => .skip fun _ => .skip fun _ => ?_
    split
    · exact .pure (by simp)
    · exact .last

instance : Lays spreadOrValue where
  lays := by
    refine .skip fun spread => ?_
    split
    · exact .bind fun value => .pure (by simp)
    · exact .last

instance : Lays arrayLiteral where
  lays := by
    refine .skip fun _ => .bindBy (.commaListFlagged _ ?_) fun elements => ?_
    · refine .skip fun hole => ?_
      split
      · exact .pure (by simp)
      · exact .last
    · exact .skip fun _ => .pure (by simp)

instance : Lays objectMember where
  lays := by
    unfold objectMember
    repeat' first
      | with_reducible refine .skip fun _ => ?_
      | with_reducible refine .identifierOf ?_
      | with_reducible refine .bind fun _ => ?_
      | split
      | dsimp only
    all_goals first
      | exact .fail _
      | exact .pure (by simp [marks_key, Token.identifier, *])

instance : Lays objectLiteral where
  lays := .skip fun _ => .bind fun members => .skip fun _ => .pure (by simp)

/-! ## Members and calls -/

instance : Lays typeArgumentsInExpression? where
  lays := by
    refine .attempt ?_
    repeat' first
      | with_reducible refine .skip fun _ => ?_
      | with_reducible refine .bind fun _ => ?_
      | split
    all_goals first
      | exact .fail _
      | exact .pure (by simp)

instance : Lays callArguments where
  lays := .skip fun _ => .bind fun arguments => .skip fun _ => .pure (by simp)

instance : Lays bracketed where
  lays := .skip fun _ => .bind fun index => .skip fun _ => .pure (by simp)

theorem chain_lays (calls : Bool) (start : Node) :
    (chain calls start).LaysAfter (marks start) marks := by
  refine .bindOf (.mono (.loop (marks : Node × Bool → List Mark) ?step) ?_) fun found => ?_
  case step =>
    rintro ⟨node, optional⟩
    repeat' first
      | with_reducible refine .skip fun _ => ?_
      | with_reducible refine .bind fun _ => ?_
      | split
      | dsimp only
    all_goals exact .pure (by simp)
  · simp
  · dsimp only
    split
    · exact .pure (by simp)
    · exact .pure (by simp)

instance : Lays importExpression where
  lays := by
    unfold importExpression
    repeat' first
      | with_reducible refine .skip fun _ => ?_
      | with_reducible refine .bind fun _ => ?_
      | with_reducible refine .pureBind ?_
      | split
      | dsimp only
    all_goals exact .pure (by simp)

instance : Lays parenthesized where
  lays := .skip fun _ => .bind fun inner => .skip fun _ => .pure (by simp)

instance : Lays primary where
  lays := by
    unfold primary
    repeat' first
      | with_reducible refine .skip fun _ => ?_
      | with_reducible refine .bind fun _ => ?_
      | split
      | dsimp only
    all_goals first
      | exact .last
      | exact .fail _
      | exact (classSyntax_lays _ _).mono (by simp)
      | exact .pure (by simp)

theorem construction_lays : construction.LaysAfter [] marks := by
  unfold construction
  repeat' first
    | with_reducible refine .skip fun _ => ?_
    | with_reducible refine .bind fun _ => ?_
    | with_reducible refine .bindOf ((chain_lays _ _).mono (List.Sublist.refl _)) fun _ => ?_
    | with_reducible refine .pureBind ?_
    | split
    | dsimp only
  all_goals exact .pure (by simp)

instance : Lays leftHandSide where
  lays := .bind fun start => chain_lays true start

/-! ## Operators -/

theorem unary_lays : unary.LaysAfter [] marks := by
  unfold unary
  repeat' first
    | with_reducible refine .skip fun _ => ?_
    | with_reducible refine .target (toSimpleTarget?_keepsMarks _) fun _ _ => ?_
    | with_reducible refine .bind fun _ => ?_
    | split
    | dsimp only
  all_goals first
    | exact .last
    | exact .fail _
    | exact .pure (by simp [*])

omit [Grammar] grammar in
theorem joined_lays (level : Nat) (left right : Node) :
    (joined level left right).LaysAfter (marks left ++ marks right) marks := by
  unfold joined
  repeat' first
    | with_reducible refine .skip fun _ => ?_
    | split
  all_goals exact .pure (by simp)

theorem binary_lays (level : Nat) : (binary level).LaysAfter [] marks := by
  unfold binary
  refine .skip fun _ => .skip fun _ => ?_
  dsimp only
  have : Lays unary := ⟨unary_lays⟩
  repeat' first
    | with_reducible refine .skip fun _ => ?_
    | with_reducible refine .bindOf ((joined_lays _ _ _).mono (by simp)) fun _ => ?_
    | with_reducible refine .bind fun _ => ?_
    | with_reducible refine .pureBind ?_
    | with_reducible refine .mono (.loop marks fun left => ?_) (by simp)
    | split
    | dsimp only
  all_goals exact .pure (by simp)

/-! ## Assignments -/

instance : Lays yieldExpression where
  lays := by
    unfold yieldExpression
    repeat' first
      | with_reducible refine .skip fun _ => ?_
      | with_reducible refine .bind fun _ => ?_
      | split
    all_goals exact .pure (by simp)

theorem conditional_lays (mayHaveResultType : Bool) (condition : Node) :
    (conditional mayHaveResultType condition).LaysAfter (marks condition) marks := by
  unfold conditional
  repeat' first
    | with_reducible refine .skip fun _ => ?_
    | with_reducible refine .bind fun _ => ?_
    | split
  all_goals exact .pure (by simp)

theorem assignmentExpression_lays (mayHaveResultType : Bool) :
    (assignmentExpression mayHaveResultType).LaysAfter [] marks := by
  have : Lays (binary 0) := ⟨binary_lays 0⟩
  refine .skip fun _ => .skip fun _ => .skip fun _ => ?_
  split
  · exact .last
  refine .bind fun arrow => ?_
  cases arrow with
  | some arrow => exact .pure (by simp)
  | none =>
      refine .bind fun arrow => ?_
      cases arrow with
      | some arrow => exact .pure (by simp)
      | none =>
          dsimp only
          repeat' first
            | with_reducible refine .skip fun _ => ?_
            | with_reducible refine .target (toSimpleTarget?_keepsMarks _) fun _ _ => ?_
            | with_reducible refine .target (toTarget?_keepsMarks.1 _) fun _ _ => ?_
            | with_reducible refine .bind fun _ => ?_
            | split
            | dsimp only
          all_goals first
            | exact (conditional_lays _ _).mono (by simp)
            | exact .pure (by simp [*])

theorem expressionSyntax_lays : expressionSyntax.LaysAfter [] marks := by
  have : Lays (assignmentExpression true) := ⟨assignmentExpression_lays true⟩
  refine .bind fun parts => ?_
  split
  · exact .pure (by simp)
  · exact .pure (by simp)

end Grammar
end IconSize.Syntax
