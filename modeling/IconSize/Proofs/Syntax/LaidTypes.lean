import IconSize.Proofs.Syntax.Laying

/-!
The rules of the grammar lay out what they yield. A rule puts its parts together in the order in
which it reads them, so each of them only has to be taken apart; the parts that a tree does not
keep, the names that are bound above all, are left out.
-/

namespace IconSize.Syntax

namespace Parser

instance : Bare Unit where

instance : Bare (List Unit) where

instance : Bare Bool where

instance : Bare Nat where

instance : Bare String where

instance : Bare (List String) where

instance : Bare Token where

instance : Bare Surroundings where

instance : Bare Dialect where

instance : Bare (Option Nat) where

instance : Bare (Option Identifier) where

instance : Bare VariableKind where

end Parser

def Nonterminal.marks : (nonterminal : Nonterminal) → nonterminal.Result → List Mark
  | .pattern, result => result.outline.marks
  | .expression, result | .assignment _, result | .binary _, result | .unary, result
  | .construction, result | .leftHandSide, result | .statement _, result | .type, result
  | .operandType, result | .element _, result => result.outline.marks

/-- The parsers of all nonterminals lay out what they yield. -/
class Grammar.LaysAll [Grammar] : Prop where
  lays : ∀ nonterminal, (Grammar.parse nonterminal).LaysAfter [] nonterminal.marks

namespace Grammar
open IconSize.Syntax.Parser Lexer

instance : Marked Key := ⟨fun key => marks key.node ++ key.word.toList.map (.name ·.span)⟩

theorem marks_key (key : Key) :
    marks key = marks key.node ++ key.word.toList.map (.name ·.span) := rfl

@[simp] theorem marks_plainKey : marks plainKey = [] := rfl

@[simp] theorem marks_keywordType : marks keywordType = [] := rfl

variable [Grammar] [grammar : LaysAll]

instance : Lays (parse .expression) := ⟨grammar.lays .expression⟩

instance (mayHaveResultType : Bool) : Lays (parse (.assignment mayHaveResultType)) :=
  ⟨grammar.lays (.assignment mayHaveResultType)⟩

instance (level : Nat) : Lays (parse (.binary level)) := ⟨grammar.lays (.binary level)⟩

instance : Lays (parse .unary) := ⟨grammar.lays .unary⟩

instance : Lays (parse .construction) := ⟨grammar.lays .construction⟩

instance : Lays (parse .leftHandSide) := ⟨grammar.lays .leftHandSide⟩

instance (single : Bool) : Lays (parse (.statement single)) := ⟨grammar.lays (.statement single)⟩

instance : Lays (parse .type) := ⟨grammar.lays .type⟩

instance : Lays (parse .operandType) := ⟨grammar.lays .operandType⟩

instance : Lays (parse .pattern) := ⟨grammar.lays .pattern⟩

instance (nested : Bool) : Lays (parse (.element nested)) := ⟨grammar.lays (.element nested)⟩

instance : Lays assignment := inferInstanceAs (Lays (parse (.assignment true)))

instance : Lays assignmentWithIn := inferInstanceAs (Lays (within _ assignment))

instance : Lays expressionWithIn := inferInstanceAs (Lays (within _ (parse .expression)))

/-! ## Keys and decorators -/


instance : Lays propertyKey where
  lays := by
    refine .token fun token => ?_
    split
    · rename_i word
      exact .advance (by rw [word]; rfl) (.pure (by simp [marks_key]))
    all_goals
      refine .of_laysAfter (.skip fun _ => ?_)
      first
        | exact .pure (by simp [marks_key])
        | exact .bind fun _ => .skip fun _ => .pure (by simp [marks_key])

instance : Lays memberKey where
  lays := by
    refine .skip fun _ => ?_
    split
    · exact .skip fun _ => .pure (by simp [marks_key])
    · exact .last

instance : Lays decorator where
  lays := .skip fun _ => .bind fun _ => .pure (by simp)

instance : Lays decorators := inferInstanceAs (Lays (many _ decorator))

/-! ## Patterns and parameters -/

instance : Lays typeAfterColon where
  lays := by
    unfold typeAfterColon
    repeat' first
      | with_reducible refine .skip fun _ => ?_
      | with_reducible refine .bind fun _ => ?_
      | split
      | dsimp only
    all_goals exact .pure (by simp)

instance : Lays patternWithDefault where
  lays := by
    refine .bind fun target => .skip fun _ => ?_
    split
    · exact .bind fun value => .pure (by simp)
    · exact .pure (by simp)

instance : Lays restPattern where
  lays := .skip fun _ => .bind fun target => .skip fun _ => .skip fun _ => .pure (by simp)

instance : Lays patternProperty where
  lays := by
    unfold patternProperty
    repeat' first
      | with_reducible refine .skip fun _ => ?_
      | with_reducible refine .identifierOf ?_
      | with_reducible refine .bind fun _ => ?_
      | split
      | dsimp only
    all_goals first
      | exact .pure (by simp [marks_key])
      | exact .fail _

theorem pattern_lays : pattern.LaysAfter [] marks := by
  refine .skip fun braces => ?_
  split
  · exact .bind fun properties => .skip fun _ => .pure (by simp)
  · refine .skip fun brackets => ?_
    split
    · refine .bindBy (.commaList _ ?_) fun elements => .skip fun _ => .pure (by simp)
      repeat' first
        | with_reducible refine .skip fun _ => ?_
        | split
      · exact .pure (by simp)
      · exact .last
      · exact .last
    · exact .bind fun _ => .pure (by simp)

instance (place : ParameterPlace) : Lays (parameter place) where
  lays := by
    unfold parameter
    repeat' first
      | with_reducible refine .skip fun _ => ?_
      | with_reducible refine .bind fun _ => ?_
      | split
    all_goals exact .pure (by simp)

instance (place : ParameterPlace) : Lays (parameterList place) where
  lays := by
    unfold parameterList
    repeat' first
      | with_reducible refine .skip fun _ => ?_
      | with_reducible refine .bind fun _ => ?_
      | with_reducible refine .pureBind ?_
      | split
      | dsimp only
    all_goals exact .pure (by simp)

/-! ## Types -/

instance : Lays typeArguments where
  lays := .skip fun _ => .bind fun arguments => .skip fun _ => .skip fun _ => .pure (by simp)

instance : Lays typeArgumentsOnLine where
  lays := by
    unfold typeArgumentsOnLine
    repeat' first
      | with_reducible refine .skip fun _ => ?_
      | split
    · exact .last
    · exact .pure (by simp)

instance : Lays typeParameter where
  lays := by
    unfold typeParameter
    repeat' first
      | with_reducible refine .skip fun _ => ?_
      | with_reducible refine .bind fun _ => ?_
      | with_reducible refine .pureBind ?_
      | split
      | dsimp only
    all_goals exact .pure (by simp)

instance : Lays typeParameters where
  lays := by
    unfold typeParameters
    repeat' first
      | with_reducible refine .skip fun _ => ?_
      | with_reducible refine .bind fun _ => ?_
      | split
    all_goals exact .pure (by simp)

instance : Lays resultType where
  lays := by
    unfold resultType
    repeat' first
      | with_reducible refine .skip fun _ => ?_
      | split
      | dsimp only
    · exact .bind fun type => .pure (by simp)
    · exact .last

instance : Lays resultAfterColon where
  lays := by
    unfold resultAfterColon
    repeat' first
      | with_reducible refine .skip fun _ => ?_
      | with_reducible refine .bind fun _ => ?_
      | split
      | dsimp only
    all_goals exact .pure (by simp)

instance : Lays functionType where
  lays := by
    unfold functionType
    repeat' first
      | with_reducible refine .skip fun _ => ?_
      | with_reducible refine .bind fun _ => ?_
      | split
    exact .pure (by simp)

theorem callSignature_lays {head : List Node} {before : List Mark}
    (part : (marks head).Sublist before) : (callSignature head).LaysAfter before marks := by
  refine .mono ?_ part
  unfold callSignature
  repeat' first
    | with_reducible refine .bind fun _ => ?_
    | split
  exact .pure (by simp)

instance : Lays indexSignature where
  lays := by
    unfold indexSignature
    repeat' first
      | with_reducible refine .skip fun _ => ?_
      | with_reducible refine .bind fun _ => ?_
    exact .pure (by simp)

instance : Lays typeMember where
  lays := by
    unfold typeMember
    repeat' first
      | with_reducible refine .skip fun _ => ?_
      | with_reducible refine .bind fun _ => ?_
      | with_reducible refine .bindOf (callSignature_lays (by simp [marks_key])) fun _ => ?_
      | split
      | dsimp only
    all_goals first
      | exact .pure (by simp [marks_key])
      | exact .last

instance : Lays typeMembers where
  lays := .skip fun _ => .bind fun members => .skip fun _ => .pure (by simp)

instance : Lays mappedType where
  lays := by
    unfold mappedType
    repeat' first
      | with_reducible refine .skip fun _ => ?_
      | with_reducible refine .bind fun _ => ?_
      | with_reducible refine .pureBind ?_
      | split
      | dsimp only
    all_goals exact .pure (by simp)

instance : Lays namedType where
  lays := by
    unfold namedType
    repeat' first
      | with_reducible refine .skip fun _ => ?_
      | with_reducible refine .bind fun _ => ?_
      | split
    all_goals exact .pure (by simp)

instance : Lays importedType where
  lays := by
    unfold importedType
    repeat' first
      | with_reducible refine .skip fun _ => ?_
      | with_reducible refine .bind fun _ => ?_
      | with_reducible refine .pureBind ?_
      | split
      | dsimp only
    all_goals exact .pure (by simp)

instance : Lays typeQuery where
  lays := by
    unfold typeQuery
    repeat' first
      | with_reducible refine .skip fun _ => ?_
      | with_reducible refine .bind fun _ => ?_
      | split
    · exact .last
    all_goals exact .pure (by simp)

instance : Lays tupleElement where
  lays := by
    unfold tupleElement
    repeat' first
      | with_reducible refine .skip fun _ => ?_
      | with_reducible refine .bind fun _ => ?_
      | split
    all_goals exact .pure (by simp)

instance : Lays templateTypes where
  lays := by
    refine .loop (fun types : List Node => marks types.reverse) fun types => ?_
    repeat' first
      | with_reducible refine .skip fun _ => ?_
      | with_reducible refine .bind fun _ => ?_
      | split
      | dsimp only
    all_goals first
      | exact .pure (by simp)
      | exact .fail _

instance : Lays singleType where
  lays := by
    unfold singleType
    repeat' first
      | with_reducible refine .skip fun _ => ?_
      | with_reducible refine .bind fun _ => ?_
      | split
      | dsimp only
    all_goals first
      | exact .last
      | exact .fail _
      | exact .pure (by simp)

instance : Lays suffixedType where
  lays := by
    refine .bind fun first => .loop marks fun type => ?_
    repeat' first
      | with_reducible refine .skip fun _ => ?_
      | with_reducible refine .bind fun _ => ?_
      | split
    all_goals exact .pure (by simp)

instance : Lays inferredType where
  lays := by
    refine .skip fun _ => .bind fun binder => .skip fun _ => ?_
    refine .bindBy (.attempt ?_) fun bound => ?_
    · exact .skip fun _ => .bind fun bound => .skip fun _ => .skip fun _ => .pure (by simp)
    · exact .pure (by simp)

instance : Lays operandType where
  lays := by
    unfold operandType
    repeat' first
      | with_reducible refine .skip fun _ => ?_
      | with_reducible refine .bind fun _ => ?_
      | split
    · exact .pure (by simp)
    · exact .last
    · exact .last

instance (operator : String) (form : Form) (operand : Parser Node) [Lays operand] :
    Lays (joinedType operator form operand) where
  lays := by
    refine .skip fun leading => .bind fun first => .skip fun _ => ?_
    split
    · exact .pure (by simp)
    · refine .bindBy (.many _ ?_) fun rest => ?_
      · exact .skip fun _ => .last
      · exact .pure (by simp)

theorem typeSyntax_lays : typeSyntax.LaysAfter [] marks := by
  unfold typeSyntax
  repeat' first
    | with_reducible refine .skip fun _ => ?_
    | with_reducible refine .bind fun _ => ?_
    | split
  · exact .last
  · exact .pure (by simp)
  · exact .pure (by simp)

end Grammar
end IconSize.Syntax
