import IconSize.Proofs.Syntax.LaidExpressions

/-!
Declarations, imports and exports, and statements are laid out, and so is a module as a whole.
-/

namespace IconSize.Syntax

namespace Parser

instance : Bare Span where

instance : Bare (List Identifier) where

instance : Marked Span := ⟨fun span => [.aside span]⟩

instance : Marked ModuleName := ⟨fun name => [.name name.span]⟩

@[simp] theorem marks_span (span : Span) : marks span = [.aside span] := rfl

@[simp] theorem marks_moduleName (name : ModuleName) : marks name = [.name name.span] := rfl

/-- What stands aside is laid out like a name. -/
theorem laid_aside {source : List Char} {low high : Nat} {spans : List Span} :
    Laid source low (spans.map .aside) high ↔ Laid source low (spans.map .name) high := by
  induction spans generalizing low with
  | nil => exact Iff.rfl
  | cons span spans induction => exact exists_congr fun stop => and_congr Iff.rfl induction

theorem LaysAfter.aside {α : Type} {parser : Parser α} {spans : List Span} {after : α → List Mark}
    (lays : parser.LaysAfter (spans.map .aside) after) :
    parser.LaysAfter (spans.map .name) after where
  laid stands succeeded laid := lays.laid stands succeeded (laid_aside.mpr laid)

end Parser

namespace Grammar
open IconSize.Syntax.Parser Lexer

variable [Grammar] [grammar : LaysAll]

/-! ## Declarations -/

instance : Lays declarator where
  lays := by
    unfold declarator
    repeat' first
      | with_reducible refine .skip fun _ => ?_
      | with_reducible refine .bind fun _ => ?_
      | split
      | dsimp only
    all_goals exact .pure (by simp)

instance : Lays variableStatement where
  lays := .skip fun _ => .bind fun declarators => .skip fun _ => .skip fun _ => .pure (by simp)

instance : Lays typeAliasSyntax where
  lays := by
    unfold typeAliasSyntax
    repeat' first
      | with_reducible refine .skip fun _ => ?_
      | with_reducible refine .bind fun _ => ?_
    exact .pure (by simp)

instance : Lays enumMember where
  lays := by
    unfold enumMember
    repeat' first
      | with_reducible refine .skip fun _ => ?_
      | with_reducible refine .bind fun _ => ?_
      | split
      | dsimp only
    all_goals exact .pure (by simp)

instance : Lays enumSyntax where
  lays := by
    unfold enumSyntax
    repeat' first
      | with_reducible refine .skip fun _ => ?_
      | with_reducible refine .bind fun _ => ?_
    exact .pure (by simp)

omit [Grammar] grammar in
/-- Namespaces inside each other hold what the innermost one does. -/
@[simp] theorem marks_nestedNamespaces (names : List Identifier) (body : List Node) :
    marks (names.foldr (fun name body => [.namespaceBlock (some name) body]) body) =
      marks body := by
  induction names with
  | nil => rfl
  | cons name names induction => simpa using induction

instance : Lays namespaceSyntax where
  lays := by
    unfold namespaceSyntax
    repeat' first
      | with_reducible refine .skip fun _ => ?_
      | with_reducible refine .bind fun _ => ?_
      | split
      | dsimp only
    all_goals exact .pure (by simp)

instance : Lays globalSyntax where
  lays := .skip fun _ => .bind fun body => .pure (by simp)

omit [Grammar] grammar in
instance (binder : Identifier) : Lays (importEqualsRest binder) where
  lays := by
    unfold importEqualsRest
    repeat' first
      | with_reducible refine .skip fun _ => ?_
      | with_reducible refine .bind fun _ => ?_
      | split
      | dsimp only
    all_goals exact .pure (by simp)

theorem plainDeclaration_lays (decorators : List Node) (abstracts : Bool) :
    (plainDeclaration decorators abstracts).LaysAfter (marks decorators) marks := by
  unfold plainDeclaration
  repeat' first
    | with_reducible refine .skip fun _ => ?_
    | with_reducible refine .bind fun _ => ?_
    | split
    | dsimp only
  all_goals first
    | exact .last
    | exact .fail _
    | exact classSyntax_lays _ _

theorem declaration_lays (decorators : List Node) :
    (declaration decorators).LaysAfter (marks decorators) marks :=
  .skip fun _ => .skip fun _ => .within (plainDeclaration_lays _ _)

/-! ## Imports -/

section
omit [Grammar] grammar

instance : Lays moduleSpecifier where
  lays := by
    refine .token fun token => ?_
    split
    · rename_i string
      have filled : token.kind.isFilled = true := by
        rw [show token.kind = .string by simpa using string]
        rfl
      have aside : (Pure.pure (token.text, token.span) : Parser (String × Span)).LaysAfter
          ([token.span].map .aside) marks := .pure (List.Sublist.refl _)
      exact .advance filled aside.aside
    · exact .fail _

instance : Lays moduleName where
  lays := by
    refine .token fun token => ?_
    split
    · rename_i word
      exact .advance (isFilled_of_isWord word) (.pure (List.Sublist.refl _))
    · split
      · rename_i string
        have filled : token.kind.isFilled = true := by
          rw [show token.kind = .string by simpa using string]
          rfl
        exact .failIf (.advance filled (.pure (List.Sublist.refl _)))
      · exact .fail _

/-- The name of an export stands where the token ahead does. -/
theorem moduleName_span {surroundings : Surroundings} {cursor after : Cursor} {name : ModuleName}
    (read : moduleName.read surroundings cursor = .ok (name, after)) :
    name.span = cursor.token.span := by
  rcases read_bind_eq_ok read with ⟨token, _, seen, read⟩
  cases seen
  split at read
  · cases read
    rfl
  · split at read
    · rcases read_bind_eq_ok read with ⟨_, _, _, read⟩
      cases read
      rfl
    · cases read

/-- An entry goes from its first name to the last token that was taken. -/
theorem entry_read {source : List Char} {surroundings : Surroundings} {cursor after : Cursor}
    {found : Entry} (stands : cursor.IsIn source)
    (read : entry.read surroundings cursor = .ok (found, after)) :
    found.span = ⟨cursor.token.span.start, after.lastStop⟩ ∧
      ∃ first between, moduleName.read surroundings cursor = .ok (first, between) ∧
        between.Keeps after source := by
  rcases read_bind_eq_ok read with ⟨start, _, seen, read⟩
  cases seen
  dsimp only at read
  rcases read_bind_eq_ok read with ⟨marked, _, seen, read⟩
  cases seen
  rcases read_bind_eq_ok read with ⟨typed, _, seen, read⟩
  cases seen
  rcases read_bind_eq_ok read with ⟨first, between, firstRead, read⟩
  refine ⟨?_, first, between, firstRead,
    Parser.keeps _ (moduleName.keeps stands firstRead).stands read⟩
  repeat' first
    | split at read
    | rcases read_bind_eq_ok read with ⟨_, _, seen, read⟩
  all_goals
    cases read
    cases seen
    rfl

instance : Marked ImportClause where
  marks
    | .named specifier => [.aside specifier.span]
    | _ => []

@[simp] theorem marks_defaultName (binder : Identifier) :
    marks (ImportClause.defaultName binder) = [] := rfl

@[simp] theorem marks_everything (binder : Identifier) :
    marks (ImportClause.everything binder) = [] := rfl

theorem marks_clauses (clauses : List ImportClause) (module : String) (literal : Span) :
    marks clauses =
      (ImportDeclaration.mk clauses module literal).specifiers.map (.aside ·.span) := by
  induction clauses with
  | nil => rfl
  | cons clause clauses induction =>
      rw [Marked.marks_cons, induction]
      cases clause <;> rfl

instance : Lays importSpecifier where
  lays := by
    refine ⟨fun {source low _ cursor _ _} stands read laid => ?_⟩
    rcases read_bind_eq_ok read with ⟨found, behind, entryRead, read⟩
    rcases entry_read stands entryRead with ⟨span, first, between, firstRead, kept⟩
    have later := (Parser.keeps _ kept.stands read).later
    have name := Lays.lays.laid stands firstRead laid
    rw [marks_moduleName, moduleName_span firstRead] at name
    rcases name with ⟨stop, ⟨lies, full, after, stopped⟩, le⟩
    have le : stop ≤ between.lastStop := le
    rcases read_bind_eq_ok read with ⟨_, _, _, read⟩
    cases read
    refine ⟨behind.lastStop, ?_, later⟩
    have reached := kept.later
    simp only [Mark.Stands, span, and_true]
    exact ⟨⟨by dsimp only; omega, lies.start, kept.stands.isBoundary_lastStop⟩, by omega, after⟩

instance : Marked Entry := ⟨fun entry => [.name entry.first.span]⟩

instance : Lays entry where
  lays := by
    unfold entry
    repeat' first
      | with_reducible refine .skip fun _ => ?_
      | with_reducible refine .bind fun _ => ?_
      | with_reducible refine .pureBind ?_
      | split
      | dsimp only
    all_goals exact .pure (by simp [marks])

instance : Lays importBinder where
  lays := .bind fun binder => .skip fun _ => .pure (by simp)

instance : Lays importClauses where
  lays := by
    unfold importClauses
    repeat' first
      | with_reducible refine .skip fun _ => ?_
      | with_reducible refine .bind fun _ => ?_
      | split
    · exact .pure (by simp)
    · exact .pure (by simp)

theorem importRest_lays (clauses : List ImportClause) :
    (importRest clauses).LaysAfter (marks clauses) marks := by
  refine .bind fun specifier => .skip fun _ => .skip fun _ => .pure ?_
  simp [marks_clauses clauses specifier.1 specifier.2, ImportDeclaration.pieces,
    Function.comp_def]

instance : Lays importDeclaration where
  lays := by
    unfold importDeclaration importAfterKeyword
    repeat' first
      | with_reducible refine .skip fun _ => ?_
      | with_reducible refine .bind fun _ => ?_
      | with_reducible refine .pureBind ?_
      | split
      | dsimp only
    all_goals first
      | exact .last
      | exact (importRest_lays _).mono (by simp)

/-! ## Exports -/

instance : Lays exportEntries where
  lays := .skip fun _ => .bind fun entries => .skip fun _ => .pure (by simp)

theorem marks_entries (entries : List Entry) :
    marks entries = (entries.map (·.first.span)).map .name := by
  induction entries with
  | nil => rfl
  | cons entry entries induction => exact congrArg (_ :: ·) induction

/-- Names of another module stand aside. -/
theorem marks_exported (entries : List Entry) (fromModule : Bool) :
    marks (entries.map fun entry =>
        Node.exportSpecifier ⟨entry.first, entry.second, fromModule⟩) =
      (entries.map (·.first.span)).map (bif fromModule then .aside else .name) := by
  induction entries with
  | nil => rfl
  | cons entry entries induction =>
      rw [List.map_cons, Marked.marks_cons, induction]
      cases fromModule <;> rfl

instance : Lays exportList where
  lays := by
    refine .bind fun entries => .skip fun fromModule => ?_
    have named : ([] ++ marks entries : List Mark) = (entries.map (·.first.span)).map .name :=
      marks_entries entries
    rw [named]
    cases fromModule with
    | false => exact .skip fun _ => .skip fun _ => .pure (by simp [marks_exported])
    | true =>
        refine .aside (.bind fun _ => .skip fun _ => .skip fun _ => .pure ?_)
        simp [marks_exported]

instance : Lays exportEverything where
  lays := by
    unfold exportEverything
    repeat' first
      | with_reducible refine .skip fun _ => ?_
      | with_reducible refine .bind fun _ => ?_
      | split
      | dsimp only
    all_goals exact .pure (by simp)

end

theorem defaultExport_lays (found : List Node) :
    (defaultExport found).LaysAfter (marks found) marks := by
  unfold defaultExport
  repeat' first
    | with_reducible refine .skip fun _ => ?_
    | with_reducible refine .bindOf ((classSyntax_lays _ _).mono (by simp)) fun _ => ?_
    | with_reducible refine .bind fun _ => ?_
    | with_reducible refine .pureBind ?_
    | split
    | dsimp only
  all_goals exact .pure (by simp)

theorem exportDeclaration_lays (found : List Node) :
    (exportDeclaration found).LaysAfter (marks found) marks := by
  unfold exportDeclaration
  repeat' first
    | with_reducible refine .skip fun _ => ?_
    | with_reducible refine .bindOf ((declaration_lays _).mono (by simp)) fun _ => ?_
    | with_reducible refine .bind fun _ => ?_
    | with_reducible refine .pureBind ?_
    | split
    | dsimp only
  all_goals first
    | exact defaultExport_lays _
    | exact .last
    | exact .pure (by simp)

/-! ## Statements -/

instance : Lays single := inferInstanceAs (Lays (parse (.statement true)))

instance : Lays block where
  lays := .bind fun statements => .pure (by simp)

instance : Lays condition where
  lays := .skip fun _ => .bind fun value => .skip fun _ => .pure (by simp)

instance : Lays expressionStatement where
  lays := by
    unfold expressionStatement
    repeat' first
      | with_reducible refine .skip fun _ => ?_
      | with_reducible refine .bind fun _ => ?_
      | split
      | dsimp only
    all_goals exact .pure (by simp)

theorem forLoop_lays (start : List Node) : (forLoop start).LaysAfter (marks start) marks := by
  unfold forLoop
  repeat' first
    | with_reducible refine .skip fun _ => ?_
    | with_reducible refine .bind fun _ => ?_
    | with_reducible refine .pureBind ?_
    | split
    | dsimp only
  all_goals exact .pure (by simp)

theorem forEach_lays (asynchronous : Bool) (binder : Node) :
    (forEach asynchronous binder).LaysAfter (marks binder) marks := by
  unfold forEach
  repeat' first
    | with_reducible refine .skip fun _ => ?_
    | with_reducible refine .bind fun _ => ?_
    | split
  all_goals exact .pure (by simp)

instance : Lays forStatement where
  lays := by
    unfold forStatement
    repeat' first
      | with_reducible refine .skip fun _ => ?_
      | with_reducible refine .target (toTarget?_keepsMarks.1 _) fun _ _ => ?_
      | with_reducible refine .bind fun _ => ?_
      | with_reducible refine .pureBind ?_
      | split
      | dsimp only
    all_goals first
      | exact (forEach_lays _ _).mono (by simp [*])
      | exact (forLoop_lays _).mono (by simp)

instance : Lays switchCase where
  lays := by
    unfold switchCase
    repeat' first
      | with_reducible refine .skip fun _ => ?_
      | with_reducible refine .bind fun _ => ?_
      | with_reducible refine .pureBind ?_
      | split
      | dsimp only
    all_goals exact .pure (by simp)

instance : Lays catchClause where
  lays := by
    unfold catchClause
    repeat' first
      | with_reducible refine .skip fun _ => ?_
      | with_reducible refine .bind fun _ => ?_
      | split
    all_goals exact .pure (by simp)

instance : Lays tryStatement where
  lays := by
    unfold tryStatement
    repeat' first
      | with_reducible refine .skip fun _ => ?_
      | with_reducible refine .bind fun _ => ?_
      | with_reducible refine .pureBind ?_
      | split
      | dsimp only
    all_goals exact .pure (by simp)

instance (isSingle : Bool) : Lays (letStatement isSingle) where
  lays := by
    unfold letStatement
    repeat' first
      | with_reducible refine .skip fun _ => ?_
      | split
      | dsimp only
    all_goals exact .last

instance : Lays decorated where
  lays := by
    unfold decorated
    repeat' first
      | with_reducible refine .skip fun _ => ?_
      | with_reducible refine .bind fun _ => ?_
      | split
      | dsimp only
    all_goals first
      | exact .fail _
      | exact (exportDeclaration_lays _).mono (by simp)
      | exact (declaration_lays _).mono (by simp)

theorem statement_lays (isSingle : Bool) : (statement isSingle).LaysAfter [] marks := by
  unfold statement ifStatement doStatement whileStatement jump returnStatement withStatement
    switchStatement throwStatement
  repeat' first
    | with_reducible refine .skip fun _ => ?_
    | with_reducible refine .bind fun _ => ?_
    | with_reducible refine .pureBind ?_
    | split
    | dsimp only
  all_goals first
    | exact .last
    | exact declaration_lays []
    | exact exportDeclaration_lays []
    | exact classSyntax_lays _ []
    | exact .pure (by simp)

end Grammar

/-! ## Programs -/

open IconSize.Syntax.Parser

theorem rule_lays [Grammar] [Grammar.LaysAll] :
    ∀ nonterminal, (rule nonterminal).LaysAfter [] nonterminal.marks
  | .expression => Grammar.expressionSyntax_lays
  | .assignment mayHaveResultType => Grammar.assignmentExpression_lays mayHaveResultType
  | .binary level => Grammar.binary_lays level
  | .unary => Grammar.unary_lays
  | .construction => Grammar.construction_lays
  | .leftHandSide => (inferInstance : Lays Grammar.leftHandSide).lays
  | .statement single => Grammar.statement_lays single
  | .type => Grammar.typeSyntax_lays
  | .operandType => (inferInstance : Lays Grammar.operandType).lays
  | .pattern => Grammar.pattern_lays
  | .element nested => Grammar.element_lays nested

theorem grammar_lays : ∀ depth nonterminal,
    (grammar depth nonterminal).LaysAfter [] nonterminal.marks
  | 0, _ => .fail _
  | depth + 1, nonterminal =>
    let _ : Grammar := ⟨grammar depth⟩
    have : Grammar.LaysAll := ⟨grammar_lays depth⟩
    rule_lays nonterminal

theorem moduleBody_lays (depth : Nat) : (moduleBody depth).LaysAfter [] marks :=
  .many _ (grammar_lays depth (.statement false))

/-- The marks of a program, which are those of its statements. -/
def Program.marks (program : Program) : List Mark := Marked.marks program.body

/-- Every program that is read is laid out in its source. -/
theorem Program.laid_of_parse {dialect : Dialect} {source : String} {program : Program}
    (parsed : Program.parse dialect source = .ok program) :
    Laid source.toList 0 program.marks (Text.byteLength source.toList) := by
  unfold Program.parse at parsed
  cases read : (moduleBody (8 * (source.utf8ByteSize + 1))).run dialect source with
  | error error => simp [read, Except.map] at parsed
  | ok body =>
      simp only [read, Except.map, Except.ok.injEq] at parsed
      subst parsed
      unfold Parser.run at read
      dsimp only at read
      split at read
      · rename_i after taken
        split at read
        · cases read
          have first := (Lexer.next_follows (Lexer.afterHashbang source.toList)).after_gap
            (Lexer.reaches_afterHashbang source.toList)
          have kept := (moduleBody _).keeps ⟨_, .refl _, rfl, first⟩ taken
          exact ((moduleBody_lays _).laid ⟨_, .refl _, rfl, first⟩ taken (Nat.le_refl 0)).mono_high
            kept.stands.isBoundary_lastStop.le
        · cases read
      · cases read

end IconSize.Syntax
