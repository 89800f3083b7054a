import IconSize.Syntax.Program

/-!
The imports of a program. Only the rule for imports yields a node that is one: every other rule for
statements yields nodes of other forms, or what that rule yields. So whatever it ensures holds of
all imports of a program.
-/

namespace IconSize.Syntax

/-- If the node is an import, this holds of it. -/
def Node.ImportHas (holds : Dialect → List Char → ImportDeclaration → Prop) (dialect : Dialect)
    (source : List Char) : Node → Prop
  | .importing declaration => holds dialect source declaration
  | _ => True

namespace Parser

variable {α β σ : Type}

/-- In every dialect and source, what the parser yields has the property. -/
def Yields (parser : Parser α) (property : Dialect → List Char → α → Prop) : Prop :=
  ∀ source surroundings cursor value after, cursor.IsIn source →
    parser.read surroundings cursor = .ok (value, after) →
      property surroundings.dialect source value

namespace Yields

variable {property : Dialect → List Char → α → Prop}

theorem pure {value : α} (holds : ∀ dialect source, property dialect source value) :
    (Pure.pure value : Parser α).Yields property := by
  intro source surroundings cursor value' after _ succeeded
  cases succeeded
  exact holds surroundings.dialect source

theorem fail (fault : SyntaxFault) : (Parser.fail fault : Parser α).Yields property := by
  intro source surroundings cursor value after _ succeeded
  cases succeeded

theorem bind {first : Parser β} {next : β → Parser α}
    {middle : Dialect → List Char → β → Prop} (yields : first.Yields middle)
    (rest : ∀ value, (next value).Yields fun dialect source answer =>
      middle dialect source value → property dialect source answer) :
    (first >>= next).Yields property := by
  intro source surroundings cursor answer after stands succeeded
  change (first.bind next).read surroundings cursor = .ok (answer, after) at succeeded
  unfold Parser.bind at succeeded
  dsimp only at succeeded
  split at succeeded
  · rename_i value between taken
    exact rest value source surroundings between answer after (first.keeps stands taken).stands
      succeeded (yields source surroundings cursor value between stands taken)
  · cases succeeded

/-- What the first parser yields does not matter. -/
theorem last {first : Parser β} {next : β → Parser α}
    (rest : ∀ value, (next value).Yields property) : (first >>= next).Yields property := by
  have anything : first.Yields fun _ _ _ => True := fun _ _ _ _ _ _ _ => trivial
  refine bind anything fun value source surroundings cursor answer after stands succeeded _ => ?_
  exact rest value source surroundings cursor answer after stands succeeded

theorem within {change : Surroundings → Surroundings} {parser : Parser α}
    (yields : parser.Yields property)
    (keeps : ∀ surroundings, (change surroundings).dialect = surroundings.dialect) :
    (Parser.within change parser).Yields property := by
  intro source surroundings cursor value after stands succeeded
  rw [← keeps surroundings]
  exact yields source (change surroundings) cursor value after stands succeeded

/-- What every step keeps of the state, and what the last one makes of it. -/
theorem iterate {step : σ → Parser (σ ⊕ α)} {invariant : Dialect → List Char → σ → Prop}
    (keeps : ∀ state, (step state).Yields fun dialect source next =>
      invariant dialect source state →
        next.elim (invariant dialect source) (property dialect source)) :
    ∀ steps state, (Parser.iterate step steps state).Yields fun dialect source value =>
      invariant dialect source state → property dialect source value
  | 0, _ => fail _
  | steps + 1, state => by
      refine bind (keeps state) fun next => ?_
      cases next with
      | inl state =>
          intro source surroundings cursor value after stands succeeded holds start
          exact iterate keeps steps state source surroundings cursor value after stands succeeded
            (holds start)
      | inr value => exact pure fun dialect source holds start => holds start

theorem loop (invariant : Dialect → List Char → σ → Prop) {step : σ → Parser (σ ⊕ α)} {start : σ}
    (keeps : ∀ state, (step state).Yields fun dialect source next =>
      invariant dialect source state →
        next.elim (invariant dialect source) (property dialect source))
    (holds : ∀ dialect source, invariant dialect source start) :
    (Parser.loop start step).Yields property :=
  fun source surroundings cursor value after stands succeeded =>
    iterate keeps (surroundings.size + 2) start source surroundings cursor value after stands
      succeeded (holds surroundings.dialect source)

theorem many {test : Parser Bool} {item : Parser α} (yields : item.Yields property) :
    (Parser.many test item).Yields fun dialect source items =>
      ∀ value ∈ items, property dialect source value := by
  refine loop (fun dialect source items => ∀ value ∈ items, property dialect source value)
    (fun items => last fun more => ?_) fun _ _ _ => nofun
  split
  · refine bind yields fun value => pure fun dialect source holds found => ?_
    exact List.forall_mem_cons.mpr ⟨holds, found⟩
  · exact pure fun _ _ found value member => found value (List.mem_reverse.mp member)

/-- A source that is read from its beginning to its end has what the parser yields there. -/
theorem run {parser : Parser α} (yields : parser.Yields property) {dialect : Dialect}
    {source : String} {value : α} (succeeded : parser.run dialect source = .ok value) :
    property dialect source.toList value := by
  unfold Parser.run at succeeded
  dsimp only at succeeded
  split at succeeded
  · rename_i after taken
    split at succeeded
    · cases succeeded
      have first := (Lexer.next_follows (Lexer.afterHashbang source.toList)).after_gap
        (Lexer.reaches_afterHashbang source.toList)
      exact yields _ _ _ _ after ⟨_, .refl _, rfl, first⟩ taken
    · cases succeeded
  · cases succeeded

end Yields

end Parser

namespace Grammar
open IconSize.Syntax.Parser

variable [Grammar] {holds : Dialect → List Char → ImportDeclaration → Prop}

omit [Grammar] in
theorem importEqualsRest_yields (binder : Identifier) :
    (importEqualsRest binder).Yields (Node.ImportHas holds) := by
  unfold importEqualsRest
  repeat' first
    | with_reducible refine Yields.last fun _ => ?_
    | split
  all_goals exact Yields.pure fun _ _ => trivial

theorem plainDeclaration_yields (decorators : List Node) (abstracts : Bool) :
    (plainDeclaration decorators abstracts).Yields (Node.ImportHas holds) := by
  unfold plainDeclaration classSyntax functionSyntax functionRest variableStatement enumSyntax
    interfaceSyntax typeAliasSyntax namespaceSyntax globalSyntax
  repeat' first
    | with_reducible refine Yields.last fun _ => ?_
    | with_reducible refine Yields.within ?_ fun _ => rfl
    | split
  all_goals first
    | exact Yields.pure fun _ _ => trivial
    | exact Yields.fail _
    | exact importEqualsRest_yields _

theorem declaration_yields (decorators : List Node) :
    (declaration decorators).Yields (Node.ImportHas holds) := by
  unfold declaration
  repeat refine Yields.last fun _ => ?_
  exact Yields.within (plainDeclaration_yields _ _) fun _ => rfl

omit [Grammar] in
theorem exportList_yields : exportList.Yields (Node.ImportHas holds) := by
  unfold exportList
  repeat' first
    | with_reducible refine Yields.last fun _ => ?_
    | split
  all_goals exact Yields.pure fun _ _ => trivial

omit [Grammar] in
theorem exportEverything_yields : exportEverything.Yields (Node.ImportHas holds) := by
  unfold exportEverything
  repeat' first
    | with_reducible refine Yields.last fun _ => ?_
    | split
  all_goals exact Yields.pure fun _ _ => trivial

theorem defaultExport_yields (decorators : List Node) :
    (defaultExport decorators).Yields (Node.ImportHas holds) := by
  unfold defaultExport
  repeat' first
    | with_reducible refine Yields.last fun _ => ?_
    | split
    | dsimp only
  all_goals exact Yields.pure fun _ _ => trivial

theorem exportDeclaration_yields (decorators : List Node) :
    (exportDeclaration decorators).Yields (Node.ImportHas holds) := by
  unfold exportDeclaration
  repeat' first
    | with_reducible refine Yields.last fun _ => ?_
    | split
  all_goals first
    | exact Yields.pure fun _ _ => trivial
    | exact defaultExport_yields _
    | exact exportList_yields
    | exact exportEverything_yields

theorem forStatement_yields : forStatement.Yields (Node.ImportHas holds) := by
  unfold forStatement forLoop forEach
  repeat' first
    | with_reducible refine Yields.last fun _ => ?_
    | split
    | dsimp only
  all_goals exact Yields.pure fun _ _ => trivial

theorem statement_yields (imports : importDeclaration.Yields (Node.ImportHas holds))
    (isSingle : Bool) : (statement isSingle).Yields (Node.ImportHas holds) := by
  unfold statement letStatement decorated block expressionStatement ifStatement doStatement
    whileStatement jump returnStatement withStatement switchStatement throwStatement tryStatement
    classSyntax functionSyntax functionRest variableStatement
  repeat' first
    | with_reducible refine Yields.last fun _ => ?_
    | with_reducible refine Yields.within ?_ fun _ => rfl
    | split
    | dsimp only
  all_goals first
    | exact Yields.pure fun _ _ => trivial
    | exact Yields.fail _
    | exact forStatement_yields
    | exact declaration_yields _
    | exact exportDeclaration_yields _
    | exact imports

end Grammar

open IconSize.Syntax.Parser

variable {holds : Dialect → List Char → ImportDeclaration → Prop}
  (imports : Grammar.importDeclaration.Yields (Node.ImportHas holds))
include imports

theorem moduleBody_yields (depth : Nat) : (moduleBody depth).Yields fun dialect source body =>
    ∀ node ∈ body, node.ImportHas holds dialect source := by
  refine Yields.many ?_
  cases depth with
  | zero => exact Yields.fail _
  | succ depth => exact @Grammar.statement_yields ⟨grammar depth⟩ holds imports false

/-- What the rule for imports ensures holds of all imports of a program. -/
theorem Program.import_has {dialect : Dialect} {source : String} {program : Program}
    (parsed : Program.parse dialect source = .ok program) {declaration : ImportDeclaration}
    (member : .importing declaration ∈ program.body) :
    holds dialect source.toList declaration := by
  unfold Program.parse at parsed
  cases read : (moduleBody (8 * (source.utf8ByteSize + 1))).run dialect source with
  | error error => simp [read, Except.map] at parsed
  | ok body =>
      simp only [read, Except.map, Except.ok.injEq] at parsed
      subst parsed
      exact (moduleBody_yields imports _).run read _ member

end IconSize.Syntax
