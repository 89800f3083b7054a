import IconSize.Proofs.Syntax.ImportPlaces

/-!
The module specifiers of a source. A statement that is read as an import has a string literal of its
module at the offset that it tells.
-/

namespace IconSize.Syntax
open Text

/-- At this offset a source has a string literal of this value. -/
def HasLiteral (source : List Char) (offset : Nat) (value : String) : Prop :=
  ∃ before after, source = before ++ after ∧ byteLength before = offset ∧
    Lexer.BeginsLiteral after value

/-- The module of the import is written in the source where the import says. -/
def ImportDeclaration.IsWritten (declaration : ImportDeclaration) (source : List Char) : Prop :=
  HasLiteral source declaration.literal.start declaration.module

theorem Cursor.IsIn.hasLiteral {cursor : Cursor} {source : List Char}
    (stands : cursor.IsIn source) (string : cursor.token.kind = .string) :
    HasLiteral source cursor.token.span.start cursor.token.text := by
  rcases stands.here with ⟨before, chars, offset⟩
  have follows := stands.follows
  refine ⟨before, cursor.here.chars, chars, ?_, follows.literal string⟩
  rw [follows.span, offset, Nat.zero_add]

theorem Parser.token_yields : token.Yields fun _ source token =>
    token.kind = .string → HasLiteral source token.span.start token.text := by
  intro source surroundings cursor value after stands succeeded string
  cases succeeded
  exact stands.hasLiteral string

namespace Grammar
open IconSize.Syntax.Parser

theorem moduleSpecifier_yields : moduleSpecifier.Yields fun _ source specifier =>
    HasLiteral source specifier.2.start specifier.1 := by
  unfold moduleSpecifier
  refine Yields.bind token_yields fun token => ?_
  split
  · rename_i string
    exact Yields.last fun _ => Yields.pure fun _ _ holds => holds (by simpa using string)
  · exact Yields.fail _

theorem importRest_yields (clauses : List ImportClause) : (importRest clauses).Yields
    (Node.ImportHas fun _ source declaration => declaration.IsWritten source) := by
  unfold importRest
  refine Yields.bind moduleSpecifier_yields fun specifier => ?_
  exact Yields.last fun _ => Yields.last fun _ => Yields.pure fun _ _ written => written

theorem importDeclaration_yields : importDeclaration.Yields
    (Node.ImportHas fun _ source declaration => declaration.IsWritten source) := by
  unfold importDeclaration importAfterKeyword
  repeat' first
    | with_reducible refine Yields.last fun _ => ?_
    | split
    | dsimp only
  all_goals first
    | exact importRest_yields _
    | exact importEqualsRest_yields _

end Grammar

/-- The modules that a source imports are written where its import declarations say. -/
theorem Program.import_isWritten {dialect : Dialect} {source : String} {program : Program}
    (parsed : Program.parse dialect source = .ok program) {declaration : ImportDeclaration}
    (imports : .importing declaration ∈ program.body) : declaration.IsWritten source.toList :=
  Program.import_has Grammar.importDeclaration_yields parsed imports

end IconSize.Syntax
