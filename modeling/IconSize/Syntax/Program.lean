import IconSize.Syntax.Grammar.Statement

/-!
The grammar as a whole, and the reading of a source.
-/

namespace IconSize.Syntax

/-- The rule for each nonterminal, over parsers for the nonterminals inside it. -/
def rule [Grammar] : (nonterminal : Nonterminal) → Parser nonterminal.Result
  | .expression => Grammar.expressionSyntax
  | .assignment mayHaveResultType => Grammar.assignmentExpression mayHaveResultType
  | .binary level => Grammar.binary level
  | .unary => Grammar.unary
  | .construction => Grammar.construction
  | .leftHandSide => Grammar.leftHandSide
  | .statement single => Grammar.statement single
  | .type => Grammar.typeSyntax
  | .operandType => Grammar.operandType
  | .pattern => Grammar.pattern
  | .element nested => Grammar.element nested

/-- The grammar for sources whose parts lie no more than so many levels inside each other. -/
def grammar : Nat → (nonterminal : Nonterminal) → Parser nonterminal.Result
  | 0, _ => Parser.fail .unexpected
  | depth + 1, nonterminal =>
    let _ : Grammar := ⟨grammar depth⟩
    rule nonterminal

def moduleBody (depth : Nat) : Parser (List Node) :=
  let _ : Grammar := ⟨grammar depth⟩
  Parser.many (do return !(← Parser.atKind .endOfInput)) (Grammar.parse (.statement false))

namespace Program

/-- Read a source. Of the levels between a nonterminal and itself at least one takes a character,
and there are fewer than eight of them, which bounds the depth by the length of the source. -/
def parse (dialect : Dialect) (source : String) : Except SyntaxError Program :=
  (Parser.run (moduleBody (8 * (source.utf8ByteSize + 1))) dialect source).map Program.mk

/-- The program that is read from a source; one without statements where there is none. -/
def ofSource (dialect : Dialect) (source : String) : Program :=
  match parse dialect source with
  | .ok program => program
  | .error _ => ⟨[]⟩

theorem parse_eq_ofSource {dialect : Dialect} {source : String}
    (reads : (parse dialect source).isOk = true) :
    parse dialect source = .ok (ofSource dialect source) := by
  unfold ofSource
  cases parsed : parse dialect source with
  | ok program => rfl
  | error error => simp [parsed, Except.isOk, Except.toBool] at reads

end Program
end IconSize.Syntax
