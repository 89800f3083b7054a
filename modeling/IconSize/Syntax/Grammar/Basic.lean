import IconSize.Syntax.Parser

/-!
What all rules of the grammar share: the nonterminals through which the rules refer to each other,
modifiers, and the keys of members.

Rules nest: an expression holds types, a type holds expressions. A rule takes the parsers of the
nonterminals inside it from the class `Grammar`; the grammar as a whole is then built level by
level, so that no rule refers to itself.
-/

namespace IconSize.Syntax

/-- The parts of the grammar that occur inside other parts. -/
inductive Nonterminal where
  | expression
  /-- An expression without a comma. Inside a conditional expression, where a colon may follow, an
  arrow function has a return type only under a further condition. -/
  | assignment (mayHaveResultType : Bool)
  /-- An expression of operators that bind more strongly than the level. -/
  | binary (level : Nat)
  /-- An operand with the operators before and after it. -/
  | unary
  | construction
  /-- What may stand on the left of an assignment: calls, members and what is inside them. -/
  | leftHandSide
  /-- A statement. After a label or the head of a loop stands a single one, which is no lexical
  declaration. -/
  | statement (single : Bool)
  | type
  /-- A type without operators between types. -/
  | operandType
  | pattern
  /-- A markup element or fragment. Inside another one, text may follow its last angle. -/
  | element (nested : Bool)
deriving DecidableEq, Repr

/-- What a nonterminal yields. -/
@[reducible] def Nonterminal.Result : Nonterminal → Type
  | .pattern => Pattern
  | _ => Node

/-- The parsers of all nonterminals, as the rules use them. -/
class Grammar where
  parse : (nonterminal : Nonterminal) → Parser nonterminal.Result

namespace Grammar
open IconSize.Syntax.Parser Lexer

variable [Grammar]

/-- An expression without a comma, in which an arrow function may have a return type. -/
def assignment : Parser Node := parse (.assignment true)

/-- An expression without a comma, in which `in` is an operator. -/
def assignmentWithIn : Parser Node :=
  within ({ · with allowIn := true, inDecorator := false }) assignment

/-- An expression in which `in` is an operator. -/
def expressionWithIn : Parser Node :=
  within ({ · with allowIn := true, inDecorator := false }) (parse .expression)

/-! ## Modifiers -/

/-- May a name follow here, so that the word before it is a modifier? -/
def mayFollowModifier : Parser Bool := sees fun token =>
  token.isPunctuator "[" || token.isPunctuator openBrace || token.isPunctuator "*"
    || token.isPunctuator "..." || token.kind == .word || token.kind == .string
    || token.kind == .number || token.kind == .bigint || token.kind == .privateName

/-- Is one of these words ahead as a modifier? All but `static` stand on one line with what they
modify. -/
def atModifier (words : List String) : Parser Bool := do
  if ← atAnyWord words then
    let static ← atWord "static"
    next do
      if static then
        if ← at? openBrace then return false
      else if ← onNewLine then return false
      mayFollowModifier
  else
    return false

/-- The modifiers ahead; none may occur twice, and only one of the three that grant access. -/
def modifiers (words : List String) : Parser (List String) := do
  let found ← many (atModifier words) do
    let word := (← token).text
    advance
    return word
  let access := found.filter ["public", "private", "protected"].contains
  failIf (found.eraseDups.length != found.length || access.length > 1) .misplacedModifier
  return found

/-- Take the word `get` or `set` if it introduces an accessor. -/
def eatAccessor (word : String) : Parser Bool := do
  if ← (do if ← atWord word then next mayFollowModifier else return false) then
    advance
    return true
  else
    return false

/-! ## Keys -/

/-- The key of a member or property. -/
structure Key where
  node : Node
  /-- The word, if the key is one. -/
  word : Option Token
  /-- The key is this string or word. -/
  text : String

/-- A key that is written out. -/
def plainKey : Node := .group .plainKey []

/-- The key of a property: a word, a string, a number, or an expression in brackets. -/
def propertyKey : Parser Key := do
  let token ← token
  match token.kind with
  | .word =>
    advance
    return ⟨plainKey, some token, token.text⟩
  | .string =>
    advance
    return ⟨plainKey, none, token.text⟩
  | .number | .bigint =>
    advance
    return ⟨plainKey, none, ""⟩
  | _ =>
    expect "["
    let key ← assignmentWithIn
    expect "]"
    return ⟨.group .computedKey [key], none, ""⟩

/-- The key of a class member, which may be private. -/
def memberKey : Parser Key := do
  if ← atKind .privateName then
    advance
    return ⟨plainKey, none, ""⟩
  else propertyKey

/-! ## Decorators -/

def decorator : Parser Node := do
  expect "@"
  let value ← within ({ · with inDecorator := true }) (parse .leftHandSide)
  return .group .decorator [value]

def decorators : Parser (List Node) := many (at? "@") decorator

end Grammar
end IconSize.Syntax
