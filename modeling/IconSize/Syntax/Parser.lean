import IconSize.Syntax.Dialect
import IconSize.Syntax.Reader

/-!
Parsers: what reads a part of the source. A parser sees the surroundings it stands in (which words
are keywords here, which operators are allowed) and a cursor with one token read ahead. It ends
with a value and a cursor, or with a syntax error; after an error another parser can be tried from
the cursor before it, which is how the few ambiguous forms are told apart.

A parser comes with the proof that its cursor stays in the source. The rules of the grammar are
made of the parsers below, so none of them has to prove it again.
-/

namespace IconSize.Syntax

/-- What is wrong with a source. -/
inductive SyntaxFault where
  | unexpected
  | missingInitializer
  | invalidTarget
  | mixedCoalesce
  | unaryPower
  | mismatchedTag
  | lineBreak
  | misplacedRest
  | misplacedDecorator
  | misplacedModifier
  | misplacedReceiver
  | misplacedDeclaration
  | misplacedBody
  | misplacedReturn
  | misplacedDefault
  | reservedName
  | accessorParameters
  | emptyList
  | invalidEscape
  | optionalChain
deriving DecidableEq, Repr, Inhabited

namespace SyntaxFault

def message : SyntaxFault → String
  | unexpected => "Unexpected token"
  | missingInitializer => "Missing initializer in declaration"
  | invalidTarget => "Cannot assign to this expression"
  | mixedCoalesce => "Logical expressions and coalesce expressions cannot be mixed"
  | unaryPower => "Unary operator used immediately before exponentiation expression"
  | mismatchedTag => "Expected corresponding closing tag"
  | lineBreak => "Line terminator not permitted here"
  | misplacedRest => "A rest element must be last"
  | misplacedDecorator => "Decorators are not valid here"
  | misplacedModifier => "Modifier cannot be used here"
  | misplacedReceiver => "A parameter called this must come first"
  | misplacedDeclaration => "Declaration cannot appear in a single-statement context"
  | misplacedBody => "An implementation cannot be declared in ambient contexts"
  | misplacedReturn => "Return statement is only allowed inside functions"
  | misplacedDefault => "Invalid assignment in object literal"
  | reservedName => "Identifier expected"
  | accessorParameters => "Wrong number of parameters for an accessor"
  | emptyList => "List cannot be empty"
  | invalidEscape => "Bad escape sequence in template"
  | optionalChain => "Optional chaining is not allowed here"

end SyntaxFault

/-- A fault and the byte offset at which it shows. -/
structure SyntaxError where
  offset : Nat
  fault : SyntaxFault
deriving DecidableEq, Repr, Inhabited

structure Surroundings where
  dialect : Dialect
  /-- The length of the source in bytes, which bounds every repetition. -/
  size : Nat
  /-- `in` is an operator. -/
  allowIn : Bool
  /-- `yield` is a keyword. -/
  inGenerator : Bool
  /-- `await` is a keyword. -/
  inAsync : Bool
  /-- `return` is a statement. -/
  inFunction : Bool
  /-- Bodies of functions are left out. -/
  ambient : Bool
  /-- Brackets do not belong to the expression. -/
  inDecorator : Bool
  /-- `extends` after a type begins a conditional type. -/
  allowConditional : Bool
deriving Inhabited

/-- The place of a parser: the token that it looks at, where it begins, and what comes after it. -/
structure Cursor where
  token : Token
  here : Ahead
  after : Ahead
  /-- Where the last token that was taken ends. -/
  lastStop : Nat
  /-- Where the shorthand properties with a value stand that are not yet part of a target. -/
  openDefaults : List Nat
deriving Inhabited

/-- The cursor stands in the source: the last token that was taken ends at a place of it, and the
step to the token ahead follows from there. -/
def Cursor.IsIn (cursor : Cursor) (source : List Char) : Prop :=
  ∃ taken : Ahead, Ahead.Reaches ⟨0, source⟩ taken ∧ taken.offset = cursor.lastStop ∧
    Lexer.Step.Follows ⟨cursor.token, cursor.here, cursor.after⟩ taken

/-- From the cursor a later one in the source is reached. -/
structure Cursor.Keeps (cursor after : Cursor) (source : List Char) : Prop where
  stands : after.IsIn source
  later : cursor.lastStop ≤ after.lastStop

namespace Cursor

variable {cursor between after : Cursor} {source : List Char}

theorem Keeps.refl (stands : cursor.IsIn source) : cursor.Keeps cursor source :=
  ⟨stands, Nat.le_refl _⟩

theorem Keeps.trans (first : cursor.Keeps between source) (second : between.Keeps after source) :
    cursor.Keeps after source :=
  ⟨second.stands, Nat.le_trans first.later second.later⟩

theorem IsIn.here (stands : cursor.IsIn source) : Ahead.Reaches ⟨0, source⟩ cursor.here := by
  rcases stands with ⟨taken, reached, _, follows⟩
  exact reached.trans follows.here

theorem IsIn.follows (stands : cursor.IsIn source) :
    Lexer.Step.Follows ⟨cursor.token, cursor.here, cursor.after⟩ cursor.here := by
  rcases stands with ⟨_, _, _, follows⟩
  exact { follows with here := .refl _ }

theorem IsIn.lastStop_le (stands : cursor.IsIn source) :
    cursor.lastStop ≤ cursor.here.offset := by
  rcases stands with ⟨_, _, lastStop, follows⟩
  exact lastStop ▸ follows.here.offset_le

end Cursor

/-- A parser for values of a type. It never leaves the source and never goes back. -/
structure Parser (α : Type) where
  read : Surroundings → Cursor → Except SyntaxError (α × Cursor)
  keeps : ∀ {source surroundings cursor value after}, cursor.IsIn source →
    read surroundings cursor = .ok (value, after) → cursor.Keeps after source

namespace Parser

/-- See something without taking anything. -/
@[inline] def look (see : Surroundings → Cursor → Except SyntaxError α) : Parser α where
  read surroundings cursor :=
    match see surroundings cursor with
    | .ok value => .ok (value, cursor)
    | .error error => .error error
  keeps stands seen := by
    split at seen
    · cases seen
      exact .refl stands
    · cases seen

/-- Move the cursor to another place of the source. -/
@[inline] def move (step : Cursor → Cursor)
    (keeps : ∀ {source} {cursor : Cursor}, cursor.IsIn source →
      cursor.Keeps (step cursor) source) :
    Parser Unit where
  read _ cursor := .ok ((), step cursor)
  keeps stands moved := by
    cases moved
    exact keeps stands

@[inline] protected def pure (value : α) : Parser α := look fun _ _ => .ok value

@[inline] protected def bind (first : Parser α) (next : α → Parser β) : Parser β where
  read surroundings cursor :=
    match first.read surroundings cursor with
    | .ok (value, cursor) => (next value).read surroundings cursor
    | .error error => .error error
  keeps stands succeeded := by
    split at succeeded
    · rename_i value middle taken
      have kept := first.keeps stands taken
      exact kept.trans ((next value).keeps kept.stands succeeded)
    · cases succeeded

instance : Monad Parser where
  pure := Parser.pure
  bind := Parser.bind

/-- Report a fault at the token ahead. -/
def fail (fault : SyntaxFault) : Parser α :=
  look fun _ cursor => .error ⟨cursor.token.span.start, fault⟩

instance : Inhabited (Parser α) := ⟨fail .unexpected⟩

/-- Report a fault if the condition holds. -/
def failIf (condition : Bool) (fault : SyntaxFault) : Parser Unit :=
  if condition then fail fault else return ()

def surroundings : Parser Surroundings := look fun surroundings _ => .ok surroundings

def dialect : Parser Dialect := look fun surroundings _ => .ok surroundings.dialect

def cursor : Parser Cursor := look fun _ cursor => .ok cursor

def token : Parser Token := look fun _ cursor => .ok cursor.token

/-- Read in changed surroundings. -/
@[inline] def within (change : Surroundings → Surroundings) (parser : Parser α) : Parser α where
  read surroundings cursor := parser.read (change surroundings) cursor
  keeps := parser.keeps

/-- Try a parser. If it fails, nothing is read. -/
def attempt (parser : Parser α) : Parser (Option α) where
  read surroundings cursor :=
    match parser.read surroundings cursor with
    | .ok (value, cursor) => .ok (some value, cursor)
    | .error _ => .ok (none, cursor)
  keeps stands tried := by
    split at tried
    · rename_i taken
      cases tried
      exact parser.keeps stands taken
    · cases tried
      exact .refl stands

/-- Read what may turn out not to be there. Then nothing is read. -/
def unlessNone (parser : Parser (Option α)) : Parser (Option α) where
  read surroundings cursor :=
    match parser.read surroundings cursor with
    | .ok (some value, cursor) => .ok (some value, cursor)
    | .ok (none, _) => .ok (none, cursor)
    | .error error => .error error
  keeps stands succeeded := by
    split at succeeded
    · rename_i taken
      cases succeeded
      exact parser.keeps stands taken
    · cases succeeded
      exact .refl stands
    · cases succeeded

/-- What a parser would yield here; nothing is read. -/
def foreseeOr (otherwise : α) (parser : Parser α) : Parser α :=
  look fun surroundings cursor =>
    match parser.read surroundings cursor with
    | .ok (value, _) => .ok value
    | .error _ => .ok otherwise

/-- Would a parser say yes here? A failure counts as no. -/
def foresee (parser : Parser Bool) : Parser Bool := foreseeOr false parser

/-- Take the token ahead; the reader finds the one after it. -/
def advanceBy (reader : Reader) : Parser Unit :=
  move
    (fun cursor =>
      let step := reader.lex cursor.after
      { cursor with
        token := step.token, here := step.here, after := step.after,
        lastStop := cursor.token.span.stop })
    fun {_ cursor} stands =>
      have taken := stands.follows
      have stop : cursor.after.offset = cursor.token.span.stop := by rw [taken.span]
      ⟨⟨cursor.after, stands.here.trans taken.covers, stop, reader.follows cursor.after⟩,
        stop ▸ Nat.le_trans stands.lastStop_le taken.covers.offset_le⟩

def advance : Parser Unit := advanceBy .next

/-- Read the token ahead in another way. -/
def reread (reader : Bool → Reader) : Parser Unit :=
  move
    (fun cursor =>
      let step := (reader cursor.token.onNewLine).lex cursor.here
      { cursor with token := step.token, here := step.here, after := step.after })
    fun {_ cursor} stands => by
      rcases stands with ⟨taken, reached, lastStop, follows⟩
      have step := (reader cursor.token.onNewLine).follows cursor.here
      exact ⟨⟨taken, reached, lastStop, step.after_gap follows.here⟩, Nat.le_refl _⟩

/-- Change where shorthand properties with a value stand. -/
def changeDefaults (change : List Nat → List Nat) : Parser Unit :=
  move (fun cursor => { cursor with openDefaults := change cursor.openDefaults })
    fun stands => ⟨stands, Nat.le_refl _⟩

/-- Let the word ahead go on with the hyphens and letters of the name of a tag or attribute. -/
def extendWord : Parser Unit :=
  move
    (fun cursor =>
      if cursor.token.isWord then
        let (letters, after) := Lexer.markupNameRest cursor.after
        { cursor with
          token := { cursor.token with
            text := cursor.token.text ++ String.ofList letters,
            span := ⟨cursor.token.span.start, after.offset⟩ }
          after }
      else cursor)
    fun {_ cursor} stands => by
      split
      · rename_i isWord
        rcases stands with ⟨taken, reached, lastStop, follows⟩
        have rest := Lexer.reaches_markupNameRest cursor.after
        have word : cursor.token.kind = .word := by simpa [Token.isWord] using isWord
        have start : cursor.token.span.start = cursor.here.offset := by rw [follows.span]
        refine ⟨⟨taken, reached, lastStop, follows.here, follows.covers.trans rest, ?_, ?_, ?_⟩,
          Nat.le_refl _⟩
        · dsimp only
          rw [start]
        · exact fun filled => Nat.lt_of_lt_of_le (follows.takes filled) rest.offset_le
        · exact fun string => absurd (word.symm.trans string) (by decide)
      · exact .refl stands

/-- Does the token ahead have this property? -/
def sees (test : Token → Bool) : Parser Bool := look fun _ cursor => .ok (test cursor.token)

/-- Is this punctuator ahead? -/
def at? (text : String) : Parser Bool := sees (·.isPunctuator text)

def atAny (texts : List String) : Parser Bool :=
  sees fun token => token.kind == .punctuator && texts.contains token.text

def atWord (text : String) : Parser Bool := sees (·.isKeyword text)

def atAnyWord (texts : List String) : Parser Bool :=
  sees fun token => token.kind == .word && !token.escaped && texts.contains token.text

/-- Is a token of this kind ahead? -/
def atKind (kind : TokenKind) : Parser Bool := sees (·.kind == kind)

/-- Does a line end before the token ahead? -/
def onNewLine : Parser Bool := sees (·.onNewLine)

/-- Does the parser after the token ahead say yes? Nothing is read. -/
def next (parser : Parser Bool) : Parser Bool := foresee do
  advance
  parser

/-- Take this punctuator if it is ahead. -/
def eat (text : String) : Parser Bool := do
  if ← at? text then
    advance
    return true
  else
    return false

/-- Take this keyword if it is ahead. -/
def eatWord (text : String) : Parser Bool := do
  if ← atWord text then
    advance
    return true
  else
    return false

/-- Take this punctuator, which has to be ahead. -/
def expect (text : String) : Parser Unit := do
  if ← at? text then advance else fail .unexpected

/-- Take this punctuator, which has to be ahead; the reader finds the token after it. -/
def expectBy (reader : Reader) (text : String) : Parser Unit := do
  if ← at? text then advanceBy reader else fail .unexpected

def expectWord (text : String) : Parser Unit := do
  if ← atWord text then advance else fail .unexpected

/-- The offset at which the token ahead begins. -/
def startOffset : Parser Nat := look fun _ cursor => .ok cursor.token.span.start

/-- The span from an offset to the end of the last token that was taken. -/
def spanFrom (start : Nat) : Parser Span := look fun _ cursor => .ok ⟨start, cursor.lastStop⟩

/-- Repeat a step until it yields a result. Every step takes a byte at least, so that more steps
than the given number cannot occur. -/
def iterate (step : σ → Parser (σ ⊕ α)) : Nat → σ → Parser α
  | 0, _ => fail .unexpected
  | steps + 1, state => do
    match ← step state with
    | .inl state => iterate step steps state
    | .inr value => return value

/-- Repeat a step until it yields a result. -/
def loop (start : σ) (step : σ → Parser (σ ⊕ α)) : Parser α where
  read surroundings cursor :=
    (iterate step (surroundings.size + 2) start).read surroundings cursor
  keeps := (iterate step _ start).keeps

/-- Items one after the other, for as long as the test holds. -/
def many (test : Parser Bool) (item : Parser α) : Parser (List α) :=
  loop [] fun items => do
    if ← test then return .inl ((← item) :: items)
    else return .inr items.reverse

/-- Items with commas between them up to the closing punctuator, which is not taken. The flag tells
whether a comma follows the last one. -/
def commaListFlagged (close : String) (item : Parser α) : Parser (List α × Bool) :=
  loop ([], false) fun (items, comma) => do
    if ← at? close then return .inr (items.reverse, comma)
    let first ← item
    if ← eat "," then return .inl (first :: items, true)
    else if ← at? close then return .inr ((first :: items).reverse, false)
    else fail .unexpected

/-- Items with commas between them up to the closing punctuator, which is not taken; a comma may
follow the last one. -/
def commaList (close : String) (item : Parser α) : Parser (List α) := do
  return (← commaListFlagged close item).1

/-- One item, and more after commas; no comma may follow the last one. -/
def commaSeparated (item : Parser α) : Parser (List α) := do
  let first ← item
  loop [first] fun items => do
    if ← eat "," then return .inl ((← item) :: items)
    else return .inr items.reverse

/-- May a statement end here without a semicolon? -/
def mayEnd : Parser Bool := sees fun token =>
  token.isPunctuator ";" || token.isPunctuator Lexer.closeBrace || token.kind == .endOfInput
    || token.onNewLine

/-- The end of a statement: a semicolon, or a place where it may be left out. -/
def endStatement : Parser Unit := do
  if ← eat ";" then return ()
  else if ← mayEnd then return ()
  else fail .unexpected

def typed : Parser Bool := do return (← dialect).typescript

/-- Read only in dialects with type syntax. -/
def whenTyped (fallback : α) (parser : Parser α) : Parser α := do
  if ← typed then parser else return fallback

/-! ## Names -/

/-- Is a word ahead that may be an identifier? -/
def atIdentifier : Parser Bool := sees (·.isIdentifier)

def atName : Parser Bool := sees (·.isWord)

/-- The identifier that a token is. `await` and `yield` are none where they are keywords. -/
def identifierOf (token : Token) : Parser Identifier := do
  let surroundings ← surroundings
  if !token.isIdentifier then fail .unexpected
  else if (token.text == "await" && surroundings.inAsync)
      || (token.text == "yield" && surroundings.inGenerator) then fail .reservedName
  else return token.identifier

/-- An identifier, as a binder or as a reference. -/
def identifier : Parser Identifier := do
  let identifier ← identifierOf (← token)
  advance
  return identifier

/-- Any word, as the name of a property. -/
def name : Parser Identifier := do
  let token ← token
  if token.isWord then
    advance
    return token.identifier
  else fail .unexpected

/-- Any word with the hyphens and letters that go on from it, as the name of a tag or attribute. -/
def markupName : Parser Identifier := do
  if ← atName then
    extendWord
    let name := (← token).identifier
    advance
    return name
  else fail .unexpected

def run (parser : Parser α) (dialect : Dialect) (source : String) : Except SyntaxError α :=
  let chars := source.toList
  let first := Lexer.next (Lexer.afterHashbang chars)
  let surroundings : Surroundings := {
    dialect, size := Text.byteLength chars, allowIn := true, inGenerator := false, inAsync := true,
    inFunction := false, ambient := dialect.definition, inDecorator := false,
    allowConditional := true }
  let cursor : Cursor := {
    token := first.token, here := first.here, after := first.after, lastStop := 0,
    openDefaults := [] }
  match parser.read surroundings cursor with
  | .ok (value, cursor) =>
    match cursor.openDefaults with
    | [] => .ok value
    | offset :: _ => .error ⟨offset, .misplacedDefault⟩
  | .error error => .error error

end Parser
end IconSize.Syntax
