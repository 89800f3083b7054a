import IconSize.Syntax.Escape
import IconSize.Syntax.Token
import IconSize.Text.Bytes
import IconSize.Text.Identifier

/-!
The lexer: one token from the characters that lie ahead. Which token that is depends on where the
parser stands (a slash may begin a regular expression, a closing brace may go on with a template,
text may stand between tags), so there is one function for each of these places.
-/

namespace IconSize.Syntax

/-- What lies ahead: the characters, and the byte offset of the first one. -/
structure Ahead where
  offset : Nat
  chars : List Char
deriving Inhabited

namespace Ahead
open Text

/-- What lies ahead after so many characters. -/
def skip (ahead : Ahead) (count : Nat) : Ahead :=
  ⟨ahead.offset + byteLength (ahead.chars.take count), ahead.chars.drop count⟩

/-- Does `later` lie ahead once some characters are taken? -/
def Reaches (ahead later : Ahead) : Prop :=
  ∃ taken, ahead.chars = taken ++ later.chars ∧ later.offset = ahead.offset + byteLength taken

theorem Reaches.refl (ahead : Ahead) : ahead.Reaches ahead := ⟨[], rfl, rfl⟩

theorem Reaches.trans {first second third : Ahead} (left : first.Reaches second)
    (right : second.Reaches third) : first.Reaches third := by
  rcases left with ⟨taken, chars, offset⟩
  rcases right with ⟨more, moreChars, moreOffset⟩
  refine ⟨taken ++ more, ?_, ?_⟩
  · rw [chars, moreChars, List.append_assoc]
  · rw [moreOffset, offset, byteLength_append, Nat.add_assoc]

theorem Reaches.offset_le {ahead later : Ahead} (reaches : ahead.Reaches later) :
    ahead.offset ≤ later.offset := by
  rcases reaches with ⟨taken, _, offset⟩
  exact offset ▸ Nat.le_add_right ..

theorem reaches_skip (ahead : Ahead) (count : Nat) : ahead.Reaches (ahead.skip count) :=
  ⟨ahead.chars.take count, (List.take_append_drop count ahead.chars).symm, rfl⟩

end Ahead

namespace Lexer
open Text Escape

/-! ## Blanks and comments -/

/-- Is this character a blank, other than a line end? -/
def isBlank (character : Char) : Bool :=
  character == ' ' || character == '\t' || character == '\x0b' || character == '\x0c'
    || character == '\u00a0' || character == '\ufeff' || character == '\u1680'
    || ('\u2000' ≤ character && character ≤ '\u200a') || character == '\u202f'
    || character == '\u205f' || character == '\u3000'

/-- Where a gap between tokens is being read. -/
inductive Gap where
  | between
  | lineComment
  | blockComment
deriving DecidableEq

/-- The rest after blanks and comments, and whether a line ends among them. There is no rest where
a comment is not closed. -/
def skipGap : Gap → Bool → Nat → List Char → Option (Bool × Ahead)
  | .blockComment, _, _, [] => none
  | _, newLine, offset, [] => some (newLine, ⟨offset, []⟩)
  | .between, newLine, offset, '/' :: '/' :: rest => skipGap .lineComment newLine (offset + 2) rest
  | .between, newLine, offset, '/' :: '*' :: rest => skipGap .blockComment newLine (offset + 2) rest
  | .between, newLine, offset, character :: rest =>
    if isLineEnd character then skipGap .between true (offset + character.utf8Size) rest
    else if isBlank character then skipGap .between newLine (offset + character.utf8Size) rest
    else some (newLine, ⟨offset, character :: rest⟩)
  | .lineComment, newLine, offset, character :: rest =>
    if isLineEnd character then skipGap .between true (offset + character.utf8Size) rest
    else skipGap .lineComment newLine (offset + character.utf8Size) rest
  | .blockComment, newLine, offset, '*' :: '/' :: rest => skipGap .between newLine (offset + 2) rest
  | .blockComment, newLine, offset, character :: rest =>
    skipGap .blockComment (newLine || isLineEnd character) (offset + character.utf8Size) rest

/-! ## Extents

Each function below takes the characters of a token off the front and leaves the rest. -/

/-- The letters of a word, with its escapes as they are written. The flag tells whether the braces
of an escape are open. -/
def spanWord : Bool → List Char → List Char × List Char
  | _, [] => ([], [])
  | false, '\\' :: 'u' :: '{' :: rest =>
    let (letters, after) := spanWord true rest
    ('\\' :: 'u' :: '{' :: letters, after)
  | false, character :: rest =>
    if isIdentifierPart character || character == '\\' then
      let (letters, after) := spanWord false rest
      (character :: letters, after)
    else
      ([], character :: rest)
  | true, '}' :: rest =>
    let (letters, after) := spanWord false rest
    ('}' :: letters, after)
  | true, character :: rest =>
    if (hexDigit? character).isSome then
      let (letters, after) := spanWord true rest
      (character :: letters, after)
    else
      ([], character :: rest)

/-- The characters of a string up to its quote, which is taken off too. -/
def spanString (quote : Char) : List Char → Option (List Char × List Char)
  | [] => none
  | '\\' :: '\r' :: '\n' :: rest =>
    (spanString quote rest).map fun (raw, after) => ('\\' :: '\r' :: '\n' :: raw, after)
  | '\\' :: character :: rest =>
    (spanString quote rest).map fun (raw, after) => ('\\' :: character :: raw, after)
  | character :: rest =>
    if character == quote then some ([], rest)
    else if character == '\n' || character == '\r' then none
    else (spanString quote rest).map fun (raw, after) => (character :: raw, after)

/-- The characters of a part of a template. The flag tells whether a substitution follows; the
opening or closing marks are taken off. -/
def spanTemplate : List Char → Option (List Char × Bool × List Char)
  | [] => none
  | '\\' :: character :: rest =>
    (spanTemplate rest).map fun (raw, more, after) => ('\\' :: character :: raw, more, after)
  | '$' :: '{' :: rest => some ([], true, rest)
  | '\x60' :: rest => some ([], false, rest)
  | character :: rest =>
    (spanTemplate rest).map fun (raw, more, after) => (character :: raw, more, after)

/-- The characters of a regular expression up to its closing slash, which is taken off too. The
flag tells whether a character class is open, inside which a slash closes nothing. -/
def spanRegex : Bool → List Char → Option (List Char × List Char)
  | _, [] => none
  | inClass, '\\' :: character :: rest =>
    if isLineEnd character then none
    else (spanRegex inClass rest).map fun (raw, after) => ('\\' :: character :: raw, after)
  | inClass, character :: rest =>
    if isLineEnd character then none
    else if character == '/' && !inClass then some ([], rest)
    else
      let inClass := character == '[' || (inClass && character != ']')
      (spanRegex inClass rest).map fun (raw, after) => (character :: raw, after)

/-! ## Numbers -/

/-- Digits and the underscores that separate them. -/
def spanDigits (isDigit : Char → Bool) (chars : List Char) : List Char × List Char :=
  chars.span fun character => isDigit character || character == '_'

/-- Do single underscores stand between digits only? -/
def isSeparated : List Char → Bool
  | [] => false
  | digits =>
    digits.head? != some '_' && digits.getLast? != some '_'
      && (digits.zip digits.tail).all fun pair => !(pair.1 == '_' && pair.2 == '_')

/-- The kind of a number and its characters; none where the digits are wrong. -/
def number? : List Char → Option (TokenKind × List Char × List Char)
  | '0' :: mark :: rest =>
    let radix (isDigit : Char → Bool) : Option (TokenKind × List Char × List Char) :=
      let (digits, after) := spanDigits isDigit rest
      if isSeparated digits then
        match after with
        | 'n' :: after => some (.bigint, '0' :: mark :: digits ++ ['n'], after)
        | after => some (.number, '0' :: mark :: digits, after)
      else none
    if mark == 'x' || mark == 'X' then radix fun character => (hexDigit? character).isSome
    else if mark == 'o' || mark == 'O' then radix isOctalDigit
    else if mark == 'b' || mark == 'B' then radix fun character =>
      character == '0' || character == '1'
    else if mark.isDigit then
      let (digits, after) := (mark :: rest).span Char.isDigit
      if digits.all isOctalDigit then some (.number, '0' :: digits, after)
      else decimal ('0' :: digits) after
    else if mark == '_' then none
    else decimal ['0'] (mark :: rest)
  | '.' :: rest => decimal [] ('.' :: rest)
  | chars =>
    let (digits, after) := spanDigits Char.isDigit chars
    if isSeparated digits then
      match after with
      | 'n' :: after => some (.bigint, digits ++ ['n'], after)
      | after => decimal digits after
    else none
where
  /-- Fraction and exponent after the digits of the integer part. -/
  decimal (whole : List Char) : List Char → Option (TokenKind × List Char × List Char)
    | '.' :: rest =>
      let (digits, after) := spanDigits Char.isDigit rest
      if digits.isEmpty || isSeparated digits then
        exponent (whole ++ '.' :: digits) after
      else none
    | 'n' :: rest => if whole == ['0'] then some (.bigint, ['0', 'n'], rest) else none
    | rest => exponent whole rest
  /-- The exponent, if there is one. -/
  exponent (taken : List Char) : List Char → Option (TokenKind × List Char × List Char)
    | mark :: rest =>
      if mark == 'e' || mark == 'E' then
        let (sign, rest) := rest.span fun character => character == '+' || character == '-'
        let (digits, after) := spanDigits Char.isDigit rest
        if sign.length ≤ 1 && isSeparated digits then
          some (.number, taken ++ mark :: sign ++ digits, after)
        else none
      else some (.number, taken, mark :: rest)
    | [] => some (.number, taken, [])

/-- May this character follow a number without a gap? -/
def mayFollowNumber (character : Char) : Bool :=
  !(isIdentifierStart character || character == '\\' || character.isDigit)

/-! ## Punctuators -/

def openBrace : String := "\x7b"

def closeBrace : String := "\x7d"

/-- All punctuators, none of which stands after one that begins it. What begins with `>` is not
joined here, because a list of type arguments may end with several of them. -/
def punctuators : List String :=
  ["...", "===", "!==", "**=", "<<=", "&&=", "||=", "??=",
   "=>", "==", "!=", "<=", "<<", "&&", "||", "??", "?.", "++", "--", "**", "+=", "-=", "*=", "/=",
   "%=", "&=", "|=", "^=",
   openBrace, closeBrace, "(", ")", "[", "]", ";", ",", "<", ">", "=", "+", "-", "*", "/", "%",
   "&", "|", "^", "!", "~", "?", ":", ".", "@"]

/-- The punctuators that begin with `>`, longest first. -/
def closingAngles : List String := [">>>=", ">>>", ">>=", ">>", ">=", ">"]

/-- The first of these texts that the characters begin with. -/
def firstOf (texts : List String) (chars : List Char) : Option String :=
  texts.find? fun text => text.toList.isPrefixOf chars

/-! ## Tokens -/

/-- A token together with the place where it begins and the place after it. -/
structure Step where
  token : Token
  here : Ahead
  after : Ahead
deriving Inhabited

/-- The token made of so many characters at `here`. -/
def Step.of (kind : TokenKind) (text : String) (newLine : Bool) (here : Ahead) (count : Nat) :
    Step :=
  let after := here.skip count
  ⟨⟨kind, text, ⟨here.offset, after.offset⟩, newLine, false, false⟩, here, after⟩

/-- The characters ahead form no token. -/
def Step.invalid (newLine : Bool) (here : Ahead) : Step := Step.of .invalid "" newLine here 1

/-- Is this the text of an identifier? -/
def isName : List Char → Bool
  | first :: rest => isIdentifierStart first && rest.all isIdentifierPart
  | [] => false

def word (newLine : Bool) (here : Ahead) : Step :=
  let raw := (spanWord false here.chars).1
  match nameLetters? raw.length raw with
  | some letters =>
    if isName letters then
      let step := Step.of .word (String.ofList letters) newLine here raw.length
      { step with token := { step.token with escaped := raw.contains '\\' } }
    else Step.invalid newLine here
  | none => Step.invalid newLine here

/-- The private name ahead, of which `name` holds the characters after the mark. -/
def privateName (newLine : Bool) (here : Ahead) (name : List Char) : Step :=
  let raw := (spanWord false name).1
  match nameLetters? raw.length raw with
  | some letters =>
    if isName letters then
      Step.of .privateName (String.ofList letters) newLine here (1 + raw.length)
    else Step.invalid newLine here
  | none => Step.invalid newLine here

/-- The string ahead, whose text begins after the quote. -/
def string (newLine : Bool) (here : Ahead) (quote : Char) (chars : List Char) : Step :=
  match spanString quote chars with
  | none => Step.invalid newLine here
  | some (raw, _) =>
    match stringValue? raw with
    | none => Step.invalid newLine here
    | some (value, malformed) =>
      let step := Step.of .string value newLine here (raw.length + 2)
      { step with token := { step.token with malformed } }

/-- The part of a template ahead, whose text begins after a mark of one byte. -/
def template (opening : Bool) (newLine : Bool) (here : Ahead) (chars : List Char) : Step :=
  match spanTemplate chars with
  | none => Step.invalid newLine here
  | some (raw, more, _) =>
    let kind : TokenKind := match opening, more with
      | true, true => .templateHead
      | true, false => .templateWhole
      | false, true => .templateMiddle
      | false, false => .templateTail
    let step := Step.of kind "" newLine here (raw.length + (if more then 3 else 2))
    { step with token := { step.token with malformed := !isTemplateText raw } }

def number (newLine : Bool) (here : Ahead) : Step :=
  match number? here.chars with
  | none => Step.invalid newLine here
  | some (kind, digits, rest) =>
    if rest.head?.all mayFollowNumber then
      Step.of kind (String.ofList digits) newLine here digits.length
    else Step.invalid newLine here

def punctuator (texts : List String) (newLine : Bool) (here : Ahead) : Step :=
  match firstOf texts here.chars with
  | some text => Step.of .punctuator text newLine here text.length
  | none => Step.invalid newLine here

/-- The token that the characters at `here` begin. -/
def tokenAt (newLine : Bool) (here : Ahead) : Step :=
  match here.chars with
  | [] => Step.of .endOfInput "" newLine here 0
  | '"' :: rest => string newLine here '"' rest
  | '\'' :: rest => string newLine here '\'' rest
  | '\x60' :: rest => template true newLine here rest
  | '#' :: rest => privateName newLine here rest
  | '.' :: second :: _ =>
    if second.isDigit then number newLine here else punctuator punctuators newLine here
  | '?' :: '.' :: third :: _ =>
    if third.isDigit then Step.of .punctuator "?" newLine here 1
    else punctuator punctuators newLine here
  | first :: _ =>
    if first.isDigit then number newLine here
    else if isIdentifierStart first || first == '\\' then word newLine here
    else punctuator punctuators newLine here

/-- The next token after blanks and comments. -/
def next (ahead : Ahead) : Step :=
  match skipGap .between false ahead.offset ahead.chars with
  | some (newLine, here) => tokenAt newLine here
  | none => Step.invalid false ahead

/-- Read the slash at `here` as the beginning of a regular expression. Each flag occurs once. -/
def regex (newLine : Bool) (here : Ahead) : Step :=
  match spanRegex false here.chars.tail with
  | none => Step.invalid newLine here
  | some (raw, rest) =>
    let flags := rest.takeWhile isIdentifierPart
    if flags.all ("dgimsuvy".toList.contains ·) && flags.eraseDups.length == flags.length then
      Step.of .regex "" newLine here (2 + raw.length + flags.length)
    else Step.invalid newLine here

/-- Read the closing brace at `here` as the end of a substitution. -/
def templateContinuation (newLine : Bool) (here : Ahead) : Step :=
  template false newLine here here.chars.tail

/-- Read all that begins with `>` at `here` as one punctuator. -/
def closingAngle (newLine : Bool) (here : Ahead) : Step :=
  punctuator closingAngles newLine here

/-- Read only the first angle at `here`, where two or more are written together. -/
def openingAngle (newLine : Bool) (here : Ahead) : Step := punctuator ["<"] newLine here

/-- The next token between tags: text, or the punctuator that ends it. -/
def markupChild (ahead : Ahead) : Step :=
  match ahead.chars with
  | [] => Step.of .endOfInput "" false ahead 0
  | '<' :: _ => Step.of .punctuator "<" false ahead 1
  | '{' :: _ => Step.of .punctuator openBrace false ahead 1
  | chars =>
    let text := chars.takeWhile fun character => character != '<' && character != '{'
    if text.contains '>' || text.contains '}' then Step.invalid false ahead
    else Step.of .markupText "" false ahead text.length

/-- The next token where the value of an attribute is expected: a string there has no escapes and
may go over several lines. -/
def attributeValue (ahead : Ahead) : Step :=
  match skipGap .between false ahead.offset ahead.chars with
  | none => Step.invalid false ahead
  | some (newLine, here) =>
    let quoted (quote : Char) (rest : List Char) : Step :=
      let (raw, after) := rest.span (· != quote)
      if after.isEmpty then Step.invalid newLine here
      else Step.of .attributeString "" newLine here (raw.length + 2)
    match here.chars with
    | '"' :: rest => quoted '"' rest
    | '\'' :: rest => quoted '\'' rest
    | _ => tokenAt newLine here

/-- The letters with which the name of a tag or attribute goes on after a word: these names may
hold hyphens. -/
def markupNameRest (ahead : Ahead) : List Char × Ahead :=
  let letters := ahead.chars.takeWhile fun character =>
    isIdentifierPart character || character == '-'
  (letters, ahead.skip letters.length)

/-- The source after the line that begins with `#!`, if there is one at its very beginning. -/
def afterHashbang : List Char → Ahead
  | '#' :: '!' :: rest =>
    let line := rest.takeWhile (!isLineEnd ·)
    Ahead.skip ⟨0, '#' :: '!' :: rest⟩ (2 + line.length)
  | chars => ⟨0, chars⟩

end Lexer
end IconSize.Syntax
