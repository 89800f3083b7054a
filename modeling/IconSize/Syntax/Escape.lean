import IconSize.Text.CodeUnits

/-!
Escape sequences: what the characters between the quotes of a string, or the letters of a name,
stand for. A decoded string is first a list of code points, in which the escapes of two surrogates
may follow each other; together they stand for one character.
-/

namespace IconSize.Syntax.Escape
open Text

def isLineEnd (character : Char) : Bool :=
  character == '\n' || character == '\r' || character == '\u2028' || character == '\u2029'

/-- What follows `\u`: four hexadecimal digits, or any number of them in braces. -/
def codePoint? : List Char → Option (Nat × List Char)
  | '{' :: rest =>
    let digits := rest.takeWhile (· != '}')
    match rest.dropWhile (· != '}') with
    | '}' :: after =>
      if digits.isEmpty then none
      else do
        let value ← hexValue? 0 digits
        if value ≤ 0x10FFFF then some (value, after) else none
    | _ => none
  | first :: second :: third :: fourth :: rest => do
    some (← hexValue? 0 [first, second, third, fourth], rest)
  | _ => none

def isOctalDigit (character : Char) : Bool := '0' ≤ character && character ≤ '7'

/-- What follows a backslash in a string or template: the code points that it stands for, and the
rest. Templates know no octal escapes. -/
def afterBackslash? (template : Bool) : List Char → Option (List Nat × List Char)
  | '\r' :: '\n' :: rest => some ([], rest)
  | 'n' :: rest => some ([0x0A], rest)
  | 't' :: rest => some ([0x09], rest)
  | 'r' :: rest => some ([0x0D], rest)
  | 'b' :: rest => some ([0x08], rest)
  | 'v' :: rest => some ([0x0B], rest)
  | 'f' :: rest => some ([0x0C], rest)
  | 'x' :: first :: second :: rest => do some ([← hexValue? 0 [first, second]], rest)
  | 'u' :: rest => do
    let (value, after) ← codePoint? rest
    some ([value], after)
  | character :: rest =>
    if isLineEnd character then some ([], rest)
    else if character == 'x' then none
    else if template then
      if character == '0' && !(rest.head?.any Char.isDigit) then some ([0], rest)
      else if character.isDigit then none
      else some ([character.toNat], rest)
    else if isOctalDigit character then
      let width := if character ≤ '3' then 2 else 1
      let digits := character :: (rest.take width).takeWhile isOctalDigit
      some ([digits.foldl (fun value digit => 8 * value + (digit.toNat - '0'.toNat)) 0],
        rest.drop (digits.length - 1))
    else some ([character.toNat], rest)
  | [] => none

/-- The code points of the text between the quotes. Every step takes a character at least, so the
length of the text bounds the number of steps. -/
def decode? (template : Bool) : Nat → List Char → Option (List Nat)
  | _, [] => some []
  | 0, _ :: _ => none
  | steps + 1, '\\' :: rest => do
    let (values, after) ← afterBackslash? template rest
    return values ++ (← decode? template steps after)
  | steps + 1, character :: rest => do
    return character.toNat :: (← decode? template steps rest)

/-- The text of a list of code points. Where a lone surrogate occurs the list denotes no text;
then each one is written as U+FFFD and its four digits, and U+FFFD itself in the same way. -/
def textOf (codes : List Nat) : String × Bool :=
  let isLone (code : Nat) := isHighSurrogate code || isLowSurrogate code
  let malformed := codes.any isLone
  let write (code : Nat) : List Char :=
    if isLone code || (malformed && code == 0xFFFD) then '\uFFFD' :: hexDigits code
    else [Char.ofNat code]
  (String.ofList (codes.flatMap write), malformed)

/-- The value of a string literal, given the text between its quotes, and whether it fails to be
a text. No value where an escape sequence is wrong. -/
def stringValue? (raw : List Char) : Option (String × Bool) :=
  (decode? false raw.length raw).map fun codes => textOf (joinSurrogates codes)

/-- Are all escape sequences of this part of a template right? -/
def isTemplateText (raw : List Char) : Bool := (decode? true raw.length raw).isSome

/-- The letters of a name with its escapes replaced by what they stand for. -/
def nameLetters? : Nat → List Char → Option (List Char)
  | _, [] => some []
  | 0, _ :: _ => none
  | steps + 1, '\\' :: 'u' :: rest => do
    let (value, after) ← codePoint? rest
    return Char.ofNat value :: (← nameLetters? steps after)
  | steps + 1, character :: rest =>
    if character == '\\' then none
    else (nameLetters? steps rest).map (character :: ·)

example : (stringValue? "a\\u0041\\x42\\103".toList).map (·.1) = some "aABC" := by decide +kernel
example : (stringValue? "\\uD83D\\uDE00".toList) = some ("😀", false) := by decide +kernel
example : isTemplateText "\\01".toList = false := by decide +kernel

end IconSize.Syntax.Escape
