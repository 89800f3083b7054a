import IconSize.Syntax.Tree

/-!
Tokens: what the lexer cuts the source into. Words are not divided into identifiers and keywords,
since most keywords are so only in some places; the parser decides by the text.
-/

namespace IconSize.Syntax

inductive TokenKind where
  | word
  /-- `#name` -/
  | privateName
  | punctuator
  | number
  | bigint
  | string
  /-- A string that is the value of an attribute; it has no escapes. -/
  | attributeString
  /-- A regular expression with its flags. -/
  | regex
  /-- A template without substitutions. -/
  | templateWhole
  /-- The part of a template up to its first substitution. -/
  | templateHead
  /-- The part between two substitutions. -/
  | templateMiddle
  /-- The part after the last substitution. -/
  | templateTail
  /-- Text between the tags of markup. -/
  | markupText
  /-- The end of the source. -/
  | endOfInput
  /-- Characters that form no token; nothing accepts it. -/
  | invalid
deriving DecidableEq, Repr, Inhabited

/-- A token. `text` is the decoded name of a word, the value of a string, and the characters of a
punctuator. -/
structure Token where
  kind : TokenKind
  text : String
  span : Span
  /-- A line ends between the token and the one before it. -/
  onNewLine : Bool
  /-- A word is written with escapes, so that it is no keyword. -/
  escaped : Bool
  /-- The escapes of a string or template denote no text. -/
  malformed : Bool
deriving Repr, Inhabited

namespace Token

def isPunctuator (token : Token) (text : String) : Bool :=
  token.kind == .punctuator && token.text == text

/-- Is the token this keyword, written without escapes? -/
def isKeyword (token : Token) (text : String) : Bool :=
  token.kind == .word && !token.escaped && token.text == text

def identifier (token : Token) : Identifier := ⟨token.text, token.span⟩

/-- The words that are no identifiers anywhere. -/
def reservedWords : List String :=
  ["break", "case", "catch", "class", "const", "continue", "debugger", "default", "delete", "do",
   "else", "enum", "export", "extends", "false", "finally", "for", "function", "if", "import",
   "in", "instanceof", "new", "null", "return", "super", "switch", "this", "throw", "true", "try",
   "typeof", "var", "void", "while", "with"]

/-- Is the token a word that may be an identifier? `await` and `yield` count: whether they are
identifiers depends on the function around them. -/
def isIdentifier (token : Token) : Bool :=
  token.kind == .word && !reservedWords.contains token.text

/-- Is the token a word at all? Property names and names of exports may be any word. -/
def isWord (token : Token) : Bool := token.kind == .word

end Token
end IconSize.Syntax
