import CodeAtlas.Text.Name

/-!
# Tokens of a script

A script is read as a sequence of tokens: names, keywords, numbers, string literals and operators,
with the line structure made visible by `newline`, `indent` and `dedent`. Positions count lines from
one and columns in bytes of the UTF-8 encoding from zero.
-/

namespace CodeAtlas.Script

open CodeAtlas.Text

/-- A position in a source text. -/
structure Position where
  line : Nat
  column : Nat
  deriving Repr, DecidableEq, Inhabited

/-- The part of a source text from its first character to just behind its last one. -/
structure Span where
  start : Position
  stop : Position
  deriving Repr, DecidableEq, Inhabited

/-- A string literal as it is written: the letters in front of the quotes, and the text between the
quotes with its escapes. -/
structure RawString where
  bytes : Bool
  raw : Bool
  format : Bool
  unicode : Bool
  body : List Char
  deriving Repr, DecidableEq, Inhabited

/-- A token without its position. A name has the spelling found in the text and the identifier that
it stands for. -/
inductive Lexeme where
  | name (spelling : String) (identifier : Identifier)
  | keyword (word : String)
  | number (text : List Char)
  | string (literal : RawString)
  | op (symbol : String)
  | newline
  | indent
  | dedent
  | finish
  deriving Repr, DecidableEq, Inhabited

/-- The tokens that only show the line structure. -/
def Lexeme.isLayout : Lexeme → Bool
  | .newline | .indent | .dedent | .finish => true
  | _ => false

/-- A token with the place where it stands. -/
structure Token where
  lexeme : Lexeme
  span : Span
  deriving Repr, DecidableEq, Inhabited

/-- The words that are not names. -/
def keywords : List String :=
  ["False", "None", "True", "and", "as", "assert", "async", "await", "break", "class", "continue",
    "def", "del", "elif", "else", "except", "finally", "for", "from", "global", "if", "import",
    "in", "is", "lambda", "nonlocal", "not", "or", "pass", "raise", "return", "try", "while",
    "with", "yield"]

/-- The operators of three, two and one characters; a longer one is preferred. -/
def operators : List (List Char) :=
  ["**=", "//=", "<<=", ">>=", "...",
    "!=", "%=", "&=", "**", "*=", "+=", "-=", "->", "//", "/=", ":=", "<<", "<=", "<>", "==", ">=",
    ">>", "@=", "^=", "|=",
    "%", "&", "(", ")", "*", "+", ",", "-", ".", "/", ":", ";", "<", "=", ">", "@", "[", "]", "^",
    "\x7b", "|", "\x7d", "~"].map String.toList

end CodeAtlas.Script
