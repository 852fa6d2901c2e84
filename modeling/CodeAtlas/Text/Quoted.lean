import CodeAtlas.Text.Printable

/-!
# Quoted texts

A text is quoted with single quotes, or with double quotes if it holds a single quote and no double
one. The backslash, the quote itself and everything that is not printable are escaped. The rules are
stated for code points, because a literal can name the code point of a surrogate, which is no
character.
-/

namespace CodeAtlas.Text

/-- A hexadecimal digit in lower case. -/
def hexChar (n : Nat) : Char :=
  if n < 10 then Char.ofNat ('0'.toNat + n) else Char.ofNat ('a'.toNat + n - 10)

/-- The last `width` hexadecimal digits of a number. -/
def hexText : Nat → Nat → List Char
  | 0, _ => []
  | width + 1, n => hexText width (n / 16) ++ [hexChar (n % 16)]

/-- The escape of a code point by its number, as short as possible. -/
def codeEscape (code : Nat) : List Char :=
  if code < 0x100 then '\\' :: 'x' :: hexText 2 code
  else if code < 0x10000 then '\\' :: 'u' :: hexText 4 code
  else '\\' :: 'U' :: hexText 8 code

/-- The escape of a code point that is not shown as it is. -/
def escapeCode (code : Nat) : List Char :=
  if code = '\\'.toNat then ['\\', '\\']
  else if code = '\n'.toNat then ['\\', 'n']
  else if code = '\r'.toNat then ['\\', 'r']
  else if code = '\t'.toNat then ['\\', 't']
  else codeEscape code

/-- The quote that a text is written with. -/
def quoteFor (codes : List Nat) : Char :=
  if codes.contains '\''.toNat && !codes.contains '"'.toNat then '"' else '\''

/-- A code point inside a quoted text. -/
def quotedCode (quote : Char) (code : Nat) : List Char :=
  if code = quote.toNat then ['\\', quote]
  else if code = '\\'.toNat || !isPrintable code then escapeCode code
  else [Char.ofNat code]

/-- Code points between quotes. -/
def quotedCodes (codes : List Nat) : List Char :=
  let q := quoteFor codes
  q :: codes.flatMap (quotedCode q) ++ [q]

/-- A text between quotes. -/
def quoted (cs : List Char) : List Char :=
  quotedCodes (cs.map Char.toNat)

end CodeAtlas.Text
