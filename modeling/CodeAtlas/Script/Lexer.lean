import CodeAtlas.Script.Token

/-!
# Reading the tokens of a script

The lexer walks over the characters with a cursor that knows its line and column. Blocks are found
by comparing indentations, measured once with tabs to multiples of eight and once with tabs of width
one: the two must agree on which line is deeper. Inside brackets line ends are blanks. A text with a
malformed literal, an unknown character or an inconsistent indentation has no tokens.
-/

namespace CodeAtlas.Script

open CodeAtlas.Text

/-! ### The cursor -/

/-- A place in the text together with what stands behind it. -/
structure Cursor where
  position : Position
  rest : List Char

/-- The number of bytes of a character in UTF-8. -/
def byteWidth (c : Char) : Nat :=
  c.utf8Size

/-- The position behind a character that stands at `p`. -/
def Position.after (p : Position) (c : Char) : Position :=
  if c = '\n' then ⟨p.line + 1, 0⟩ else ⟨p.line, p.column + byteWidth c⟩

/-- Moves over the first `n` characters. -/
def Cursor.skip : Nat → Cursor → Cursor
  | 0, k => k
  | n + 1, k =>
    match k.rest with
    | [] => k
    | c :: cs => Cursor.skip n ⟨k.position.after c, cs⟩

/-- Line feeds for all line ends, and one at the end of the text. A carriage return and line feed at
the very end count twice. -/
def unifyLineEnds : List Char → List Char
  | [] => ['\n']
  | ['\n'] => ['\n']
  | ['\r'] => ['\n']
  | '\r' :: '\n' :: cs => '\n' :: unifyLineEnds cs
  | '\r' :: cs => '\n' :: unifyLineEnds cs
  | c :: cs => c :: unifyLineEnds cs

/-! ### Numbers -/

/-- A digit of the given base. -/
def isDigitOf (base : Nat) (c : Char) : Bool :=
  if base = 16 then
    c.isDigit || ('a' ≤ c && c ≤ 'f') || ('A' ≤ c && c ≤ 'F')
  else '0' ≤ c && c.toNat < '0'.toNat + base

/-- A character that could continue a name, well formed or not. -/
def continuesName (c : Char) : Bool :=
  c.isAlphanum || c == '_' || 128 ≤ c.toNat

/-- Digits with single underscores between them; `none` if an underscore has no digit behind it. The
digits may be absent. -/
def digitRun (base : Nat) : List Char → Option (List Char × List Char)
  | [] => some ([], [])
  | c :: cs =>
    if isDigitOf base c then (digitRun base cs).map fun (run, rest) => (c :: run, rest)
    else if c = '_' then
      match cs with
      | d :: _ => if isDigitOf base d then (digitRun base cs).map fun (run, rest) => (c :: run, rest)
        else none
      | [] => none
    else some ([], c :: cs)

/-- Whether the text starts with `word` and no name goes on behind it. -/
def startsWord (word : List Char) (cs : List Char) : Bool :=
  word.isPrefixOf cs && !((cs.drop word.length).head?.any continuesName)

/-- What may stand directly behind a number: anything that cannot continue a name, or one of the
keywords that can follow a number in an expression. -/
def numberEnds (cs : List Char) : Bool :=
  match cs with
  | [] => true
  | c :: rest =>
    if !continuesName c then true
    else
      ["and", "else", "for", "or", "not"].any (fun w => startsWord w.toList cs) ||
        (c == 'i' && rest.head?.any fun d => d == 'f' || d == 'n' || d == 's')

/-- Accepts a number if its end is well formed. -/
def endNumber (text rest : List Char) : Option (List Char × List Char) :=
  if numberEnds rest then some (text, rest) else none

/-- The optional imaginary unit at the end of a decimal number. -/
def imaginaryUnit (text : List Char) : List Char → Option (List Char × List Char)
  | 'j' :: cs => endNumber (text ++ ['j']) cs
  | 'J' :: cs => endNumber (text ++ ['J']) cs
  | cs => endNumber text cs

/-- The optional exponent and imaginary unit behind the digits of a decimal number. -/
def exponentPart (text cs : List Char) : Option (List Char × List Char) :=
  match cs with
  | e :: rest =>
    if e = 'e' ∨ e = 'E' then
      match rest with
      | s :: d :: _ =>
        if (s = '+' ∨ s = '-') then
          if d.isDigit then
            (digitRun 10 rest.tail).bind fun (run, more) => imaginaryUnit (text ++ e :: s :: run) more
          else none
        else if s.isDigit then
          (digitRun 10 rest).bind fun (run, more) => imaginaryUnit (text ++ e :: run) more
        else endNumber text cs
      | [s] =>
        if s.isDigit then imaginaryUnit (text ++ [e, s]) [] else
          if s = '+' ∨ s = '-' then none else endNumber text cs
      | [] => endNumber text cs
    else imaginaryUnit text cs
  | [] => imaginaryUnit text cs

/-- The digits behind a decimal point, which may be absent, and what follows them. -/
def fractionPart (text cs : List Char) : Option (List Char × List Char) :=
  match cs with
  | c :: _ =>
    if c.isDigit then (digitRun 10 cs).bind fun (run, rest) => exponentPart (text ++ run) rest
    else exponentPart text cs
  | [] => exponentPart text cs

/-- A number in base two, eight or sixteen behind its two-character mark. -/
def basedNumber (base : Nat) (mark cs : List Char) : Option (List Char × List Char) :=
  let (mark, body) := match cs with
    | '_' :: more => (mark ++ ['_'], more)
    | _ => (mark, cs)
  match body with
  | c :: _ =>
    if isDigitOf base c then
      (digitRun base body).bind fun (run, rest) =>
        -- A decimal digit beyond the base is part of a malformed number.
        if rest.head?.any Char.isDigit then none else endNumber (mark ++ run) rest
    else none
  | [] => none

/-- A run of digits that is an integer: zeros only, or no zero in front. -/
def isPlainInteger (run : List Char) : Bool :=
  run.head? ≠ some '0' || run.all fun c => c == '0' || c == '_'

/-- A decimal number. Zeros in front of an integer are refused, unless a letter that could start an
exponent follows. -/
def decimalNumber (cs : List Char) : Option (List Char × List Char) :=
  (digitRun 10 cs).bind fun (run, rest) =>
    match rest with
    | '.' :: more => fractionPart (run ++ ['.']) more
    | _ =>
      if rest.head?.any fun c => c == 'e' || c == 'E' || c == 'j' || c == 'J' then
        exponentPart run rest
      else if isPlainInteger run then endNumber run rest
      else none

/-- Reads a number at the start of a text that begins with a digit, or with a point and a digit. The
number is given as it is written, together with what follows it. -/
def scanNumber (cs : List Char) : Option (List Char × List Char) :=
  match cs with
  | '.' :: rest => fractionPart ['.'] rest
  | '0' :: x :: rest =>
    if x = 'x' ∨ x = 'X' then basedNumber 16 ['0', x] rest
    else if x = 'o' ∨ x = 'O' then basedNumber 8 ['0', x] rest
    else if x = 'b' ∨ x = 'B' then basedNumber 2 ['0', x] rest
    else decimalNumber cs
  | _ => decimalNumber cs

/-! ### String literals -/

/-- The letters that may stand in front of the quotes of a string literal. -/
def stringMarks (marks : List Char) : Option RawString :=
  let ms := marks.map Char.toLower
  if ms = [] then some ⟨false, false, false, false, []⟩
  else if ms = ['u'] then some ⟨false, false, false, marks == ['u'], []⟩
  else if ms = ['r'] then some ⟨false, true, false, false, []⟩
  else if ms = ['b'] then some ⟨true, false, false, false, []⟩
  else if ms = ['f'] then some ⟨false, false, true, false, []⟩
  else if ms = ['b', 'r'] ∨ ms = ['r', 'b'] then some ⟨true, true, false, false, []⟩
  else if ms = ['f', 'r'] ∨ ms = ['r', 'f'] then some ⟨false, true, true, false, []⟩
  else none

/-- The body of a string literal and the number of characters up to and with the closing quotes. A
line end closes no literal with single quotes; a backslash keeps the next character inside. -/
def scanBody (quote : Char) (triple : Bool) : List Char → Option (List Char × Nat)
  | [] => none
  | '\\' :: c :: cs => (scanBody quote triple cs).map fun (body, n) => ('\\' :: c :: body, n + 2)
  | c :: cs =>
    if c = quote then
      if triple then
        match cs with
        | q₁ :: q₂ :: _ =>
          if q₁ = quote ∧ q₂ = quote then some ([], 3)
          else (scanBody quote triple cs).map fun (body, n) => (c :: body, n + 1)
        | _ => none
      else some ([], 1)
    else if c = '\n' ∧ !triple then none
    else (scanBody quote triple cs).map fun (body, n) => (c :: body, n + 1)

/-- Reads a string literal from its opening quote: its body and its length. -/
def scanString (cs : List Char) : Option (List Char × Nat) :=
  match cs with
  | q :: q₁ :: q₂ :: rest =>
    if q₁ = q ∧ q₂ = q then (scanBody q true rest).map fun (body, n) => (body, n + 3)
    else if q₁ = q then some ([], 2)
    else (scanBody q false (q₁ :: q₂ :: rest)).map fun (body, n) => (body, n + 1)
  | [q, q₁] => if q₁ = q then some ([], 2) else none
  | _ => none

/-! ### Single tokens -/

/-- A name or keyword for a run of name characters. -/
def wordLexeme (spelling : List Char) : Option Lexeme :=
  let text := String.ofList spelling
  if keywords.contains text then some (.keyword text)
  else (Identifier.ofSpelling? spelling).map (.name text)

/-- The token at the start of a text that starts with neither a blank nor a line end, with its
length. -/
def scanLexeme (cs : List Char) : Option (Lexeme × Nat) :=
  match cs with
  | [] => none
  | c :: rest =>
    let digitNext := rest.head?.any Char.isDigit
    if c.isDigit || (c == '.' && digitNext) then
      (scanNumber cs).map fun (text, _) => (.number text, text.length)
    else if c = '\'' ∨ c = '"' then
      (scanString cs).bind fun (body, n) =>
        (stringMarks []).map fun s => (.string { s with body := body }, n)
    else if continuesName c then
      let run := cs.takeWhile continuesName
      let behind := cs.drop run.length
      let quoted := behind.head?.any fun q => q == '\'' || q == '"'
      match quoted, stringMarks run with
      | true, some s =>
        (scanString behind).map fun (body, n) => (.string { s with body := body }, run.length + n)
      | _, _ => (wordLexeme run).map fun l => (l, run.length)
    else
      (operators.find? (·.isPrefixOf cs)).map fun o => (.op (String.ofList o), o.length)

/-! ### Lines and blocks -/

/-- What the lexer knows between two tokens: where it is, the indentations of the open blocks with
the innermost first, the open brackets, and the tokens found so far in reverse. -/
structure LexState where
  cursor : Cursor
  indents : List (Nat × Nat)
  brackets : List Char
  lineStart : Bool
  tokens : List Token

/-- Adds a token of the given length. -/
def LexState.emit (s : LexState) (lexeme : Lexeme) (length : Nat) : LexState :=
  let next := s.cursor.skip length
  { s with cursor := next, tokens := ⟨lexeme, ⟨s.cursor.position, next.position⟩⟩ :: s.tokens }

/-- Indentation of a line: width with tabs to multiples of eight, width with tabs of one, the width
in front of the first line continuation, and the characters read. -/
structure Indentation where
  width : Nat := 0
  narrow : Nat := 0
  continued : Nat := 0
  length : Nat := 0

/-- Measures the indentation at the start of a text. A backslash at the end of a line joins the next
line; nothing else may follow it, and there must be a next line. -/
def measureIndentation (i : Indentation) : List Char → Option Indentation
  | ' ' :: cs =>
    measureIndentation { i with width := i.width + 1, narrow := i.narrow + 1, length := i.length + 1 } cs
  | '\t' :: cs =>
    measureIndentation
      { i with width := (i.width / 8 + 1) * 8, narrow := i.narrow + 1, length := i.length + 1 } cs
  | '\x0c' :: cs => measureIndentation { i with width := 0, narrow := 0, length := i.length + 1 } cs
  | ['\\', '\n'] => none
  | '\\' :: '\n' :: cs =>
    let first := if i.continued = 0 then i.width else i.continued
    measureIndentation { i with continued := first, length := i.length + 2 } cs
  | '\\' :: _ => none
  | _ => some i

/-- Closes blocks until the indentation fits; it must be that of an open block. -/
def closeBlocks (width narrow : Nat) : List (Nat × Nat) → LexState → Option LexState
  | [], _ => none
  | (w, n) :: outer, s =>
    if width = w then
      if narrow = n then some { s with indents := (w, n) :: outer } else none
    else if width < w then closeBlocks width narrow outer (s.emit .dedent 0)
    else none

/-- The greatest number of open blocks. -/
def maxBlocks : Nat := 100

/-- The greatest number of open brackets. -/
def maxBrackets : Nat := 200

/-- Compares the indentation of a line with the open blocks. -/
def enterLine (width narrow : Nat) (s : LexState) : Option LexState :=
  match s.indents with
  | [] => none
  | (w, n) :: _ =>
    if w < width then
      if maxBlocks ≤ s.indents.length then none
      else if narrow ≤ n then none
      else some ({ s with indents := (width, narrow) :: s.indents }.emit .indent 0)
    else closeBlocks width narrow s.indents s

/-- The end of the text: all blocks are closed, and no bracket may be open. -/
def finishLines (s : LexState) : Option LexState :=
  if s.brackets.isEmpty then (closeBlocks 0 0 s.indents s).map (·.emit .finish 0) else none

/-- The bracket that closes an opening one. -/
def closingBracket (c : Char) : Char :=
  if c = '(' then ')' else if c = '[' then ']' else '\x7d'

/-- Keeps track of the brackets when an operator was read. -/
def trackBrackets (symbol : String) (s : LexState) : Option LexState :=
  match symbol.toList with
  | [c] =>
    if c = '(' ∨ c = '[' ∨ c = '\x7b' then
      if maxBrackets ≤ s.brackets.length then none else some { s with brackets := c :: s.brackets }
    else if c = ')' ∨ c = ']' ∨ c = '\x7d' then
      match s.brackets with
      | o :: outer => if closingBracket o = c then some { s with brackets := outer } else none
      | [] => none
    else some s
  | _ => some s

/-- The number of characters up to the end of the line. -/
def commentLength (cs : List Char) : Nat :=
  (cs.takeWhile (· ≠ '\n')).length

/-- One step of the lexer; `none` in the first component once the end is reached. -/
def lexStep (s : LexState) : Option (Bool × LexState) :=
  if s.lineStart then
    (measureIndentation {} s.cursor.rest).bind fun i =>
      let s' := { s with cursor := s.cursor.skip i.length, lineStart := false }
      match s'.cursor.rest with
      | [] => (finishLines s').map (true, ·)
      | c :: cs =>
        if c = '\n' then some (false, { s' with cursor := s'.cursor.skip 1, lineStart := true })
        else if c = '#' then
          some (false, { s' with cursor := s'.cursor.skip (commentLength cs + 2), lineStart := true })
        else if s'.brackets.isEmpty then
          let width := if i.continued = 0 then i.width else i.continued
          let narrow := if i.continued = 0 then i.narrow else i.continued
          (enterLine width narrow s').map (false, ·)
        else some (false, s')
  else
    match s.cursor.rest with
    | [] => (finishLines s).map (true, ·)
    | c :: cs =>
      if c = ' ' ∨ c = '\t' ∨ c = '\x0c' then some (false, { s with cursor := s.cursor.skip 1 })
      else if c = '#' then some (false, { s with cursor := s.cursor.skip (commentLength cs + 1) })
      else if c = '\n' then
        let s' := if s.brackets.isEmpty then s.emit .newline 1 else { s with cursor := s.cursor.skip 1 }
        some (false, { s' with lineStart := true })
      else if c = '\\' then
        match cs with
        | '\n' :: _ :: _ => some (false, { s with cursor := s.cursor.skip 2 })
        | _ => none
      else
        (scanLexeme s.cursor.rest).bind fun (lexeme, length) =>
          let s' := s.emit lexeme length
          match lexeme with
          | .op symbol => (trackBrackets symbol s').map (false, ·)
          | _ => some (false, s')

/-- Runs the lexer for at most `fuel` steps. -/
def lexLoop : Nat → LexState → Option LexState
  | 0, _ => none
  | fuel + 1, s =>
    match lexStep s with
    | none => none
    | some (true, s') => some s'
    | some (false, s') => lexLoop fuel s'

/-- The tokens of a text, if it has well-formed tokens and blocks. Every step but one per line reads
a character, so twice the length of the text is enough. -/
def lex (source : List Char) : Option (List Token) :=
  if source.contains '\x00' then none
  else
    let text := unifyLineEnds source
    (lexLoop (2 * text.length + 2) ⟨⟨⟨1, 0⟩, text⟩, [(0, 0)], [], true, []⟩).map (·.tokens.reverse)

end CodeAtlas.Script
