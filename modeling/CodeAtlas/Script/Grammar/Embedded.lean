import CodeAtlas.Script.Grammar.Basic
import CodeAtlas.Script.Literal

/-!
# String literals with embedded expressions

A format string alternates between literal text and expressions in braces. A doubled brace is a
literal one. An expression may be followed by `=`, by a conversion `!r`, `!s` or `!a`, and by a format
behind a colon, which may itself embed expressions one level deep.
-/

namespace CodeAtlas.Script

open Reader

/-! ### Literal text -/

/-- How a stretch of literal text ends. -/
inductive LiteralEnd where
  /-- At a doubled brace, the second of which is dropped. -/
  | doubled
  /-- In front of a brace, or at the end of the string. -/
  | stopped

/-- Puts characters in front of the literal text found behind them. -/
def prepend (cs : List Char) :
    Option (List Char × LiteralEnd × List Char) → Option (List Char × LiteralEnd × List Char)
  | some (text, e, rest) => some (cs ++ text, e, rest)
  | none => none

/-- Ends literal text at a brace; `before` is what was read together with the brace. On the outermost
level a doubled brace is literal, and a single closing brace is an error. -/
def literalBrace (outermost : Bool) (before : List Char) (brace : Char) (cs : List Char) :
    Option (List Char × LiteralEnd × List Char) :=
  if outermost ∧ cs.head? = some brace then some (before ++ [brace], .doubled, cs.drop 1)
  else if outermost ∧ brace = '\x7d' then none
  else some (before, .stopped, brace :: cs)

/-- The literal text at the start of a format string. -/
def scanLiteral (raw outermost : Bool) : Nat → List Char → Option (List Char × LiteralEnd × List Char)
  | 0, cs => some ([], .stopped, cs)
  | _, [] => some ([], .stopped, [])
  | fuel + 1, c :: cs =>
    if c = '\\' ∧ !raw then
      match cs with
      | [] => some (['\\'], .stopped, [])
      | d :: rest =>
        if d = 'N' then
          match rest with
          | '\x7b' :: more =>
            let name := more.takeWhile (· ≠ '\x7d')
            let close := (more.drop name.length).take 1
            prepend ('\\' :: 'N' :: '\x7b' :: name ++ close)
              (scanLiteral raw outermost fuel (more.drop (name.length + 1)))
          | _ => prepend ['\\', 'N'] (scanLiteral raw outermost fuel rest)
        else if d = '\x7b' ∨ d = '\x7d' then literalBrace outermost ['\\'] d rest
        else prepend ['\\', d] (scanLiteral raw outermost fuel rest)
    else if c = '\x7b' ∨ c = '\x7d' then literalBrace outermost [] c cs
    else prepend [c] (scanLiteral raw outermost fuel cs)

/-! ### Expressions -/

/-- Puts characters in front of the expression text found behind them. -/
def prependSource (cs : List Char) :
    Option (List Char × List Char) → Option (List Char × List Char)
  | some (text, rest) => some (cs ++ text, rest)
  | none => none

/-- The source of an embedded expression, up to the character that ends it. `quote` is the open
quote with whether it is tripled, `stack` the open brackets. -/
def scanSource : Nat → Option (Char × Bool) → List Char → List Char → Option (List Char × List Char)
  | 0, _, _, _ => none
  | _, _, _, [] => none
  | fuel + 1, quote, stack, c :: cs =>
    if c = '\\' then none
    else
      match quote with
      | some (q, triple) =>
        if c ≠ q then prependSource [c] (scanSource fuel quote stack cs)
        else if !triple then prependSource [c] (scanSource fuel none stack cs)
        else if cs.take 2 = [q, q] then
          prependSource [q, q, q] (scanSource fuel none stack (cs.drop 2))
        else prependSource [c] (scanSource fuel quote stack cs)
      | none =>
        if c = '\'' ∨ c = '"' then
          if cs.take 2 = [c, c] then
            prependSource [c, c, c] (scanSource fuel (some (c, true)) stack (cs.drop 2))
          else prependSource [c] (scanSource fuel (some (c, false)) stack cs)
        else if c = '(' ∨ c = '[' ∨ c = '\x7b' then
          if 200 ≤ stack.length then none
          else prependSource [c] (scanSource fuel none (c :: stack) cs)
        else if c = '#' then none
        else if stack.isEmpty ∧ (c = '!' ∨ c = ':' ∨ c = '\x7d' ∨ c = '=' ∨ c = '>' ∨ c = '<') then
          if cs.head? = some '=' ∧ c ≠ ':' ∧ c ≠ '\x7d' then
            prependSource [c, '='] (scanSource fuel none stack (cs.drop 1))
          else if c = '>' ∨ c = '<' then prependSource [c] (scanSource fuel none stack cs)
          else some ([], c :: cs)
        else if c = ')' ∨ c = ']' ∨ c = '\x7d' then
          match stack with
          | o :: outer =>
            if (o = '(' ∧ c = ')') ∨ (o = '[' ∧ c = ']') ∨ (o = '\x7b' ∧ c = '\x7d') then
              prependSource [c] (scanSource fuel none outer cs)
            else none
          | [] => none
        else prependSource [c] (scanSource fuel none stack cs)

/-- Blanks between tokens. -/
def isLayoutBlank (c : Char) : Bool :=
  c == ' ' || c == '\t' || c == '\n' || c == '\x0c'

/-! ### Assembling -/

/-- A string under construction: the literal text not yet turned into a node, and the finished nodes
in reverse. -/
structure Pieces where
  pending : List Nat := []
  nodes : List Node := []

/-- Adds literal text. -/
def Pieces.addText (p : Pieces) (codes : List Nat) : Pieces :=
  { p with pending := p.pending ++ codes }

/-- A constant text. -/
def textNode (codes : List Nat) (marked : Bool) : Node :=
  .expr (.constant (.text codes marked)) []

/-- Turns the pending text into a node. -/
def Pieces.flush (marked : Bool) (p : Pieces) : Pieces :=
  if p.pending.isEmpty then p else ⟨[], textNode p.pending marked :: p.nodes⟩

/-- Adds an embedded expression. -/
def Pieces.addNode (marked : Bool) (p : Pieces) (n : Node) : Pieces :=
  let p := p.flush marked
  { p with nodes := n :: p.nodes }

/-- The nodes of a finished string. -/
def Pieces.finish (marked : Bool) (p : Pieces) : List Node :=
  (p.flush marked).nodes.reverse

/-- Reads a format string into `pieces`, up to its end or, in a nested format, up to the closing
brace. Formats nest to depth two. -/
def readFormat (rules : Rules) (raw marked : Bool) (level : Nat) :
    Nat → Pieces → List Char → Reader (Pieces × List Char)
  | 0, _, _ => failure
  | fuel + 1, pieces, cs => do
    match scanLiteral raw (level == 0) cs.length cs with
    | none => failure
    | some (literal, ending, rest) =>
      let some text := textValue raw literal | failure
      let pieces := pieces.addText text
      match ending, rest with
      | .doubled, _ => readFormat rules raw marked level fuel pieces rest
      | .stopped, [] => if level = 0 then return (pieces, []) else failure
      | .stopped, '\x7b' :: source =>
        guardThat (level < 2)
        let some (code, rest) := scanSource source.length none [] source | failure
        guardThat (!code.all isLayoutBlank)
        let value ← one (rules (.embedded code))
        -- An equals sign shows the expression's own source in front of its value.
        let shown := rest.head? = some '='
        let blanks := if shown then (rest.drop 1).takeWhile fun c =>
          isLayoutBlank c || c == '\r' || c == '\x0b' else []
        let pieces := if shown then pieces.addText ((code ++ '=' :: blanks).map Char.toNat) else pieces
        let rest := if shown then rest.drop (1 + blanks.length) else rest
        let (conversion, rest) ← (match rest with
          | '!' :: c :: more =>
            if c = 's' ∨ c = 'r' ∨ c = 'a' then pure (some c, more) else failure
          | '!' :: [] => failure
          | _ => pure (none, rest) : Reader (Option Char × List Char))
        let (spec, rest) ← (match rest with
          | ':' :: more => do
            let (inner, rest) ← readFormat rules raw marked (level + 1) fuel {} more
            pure (some (Node.expr .joined (inner.finish marked)), rest)
          | _ => pure (none, rest) : Reader (Option Node × List Char))
        match rest with
        | '\x7d' :: rest =>
          let conversion := if shown ∧ spec.isNone ∧ conversion.isNone then some 'r' else conversion
          let node := Node.expr (.formatted conversion spec.isSome) (value :: spec.toList)
          readFormat rules raw marked level fuel (pieces.addNode marked node) rest
        | _ => failure
      | .stopped, rest => if level = 0 then failure else return (pieces, rest)

/-- Adds the string literals to `pieces` one after the other. -/
def readPieces (rules : Rules) (marked : Bool) : Pieces → List RawString → Reader Pieces
  | pieces, [] => pure pieces
  | pieces, s :: rest => do
    if s.format then
      let (pieces, _) ← readFormat rules s.raw marked 0 (s.body.length + 1) pieces s.body
      readPieces rules marked pieces rest
    else
      let some text := textValue s.raw s.body | failure
      readPieces rules marked (pieces.addText text) rest

/-- Reads one string literal. -/
def rawString : Reader RawString := do
  match ← next with
  | .string s => return s
  | _ => failure

/-- Adjacent string literals, which form one value: all texts, or all bytes. -/
def strings (rules : Rules) : Reader Node := do
  let parts ← many1 rawString
  let marked := parts.head?.any (·.unicode)
  if parts.all (·.bytes) then
    let some values := parts.mapM fun s => bytesValue s.raw s.body | failure
    return .expr (.constant (.bytes values.flatten)) []
  else if parts.any (·.bytes) then failure
  else
    let pieces ← readPieces rules marked {} parts
    if parts.any (·.format) then return .expr .joined (pieces.finish marked)
    else return textNode pieces.pending marked

end CodeAtlas.Script
