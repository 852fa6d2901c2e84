import CodeAtlas.Extract.Basic

/-!
# Blocks between braces

A block that starts on some line ends on the line where as many closing as opening braces have been
seen, at least one of them opening. Where no such line exists, a block is taken to have a fixed length,
within the file.
-/

namespace CodeAtlas.Extract

/-- How deep the braces are nested at some point, and whether an opening one was seen. -/
structure BraceDepth where
  depth : Int := 0
  opened : Bool := false
  deriving Repr, DecidableEq

/-- Goes over a line; `none` if a block ends on it. -/
def BraceDepth.scan (opening closing : Char) : BraceDepth → List Char → Option BraceDepth
  | s, [] => some s
  | s, c :: cs =>
    if c = opening then BraceDepth.scan opening closing ⟨s.depth + 1, true⟩ cs
    else if c = closing then
      if s.opened ∧ s.depth - 1 = 0 then none
      else BraceDepth.scan opening closing ⟨s.depth - 1, s.opened⟩ cs
    else BraceDepth.scan opening closing s cs

/-- The line on which a block ends, counted from the first of the given lines. -/
def closingLine? (opening closing : Char) : BraceDepth → List (List Char) → Option Nat
  | _, [] => none
  | s, line :: rest =>
    match s.scan opening closing line with
    | none => some 0
    | some s' => (closingLine? opening closing s' rest).map (· + 1)

/-- The last line of the block that starts on line `start`, counted from zero; `length` is how much
longer a block without end is taken to be. -/
def blockEnd (opening closing : Char) (length : Nat) (lines : List (List Char)) (start : Nat) : Int :=
  match closingLine? opening closing {} (lines.drop start) with
  | some n => (start + n : Nat)
  | none => min ((start + length : Nat) : Int) ((lines.length : Int) - 1)

/-- The last line of a block that may also start before the file: the search then goes over as many of
the last lines first, and the file must have that many. -/
def blockEndFrom (opening closing : Char) (length : Nat) (lines : List (List Char)) (start : Int) :
    Except Failure Int :=
  if 0 ≤ start then .ok (blockEnd opening closing length lines start.toNat)
  else if lines.length < start.natAbs then .error .outOfRange
  else
    match closingLine? opening closing {} (lines.drop (lines.length - start.natAbs) ++ lines) with
    | some n => .ok (start + n)
    | none => .ok (min (start + length) ((lines.length : Int) - 1))

end CodeAtlas.Extract
