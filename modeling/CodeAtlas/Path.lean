import CodeAtlas.Text.Search
import CodeAtlas.Text.Case

/-!
# File paths

A path is a root, which is empty for a relative path, and the names on the way from there. Empty names
and names that mean "here" are dropped, so that different spellings of one path are equal; the name
that means "up" is kept.
-/

namespace CodeAtlas

open CodeAtlas.Text

/-- A path with `/` as separator. -/
structure Path where
  root : List Char
  parts : List (List Char)
  deriving Repr, DecidableEq, Inhabited

namespace Path

/-- A path from its text. Exactly two slashes in front are a root of their own. -/
def ofChars (cs : List Char) : Path :=
  let slashes := (cs.takeWhile (· == '/')).length
  let root := if slashes = 0 then [] else if slashes = 2 then ['/', '/'] else ['/']
  ⟨root, (pieces '/' cs).filter fun p => !p.isEmpty && p != ['.']⟩

def ofString (s : String) : Path :=
  ofChars s.toList

/-- The text of a path; the empty relative path is a dot. -/
def chars (p : Path) : List Char :=
  let body := p.root ++ join ['/'] p.parts
  if body.isEmpty then ['.'] else body

def toString (p : Path) : String :=
  String.ofList p.chars

def isAbsolute (p : Path) : Bool :=
  !p.root.isEmpty

/-- The last name of a path; empty for a root or the empty path. -/
def name (p : Path) : List Char :=
  p.parts.getLast?.getD []

/-- A path without its last name. -/
def parent (p : Path) : Path :=
  { p with parts := p.parts.dropLast }

/-- The path of a name below a path. -/
def child (p : Path) (name : List Char) : Path :=
  { p with parts := p.parts ++ [name] }

/-- Follows a path from another one; an absolute path is not affected by where it starts. -/
def append (p q : Path) : Path :=
  if q.isAbsolute then q else { p with parts := p.parts ++ q.parts }

/-- The position of the dot before the extension of a name: the last dot, if something stands before
it and behind it. -/
def dotPosition? (name : List Char) : Option Nat :=
  let tail := (name.reverse.takeWhile (· ≠ '.')).length
  if tail = name.length then none
  else
    let i := name.length - tail - 1
    if 0 < i ∧ tail ≠ 0 then some i else none

/-- The extension of the last name, with its dot. -/
def suffix (p : Path) : List Char :=
  match dotPosition? p.name with
  | some i => p.name.drop i
  | none => []

/-- The last name without its extension. -/
def stem (p : Path) : List Char :=
  match dotPosition? p.name with
  | some i => p.name.take i
  | none => p.name

/-- The path from `root` to `p`, if `p` is below it. -/
def relativeTo? (p root : Path) : Option Path :=
  if p.root = root.root ∧ root.parts.isPrefixOf p.parts then
    some ⟨[], p.parts.drop root.parts.length⟩
  else none

/-- Takes away names that are followed by "up"; above a root there is nothing. -/
def normalParts (absolute : Bool) : List (List Char) → List (List Char) → List (List Char)
  | done, [] => done.reverse
  | done, p :: ps =>
    if p = ['.', '.'] then
      match done with
      | d :: rest => if d = ['.', '.'] then normalParts absolute (p :: done) ps
        else normalParts absolute rest ps
      | [] => if absolute then normalParts absolute [] ps else normalParts absolute [p] ps
    else normalParts absolute (p :: done) ps

/-- The absolute path that a path means in a working directory. -/
def resolve (cwd p : Path) : Path :=
  ⟨['/'], normalParts true [] (cwd.append p).parts⟩

/-- The paths on the way to a path, the path itself last. -/
def steps (p : Path) : List Path :=
  (List.range p.parts.length).map fun i => { p with parts := p.parts.take (i + 1) }

end Path

end CodeAtlas
