import CodeAtlas.Text.Blank
import CodeAtlas.Text.Case
import CodeAtlas.Text.Word

/-!
# Text patterns

A pattern describes a stretch of text: characters of a class, runs of them, alternatives, optional
parts, and conditions on the place between two characters. A match prefers the first alternative, and
the longest run unless the run is reluctant. A search finds the leftmost match, and the matches of a
text do not overlap.
-/

namespace CodeAtlas.Text

/-- A place in a text: the character before it, its offset, and what follows. -/
structure Place where
  before : Option Char
  offset : Nat
  rest : List Char

/-- The beginning of a text. -/
def Place.start (cs : List Char) : Place :=
  ⟨none, 0, cs⟩

/-- What a numbered group stands for: the text from its beginning on, and its length. -/
structure GroupSpan where
  number : Nat
  rest : List Char
  length : Nat

/-- The text of a group. -/
def GroupSpan.text (g : GroupSpan) : List Char :=
  g.rest.take g.length

/-- What the numbered groups of a pattern stand for, the latest first. -/
abbrev Groups := List GroupSpan

/-- A pattern. -/
inductive Pattern where
  | empty
  /-- One character of a class. -/
  | one (p : Char → Bool)
  | seq (a b : Pattern)
  /-- The first alternative that leads to a match. -/
  | alt (a b : Pattern)
  /-- The pattern if that leads to a match, nothing otherwise. -/
  | opt (a : Pattern)
  /-- A run of characters of a class, at least `least` and at most `most` of them. -/
  | run (reluctant : Bool) (least : Nat) (most : Option Nat) (p : Char → Bool)
  /-- A part whose text is remembered under a number. -/
  | group (number : Nat) (a : Pattern)
  /-- The place at the beginning of a line. -/
  | lineStart
  /-- The place at the end of a line. -/
  | lineEnd
  /-- The place between a word character and another one. -/
  | edge

namespace Pattern

/-- Whether a place lies between a word character and something else. -/
def atEdge (s : Place) : Bool :=
  (s.before.any isWord) != (s.rest.head?.any isWord)

variable {α : Type}

/-- Goes over a run of characters. `next` continues behind the run; where it fails, a shorter run is
tried, or a longer one if the run is reluctant. -/
def runOver (reluctant : Bool) (p : Char → Bool) (next : Place → Option α) :
    Nat → Option Nat → Option Char → Nat → List Char → Option α
  | least, _, before, offset, [] => if least = 0 then next ⟨before, offset, []⟩ else none
  | least, most, before, offset, c :: cs =>
    let stop := fun (_ : Unit) => if least = 0 then next ⟨before, offset, c :: cs⟩ else none
    if most = some 0 || !p c then stop ()
    else
      let more := fun (_ : Unit) =>
        runOver reluctant p next (least - 1) (most.map (· - 1)) (some c) (offset + 1) cs
      if reluctant then
        match stop () with
        | some r => some r
        | none => more ()
      else
        match more () with
        | some r => some r
        | none => stop ()

/-- Matches a pattern at a place; `next` continues behind the match and may refuse it, so that
another way to match is tried. -/
def matching : Pattern → Place → Groups → (Place → Groups → Option α) → Option α
  | empty, s, g, next => next s g
  | one p, s, g, next =>
    match s.rest with
    | [] => none
    | c :: cs => if p c then next ⟨some c, s.offset + 1, cs⟩ g else none
  | seq a b, s, g, next => a.matching s g fun s' g' => b.matching s' g' next
  | alt a b, s, g, next =>
    match a.matching s g next with
    | some r => some r
    | none => b.matching s g next
  | opt a, s, g, next =>
    match a.matching s g next with
    | some r => some r
    | none => next s g
  | run reluctant least most p, s, g, next =>
    runOver reluctant p (fun s' => next s' g) least most s.before s.offset s.rest
  | group n a, s, g, next =>
    a.matching s g fun s' g' => next s' (⟨n, s.rest, s'.offset - s.offset⟩ :: g')
  | lineStart, s, g, next =>
    if s.before = none || s.before = some '\n' then next s g else none
  | lineEnd, s, g, next =>
    if s.rest.head? = none || s.rest.head? = some '\n' then next s g else none
  | edge, s, g, next => if atEdge s then next s g else none

end Pattern

/-- A match: where it starts and ends, and what its groups stand for. -/
structure Match where
  start : Nat
  stop : Nat
  groups : Groups

/-- The text of a group, if the group took part in the match. -/
def Match.group? (m : Match) (n : Nat) : Option (List Char) :=
  (m.groups.find? (·.number == n)).map GroupSpan.text

/-- The text of a group, empty if the group took no part. -/
def Match.group (m : Match) (n : Nat) : List Char :=
  (m.group? n).getD []

namespace Pattern

/-- The match at a place, and the place behind it. -/
def matchAt? (p : Pattern) (s : Place) : Option (Match × Place) :=
  p.matching s [] fun s' g => some (⟨s.offset, s'.offset, g⟩, s')

/-- The leftmost match from a place on, and the place behind it. -/
def searchFrom? (p : Pattern) (before : Option Char) (offset : Nat) :
    List Char → Option (Match × Place)
  | [] => p.matchAt? ⟨before, offset, []⟩
  | c :: cs =>
    match p.matchAt? ⟨before, offset, c :: cs⟩ with
    | some r => some r
    | none => p.searchFrom? (some c) (offset + 1) cs

/-- The leftmost match in a text. -/
def search? (p : Pattern) (cs : List Char) : Option Match :=
  (p.searchFrom? none 0 cs).map (·.1)

/-- The matches from a place on, at most `n` of them. -/
def matchesFrom (p : Pattern) : Nat → Place → List Match
  | 0, _ => []
  | n + 1, s =>
    match p.searchFrom? s.before s.offset s.rest with
    | none => []
    | some (m, s') =>
      if m.start < m.stop then m :: p.matchesFrom n s'
      else
        -- Behind an empty match the search goes on one character later.
        match s'.rest with
        | [] => [m]
        | c :: cs => m :: p.matchesFrom n ⟨some c, s'.offset + 1, cs⟩

/-- All matches in a text, from left to right. -/
def matchesIn (p : Pattern) (cs : List Char) : List Match :=
  p.matchesFrom (cs.length + 1) (.start cs)

/-- Puts texts in place of matches; `offset` is where the text `cs` starts. -/
def substitute (f : Match → List Char) : Nat → List Match → List Char → List Char
  | _, [], cs => cs
  | offset, m :: ms, cs =>
    cs.take (m.start - offset) ++ f m ++ substitute f m.stop ms (cs.drop (m.stop - offset))

/-- Puts a text in place of every match. -/
def replaceIn (p : Pattern) (f : Match → List Char) (cs : List Char) : List Char :=
  substitute f 0 (p.matchesIn cs) cs

/-! ### Building patterns -/

/-- Patterns one after the other. -/
def all : List Pattern → Pattern
  | [] => empty
  | [p] => p
  | p :: ps => seq p (all ps)

/-- The first of several patterns that leads to a match. -/
def any : List Pattern → Pattern
  | [] => run false 1 (some 0) fun _ => false
  | [p] => p
  | p :: ps => alt p (any ps)

/-- A fixed text. -/
def lit (s : String) : Pattern :=
  all (s.toList.map fun c => one (· == c))

/-- As many characters of a class as possible, or none. -/
def many (p : Char → Bool) : Pattern :=
  run false 0 none p

/-- As many characters of a class as possible, at least one. -/
def many1 (p : Char → Bool) : Pattern :=
  run false 1 none p

/-- As few characters of a class as possible, or none. -/
def few (p : Char → Bool) : Pattern :=
  run true 0 none p

/-- As few characters of a class as possible, at least one. -/
def few1 (p : Char → Bool) : Pattern :=
  run true 1 none p

/-- Blanks, or none. -/
def blanks : Pattern := many isBlank

/-- At least one blank. -/
def blanks1 : Pattern := many1 isBlank

/-- A word. -/
def word : Pattern := many1 isWord

/-- Every character but a line feed. -/
def inLine (c : Char) : Bool := c != '\n'

/-- A quote of either kind. -/
def isQuote (c : Char) : Bool := c == '\'' || c == '"'

/-- A pair of parentheses with no closing parenthesis between them. -/
def parentheses : Pattern :=
  all [lit "(", many (· != ')'), lit ")"]

/-- A capital letter or an underscore. -/
def isCapital (c : Char) : Bool :=
  ('A' ≤ c && c ≤ 'Z') || c == '_'

/-- A name in capitals, digits and underscores. -/
def capitals : Pattern :=
  seq (one isCapital) (many fun c => isCapital c || ('0' ≤ c && c ≤ '9'))

/-- Whether two letters are the same up to case; `a` is a lower-case ASCII letter. The long s and the
dotless i count as forms of s and i. -/
def sameLetter (a c : Char) : Bool :=
  (lowerChar c).head? == some a || (a == 's' && c == 'ſ') || (a == 'i' && c == 'ı')

/-- A word of lower-case letters, in any case. -/
def anyCase (s : String) : Pattern :=
  all (s.toList.map fun c => one (sameLetter c))

end Pattern

end CodeAtlas.Text
