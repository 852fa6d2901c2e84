/-!
# Wildcards

A wildcard pattern describes whole texts: some of its items stand for one character of a class, and one
item for any characters at all.
-/

namespace CodeAtlas.Text

/-- An item of a wildcard pattern. -/
inductive Wildcard where
  /-- Any characters, or none. -/
  | star
  /-- One character of a class. -/
  | one (p : Char → Bool)

/-- Whether a text is of the form that a pattern describes. -/
def matchesWildcards : List Wildcard → List Char → Bool
  | [], cs => cs.isEmpty
  | .one _ :: _, [] => false
  | .one p :: ws, c :: cs => p c && matchesWildcards ws cs
  | .star :: ws, [] => matchesWildcards ws []
  | .star :: ws, c :: cs => matchesWildcards ws (c :: cs) || matchesWildcards (.star :: ws) cs
termination_by ws cs => ws.length + cs.length

/-! ### Patterns for file names -/

/-- Cuts a set of characters into chunks at the hyphens that stand for ranges. The first `skip`
characters of a chunk are never such hyphens: one at the beginning of the set, two behind a range. -/
def rangeChunks : Nat → List Char → List Char → List (List Char)
  | _, chunk, [] => [chunk.reverse]
  | 0, chunk, '-' :: cs => chunk.reverse :: rangeChunks 2 [] cs
  | skip, chunk, c :: cs => rangeChunks (skip - 1) (c :: chunk) cs

/-- Gives the hyphen at the end of a set, behind which nothing stands, back to the chunk before it. -/
def closeChunks : List (List Char) → List (List Char)
  | [] => []
  | [chunk, []] => [chunk ++ ['-']]
  | chunk :: chunks => chunk :: closeChunks chunks

/-- Whether a character is in a set given by chunks: it is in a chunk, or between the end of a chunk
and the beginning of the next. Ends that are the wrong way round are left out. -/
def inChunks (c : Char) : List (List Char) → Bool
  | [] => false
  | [chunk] => chunk.contains c
  | chunk :: next :: chunks =>
    match chunk.getLast?, next with
    | some low, high :: rest =>
      if high < low then chunk.dropLast.contains c || inChunks c (rest :: chunks)
      else chunk.contains c || (low ≤ c && c ≤ high) || inChunks c (next :: chunks)
    | _, _ => chunk.contains c || inChunks c (next :: chunks)
termination_by chunks => chunks.length

/-- Whether a character is in a set as it is written between brackets. -/
def inSet (set : List Char) (c : Char) : Bool :=
  match set with
  | '!' :: rest => !inChunks c (closeChunks (rangeChunks 1 [] rest))
  | _ => inChunks c (closeChunks (rangeChunks 1 [] set))

/-- The set behind an opening bracket and what follows its closing bracket. A closing bracket that comes
first belongs to the set. -/
def bracketSet? (cs : List Char) : Option (List Char × List Char) :=
  let lead := match cs with
    | '!' :: ']' :: _ => 2
    | '!' :: _ => 1
    | ']' :: _ => 1
    | _ => 0
  let inner := (cs.drop lead).takeWhile (· != ']')
  match (cs.drop lead).drop inner.length with
  | _ :: rest => some (cs.take lead ++ inner, rest)
  | [] => none

/-- The pattern for file names that a text stands for; `n` bounds its length. -/
def fileWildcardsFrom : Nat → List Char → List Wildcard
  | 0, _ => []
  | _ + 1, [] => []
  | n + 1, c :: cs =>
    if c = '*' then .star :: fileWildcardsFrom n cs
    else if c = '?' then .one (fun _ => true) :: fileWildcardsFrom n cs
    else if c = '[' then
      match bracketSet? cs with
      | some (set, rest) => .one (inSet set) :: fileWildcardsFrom n rest
      | none => .one (· == c) :: fileWildcardsFrom n cs
    else .one (· == c) :: fileWildcardsFrom n cs

/-- The pattern for file names that a text stands for: a star for any characters, a question mark for
one, and sets of characters between brackets. -/
def fileWildcards (cs : List Char) : List Wildcard :=
  fileWildcardsFrom (cs.length + 1) cs

/-! ### Patterns of the database -/

/-- Lower case inside ASCII. -/
def asciiLower (c : Char) : Char :=
  if 'A' ≤ c && c ≤ 'Z' then Char.ofNat (c.toNat + 32) else c

/-- What the database sees of a text: what stands before the first null character. -/
def beforeNull (cs : List Char) : List Char :=
  cs.takeWhile (·.toNat != 0)

/-- A pattern of the database: a percent sign for any characters, an underscore for one, and other
characters for themselves in either case. -/
def likeWildcards (cs : List Char) : List Wildcard :=
  cs.map fun c =>
    if c = '%' then .star
    else if c = '_' then .one fun _ => true
    else .one fun d => asciiLower d == asciiLower c

/-- The number of bytes that the database takes for a pattern; longer ones it refuses. -/
def maxPatternBytes : Nat := 50000

/-- Whether a text is like a pattern of the database, which has at most `maxPatternBytes` bytes. -/
def isLike (pattern text : List Char) : Bool :=
  matchesWildcards (likeWildcards (beforeNull pattern)) (beforeNull text)

end CodeAtlas.Text
