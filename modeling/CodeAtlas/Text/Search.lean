import CodeAtlas.Text.Ranges

/-!
# Searching and cutting texts

Texts are lists of characters. A text is searched for another one from the left, occurrences that
are cut out do not overlap, and joining the pieces with the separator gives the text back.
-/

namespace CodeAtlas.Text

/-- Whether `needle` occurs in a text. -/
def contains (needle : List Char) : List Char → Bool
  | [] => needle.isEmpty
  | c :: cs => needle.isPrefixOf (c :: cs) || contains needle cs

/-- Whether a text ends with `tail`. -/
def endsWith (tail cs : List Char) : Bool :=
  tail.isSuffixOf cs

/-- Puts a character in front of the first piece. -/
def consPiece (c : Char) : List (List Char) → List (List Char)
  | [] => [[c]]
  | p :: ps => (c :: p) :: ps

/-- The pieces between occurrences of `sep`, where the first `skip` characters belong to a separator
that was already found. -/
def splitFrom (sep : List Char) : Nat → List Char → List (List Char)
  | _, [] => [[]]
  | skip + 1, _ :: cs => splitFrom sep skip cs
  | 0, c :: cs =>
    if sep.isPrefixOf (c :: cs) then [] :: splitFrom sep (sep.length - 1) cs
    else consPiece c (splitFrom sep 0 cs)

/-- The pieces of a text between occurrences of a separator that is not empty. -/
def splitOn (sep cs : List Char) : List (List Char) :=
  splitFrom sep 0 cs

/-- What stands before and after the first occurrence of `sep`. -/
def cut? (sep : List Char) : List Char → Option (List Char × List Char)
  | [] => if sep.isEmpty then some ([], []) else none
  | c :: cs =>
    if sep.isPrefixOf (c :: cs) then some ([], (c :: cs).drop sep.length)
    else (cut? sep cs).map fun (before, after) => (c :: before, after)

/-- The texts of a list with a separator between them. -/
def join (sep : List Char) (parts : List (List Char)) : List Char :=
  List.intercalate sep parts

/-- Puts `new` in place of every occurrence of `old`, which is not empty. -/
def replace (old new cs : List Char) : List Char :=
  join new (splitOn old cs)

/-- The number of occurrences of a text that is not empty, none overlapping another. -/
def occurrences (needle cs : List Char) : Nat :=
  (splitOn needle cs).length - 1

/-- The lines of a text, without their line feeds; a text always has at least one line. -/
def lines (cs : List Char) : List (List Char) :=
  pieces '\n' cs

/-- The text made of the given lines. -/
def unlines (ls : List (List Char)) : List Char :=
  join ['\n'] ls

/-- The part of a list from position `start` up to, and without, position `stop`. -/
def slice {α : Type} (start stop : Nat) (xs : List α) : List α :=
  (xs.take stop).drop start

end CodeAtlas.Text
