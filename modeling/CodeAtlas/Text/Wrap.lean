import CodeAtlas.Text.Blank
import CodeAtlas.Text.Search

/-!
# Wrapped text

A text is broken into lines between words, each line as full as the width allows. A word that is wider
than a line stands on a line of its own.
-/

namespace CodeAtlas.Text

/-- Fills lines with words; `line` is the one that is being filled. -/
def fillLines (width : Nat) (line : List Char) : List (List Char) → List (List Char)
  | [] => [line]
  | w :: ws =>
    if line.length + 1 + w.length ≤ width then fillLines width (line ++ ' ' :: w) ws
    else line :: fillLines width w ws

/-- The lines of a text. -/
def wrap (width : Nat) (cs : List Char) : List (List Char) :=
  match words cs with
  | [] => []
  | w :: ws => fillLines width w ws

/-- A text that is filled with blanks up to a width. -/
def padTo (width : Nat) (cs : List Char) : List Char :=
  cs ++ List.replicate (width - cs.length) ' '

end CodeAtlas.Text
