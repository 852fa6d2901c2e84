import CodeAtlas.Text.Pattern

/-!
# Markup inside a line

Strong and emphasised text, code and links. Cleaning a text leaves what a reader sees of them.
-/

namespace CodeAtlas.Outline

open CodeAtlas.Text CodeAtlas.Text.Pattern

/-- A text between two marks, free of a character. -/
def between (left : String) (number : Nat) (stop : Char) (right : String) : Pattern :=
  all [lit left, group number (many1 (· != stop)), lit right]

/-- Strong text, emphasised text, code, and links with their targets. -/
def inlineMarkup : Pattern :=
  any [between "**" 1 '*' "**", between "*" 2 '*' "*", between "`" 3 '`' "`",
    all [between "[" 4 ']' "](", many1 (· != ')'), lit ")"]]

/-- What a reader sees of a piece of markup. -/
def visibleText (m : Match) : List Char :=
  match m.groups with
  | g :: _ => g.text
  | [] => []

/-- A text without its markup and without blanks around it. -/
def cleanText (text : List Char) : List Char :=
  trim (inlineMarkup.replaceIn visibleText text)

end CodeAtlas.Outline
