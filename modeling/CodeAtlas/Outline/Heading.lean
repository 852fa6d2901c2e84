import CodeAtlas.Outline.Inline
import CodeAtlas.Text.Search

/-!
# Headings of a document

A heading is marked by number signs in front of it, or by a line of equals signs or hyphens below it.
Headings are looked for in the document without its code; their line is counted in the whole document.
-/

namespace CodeAtlas.Outline

open CodeAtlas.Text CodeAtlas.Text.Pattern

/-- How a heading is marked. -/
inductive HeadingStyle where
  | marked
  | doubleUnderlined
  | underlined
  deriving Repr, DecidableEq, Inhabited

/-- A heading: its level, its text with and without markup, its line, and where its mark stands in the
document without code. -/
structure Heading where
  level : Nat
  text : List Char
  clean : List Char
  line : Nat
  style : HeadingStyle
  start : Nat
  stop : Nat
  deriving Repr, DecidableEq, Inhabited

/-- Blocks of code between three backticks, and code between backticks in a line. -/
def codePattern : Pattern :=
  alt (all [lit "```", few fun _ => true, lit "```"])
    (all [lit "`", many1 fun c => c != '`' && c != '\n', lit "`"])

/-- A document without its code. -/
def withoutCode (content : List Char) : List Char :=
  codePattern.replaceIn (fun _ => []) content

def isNumberSign (c : Char) : Bool := c == '#'

/-- One to six number signs, a text, and number signs that close the line. -/
def markedPattern : Pattern :=
  all [lineStart, group 1 (run false 1 (some 6) isNumberSign), blanks1, group 2 (few1 inLine),
    opt (all [blanks, many1 isNumberSign, blanks]), lineEnd]

/-- A line above a line of signs. -/
def underlinePattern (sign : Char) : Pattern :=
  all [lineStart, group 1 (many1 inLine), lit "\n", many1 (· == sign), blanks, lineEnd]

/-- The number of the line that a position of a document is on. -/
def lineAt (content : List Char) (position : Nat) : Nat :=
  (content.take position).count '\n' + 1

/-- The heading of a match. -/
def headingOf (content : List Char) (style : HeadingStyle) (level : Nat) (text : List Char)
    (m : Match) : Heading :=
  let text := trim text
  { level := level
    text := text
    clean := cleanText text
    line := lineAt content m.start
    style := style
    start := m.start
    stop := m.stop }

/-- All headings of a document: first those with number signs, then those above equals signs, then
those above hyphens. -/
def allHeadings (content : List Char) : List Heading :=
  let bare := withoutCode content
  (markedPattern.matchesIn bare).map (fun m =>
      headingOf content .marked (m.group 1).length (m.group 2) m) ++
    ((underlinePattern '=').matchesIn bare).map (fun m =>
      headingOf content .doubleUnderlined 1 (m.group 1) m) ++
    ((underlinePattern '-').matchesIn bare).map (fun m =>
      headingOf content .underlined 2 (m.group 1) m)

/-- The headings of a document by their lines. -/
def sortedHeadings (content : List Char) : List Heading :=
  (allHeadings content).mergeSort fun a b => decide (a.line ≤ b.line)

/-! ### Hierarchy -/

/-- The parents of headings with the given levels; `enclosing` holds the headings that can still
be parents, the innermost first. -/
def parentsFrom : Nat → List (Int × Nat) → List Int → List (Option Nat)
  | _, _, [] => []
  | index, enclosing, level :: levels =>
    let outer := enclosing.dropWhile fun e => level ≤ e.1
    (outer.head?.map (·.2)) :: parentsFrom (index + 1) ((level, index) :: outer) levels

/-- The parent of each heading: the nearest one before it with a smaller level. -/
def parents (levels : List Int) : List (Option Nat) :=
  parentsFrom 0 [] levels

end CodeAtlas.Outline
