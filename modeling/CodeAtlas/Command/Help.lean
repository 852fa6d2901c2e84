import CodeAtlas.Command.Spec
import CodeAtlas.Text.Wrap

/-!
# Help pages

A help page shows how a command is used, what it is for, and its options in two columns. The left column
is at most thirty characters wide; an entry that does not fit has its description on the next line.
-/

namespace CodeAtlas.Command

open CodeAtlas.Text

/-- The line on how a command is used. -/
def usageLine (path : String) (pieces : List String) : String :=
  " ".intercalate (("Usage: " ++ path) :: pieces)

/-- What follows the name of a command. -/
def CommandSpec.pieces (s : CommandSpec) : List String :=
  "[OPTIONS]" :: s.arguments.map (·.label)

/-- What follows the name of the program. -/
def programPieces : List String :=
  ["[OPTIONS]", "COMMAND", "[ARGS]..."]

/-! ### Columns -/

/-- The greatest width of the left column. -/
def leftWidth : Nat := 30

/-- The blanks before the right column. -/
def rightStart (rows : List (String × String)) : Nat :=
  min ((rows.map (·.1.length)).foldl max 0) leftWidth + 2

/-- An entry of two columns on a page of the given width; `start` is where the right column starts. -/
def entryLines (width start : Nat) (row : String × String) : List (List Char) :=
  let left := row.1.toList
  let right := wrap (max (width - start - 2) 10) row.2.toList
  let below := right.map fun l => padTo (start + 2) [] ++ l
  if left.length + 2 ≤ start then
    match right with
    | [] => [[' ', ' '] ++ left]
    | l :: _ => ([' ', ' '] ++ padTo start left ++ l) :: below.drop 1
  else ([' ', ' '] ++ left) :: below

/-- A section of a page: its title and its entries. -/
def sectionLines (width : Nat) (title : String) (rows : List (String × String)) : List (List Char) :=
  (title ++ ":").toList :: rows.flatMap (entryLines width (rightStart rows))

/-! ### Pages -/

/-- Short names come first. -/
def orderedNames (names : List String) : List String :=
  names.filter isShort ++ names.filter fun n => !isShort n

/-- How the names and the value of an option are shown. -/
def CommandOption.shown (o : CommandOption) : String :=
  let names := ", ".intercalate (orderedNames o.names)
  match o.kind with
  | .value type _ => names ++ " " ++ type.label
  | .switch off => names ++ " / " ++ off
  | _ => names

/-- The section on the options of a command. -/
def CommandSpec.optionLines (s : CommandSpec) (width : Nat) : List (List Char) :=
  sectionLines width "Options" (s.allOptions.map fun o => (o.shown, o.about))

/-- A page of lines, the first of which is on how a command is used. -/
def pageText (usage about : String) (sections : List (List (List Char))) : String :=
  let head := [usage.toList, [], [' ', ' '] ++ about.toList]
  String.ofList (unlines (head ++ sections.flatMap fun s => [] :: s) ++ ['\n'])

/-- The help page of a command. -/
def CommandSpec.page (s : CommandSpec) (path : String) (width : Nat) : String :=
  pageText (usageLine path s.pieces) s.about [s.optionLines width]

/-- The help page of the program. -/
def programPage (path : String) (width : Nat) : String :=
  pageText (usageLine path programPieces) program.about
    [program.optionLines width, sectionLines width "Commands" (commands.map fun c => (c.name, c.about))]

end CodeAtlas.Command
