import CodeAtlas.Extract.Basic
import CodeAtlas.Text.Pattern

/-!
# Rules of thumb

What can be said about a program text without knowing its language.
-/

namespace CodeAtlas.Extract

open CodeAtlas.Text CodeAtlas.Text.Pattern

/-- Whether a line without blanks in front is a comment. -/
def isCommentLine (line : List Char) : Bool :=
  ['/', '/'].isPrefixOf line || line.head? == some '#'

/-- Whether a line without blanks in front is an import. -/
def isImportLine (line : List Char) : Bool :=
  "import ".toList.isPrefixOf line || "from ".toList.isPrefixOf line

/-- The comments of a text, one for each line. -/
def commentLines (content : List Char) : List (List Char) :=
  ((lines content).map trim).filter isCommentLine

/-- The imports of a text, one for each line. -/
def importLines (content : List Char) : List (List Char) :=
  ((lines content).map trim).filter isImportLine

/-- The words that count for the complexity of a text. -/
def decisionWords : List (List Char) :=
  ["if", "elif", "else", "for", "while", "try", "except", "finally", "switch", "case", "catch",
    "do", "break", "continue", "return"].map String.toList

/-- The complexity of a text: one more than the number of its decision words. -/
def decisionCount (content : List Char) : Nat :=
  1 + (words (toLower content)).countP fun w => decisionWords.contains w

/-- A name in front of an opening parenthesis. -/
def callPattern : Pattern :=
  let first := fun c : Char => c.isAlpha || c == '_'
  all [edge, group 1 (seq (one first) (many fun c => first c || c.isDigit)), blanks, lit "("]

/-- Words in front of parentheses that call nothing. -/
def notCalls : List (List Char) :=
  ["if", "for", "while", "with", "try", "except", "class", "def"].map String.toList

/-- The names that a text calls, sorted. -/
def calledNames (content : List Char) : List String :=
  let names := (callPattern.matchesIn content).map (·.group 1)
  sortTexts ((names.filter fun n => !notCalls.contains n).eraseDups.map String.ofList)

/-- Parts of a path that show a file of tests. -/
def testMarks : List (List Char) :=
  ["test_", "_test", "tests/", "/test/", "spec_", "_spec"].map String.toList

/-- Whether a path looks like that of a file of tests. -/
def isTestFile (path : List Char) : Bool :=
  let lower := toLower path
  testMarks.any fun mark => contains mark lower

/-- How an element is announced: a function or class by its first line, others by kind and name. -/
def signature (e : Element) : String :=
  match e.kind with
  | .function | .classDef => String.ofList (trim ((lines e.content.toList).headD []))
  | kind => kind.label ++ " " ++ e.name

end CodeAtlas.Extract
