import CodeAtlas.Element
import CodeAtlas.Failure
import CodeAtlas.Digest.Md5
import CodeAtlas.Text.Search
import CodeAtlas.Text.Blank

/-!
# Extracting elements

What the extractors of all languages share: how an element is made, how its identifier is formed, and
how the groups of elements of a file are collected. A group that fails adds nothing, and ends the
extraction; the groups before it are kept.
-/

namespace CodeAtlas.Extract

open CodeAtlas.Text

/-- What the surroundings provide: the current time as a text, without which no element of a program
file can be made, and whether links between elements can be written. -/
structure Options where
  stamp : Option String := none
  linking : Bool := false

/-- The elements found in a file, and what was recorded on the way. -/
structure Extraction where
  elements : List Element
  log : Log := []

/-- A path as it appears in texts. -/
def pathText (path : Option String) : String :=
  path.getD "None"

/-- The identifier of an element: a digest of its file, name and first line. -/
def elementId (name : String) (path : Option String) (line : Int) : String :=
  let number := String.ofList (if line < 0 then '-' :: Nat.toDigits 10 line.natAbs
    else Nat.toDigits 10 line.natAbs)
  Digest.ofText s!"{pathText path}:{name}:{number}"

/-- What is wrong with a time stamp that is not a text. -/
def stampFailure : Failure :=
  .invalid "ElementMetadata" [("last_modified", "str type expected (type=type_error.str)")]

/-- What is wrong with an element without a file. -/
def pathFailure : Failure :=
  .invalid "CodeElement"
    [("file_path", "none is not an allowed value (type=type_error.none.not_allowed)")]

/-- Makes an element. It fails without a time stamp, and without the path of its file. -/
def makeElement (options : Options) (language : String) (kind : ElementKind) (name : String)
    (path : Option String) (location : Location) (content : String)
    (complexity : Option Int := none) : Except Failure Element :=
  match options.stamp, path with
  | none, _ => .error stampFailure
  | some _, none => .error pathFailure
  | some stamp, some file =>
    .ok {
      id := elementId name path location.lineStart
      kind := kind
      name := name
      content := content
      filePath := file
      location := location
      metadata := {
        language := language
        complexity := complexity
        linesOfCode := some (location.lineEnd - location.lineStart + 1)
        lastModified := some stamp }
      embedding := some [] }

/-- Sorted texts. -/
def sortTexts (xs : List String) : List String :=
  xs.mergeSort fun a b => decide (a ≤ b)

/-- The text of a link to another element. -/
def linkText (relation target strength : String) : String :=
  s!"{relation}:{target}:{strength}"

/-- Collects groups of elements in order, up to the first that fails. -/
def collectGroups : List (Except Failure (List Element)) → List Element × Option Failure
  | [] => ([], none)
  | .error e :: _ => ([], some e)
  | .ok elements :: groups =>
    let (more, failure) := collectGroups groups
    (elements ++ more, failure)

/-- The event for an extraction that failed. -/
def failureEvent (path : Option String) (failure : Failure) : Event :=
  .err s!"Error parsing {pathText path}: {failure.message}"

/-- The lines of a text from `first` to `last`, counted from one, as a text. -/
def lineRange (lines : List (List Char)) (first last : Int) : String :=
  let start := (max 0 (first - 1)).toNat
  let stop := (min (lines.length : Int) last).toNat
  String.ofList (unlines (slice start stop lines))

end CodeAtlas.Extract
