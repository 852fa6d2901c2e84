import CodeAtlas.Extract.Braces

/-!
# Files read line by line

Some extractors look at one line at a time. An element then covers a single line, or the block that
starts on it.
-/

namespace CodeAtlas.Extract

open CodeAtlas.Text

/-- A file with its language and lines. -/
structure SourceFile where
  options : Options
  language : String
  path : Option String
  lines : List (List Char)

namespace SourceFile

/-- The element of a single line, of which the given text is kept; `width` is the length of the
line. -/
def lineElement (file : SourceFile) (kind : ElementKind) (name content : List Char) (index : Nat)
    (width : Nat := content.length) : Except Failure Element :=
  makeElement file.options file.language kind (String.ofList name) file.path
    { lineStart := index + 1, lineEnd := index + 1, columnEnd := width } (String.ofList content)

/-- The element of the block that starts on a line. A block without end has `length` more lines. -/
def blockElement (file : SourceFile) (length : Nat) (kind : ElementKind) (name : List Char)
    (index : Nat) (complexity : List Char → Nat) : Except Failure Element :=
  let last := blockEnd '\x7b' '\x7d' length file.lines index
  let stop := last.toNat
  let content := unlines (slice index (stop + 1) file.lines)
  makeElement file.options file.language kind (String.ofList name) file.path
    { lineStart := index + 1
      lineEnd := last + 1
      columnEnd := ((file.lines[stop]?).getD []).length }
    (String.ofList content) (some (complexity content : Nat))

/-- The elements that `find` sees in the lines of a file. -/
def eachLine (file : SourceFile) (find : Nat → List Char → Except Failure (Option Element)) :
    Except Failure (List Element) :=
  file.lines.zipIdx.filterMapM fun (line, index) => find index line

/-- The elements that `find` sees in the lines of a file without the blanks around them. -/
def eachTrimmed (file : SourceFile) (find : Nat → List Char → Except Failure (Option Element)) :
    Except Failure (List Element) :=
  file.eachLine fun index line => find index (trim line)

end SourceFile

end CodeAtlas.Extract
