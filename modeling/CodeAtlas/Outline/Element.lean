import CodeAtlas.Element
import CodeAtlas.Extract.Basic
import CodeAtlas.Outline.Heading

/-!
# Elements of a document

Each heading becomes an element that holds the section below it and depends on its parent heading.
-/

namespace CodeAtlas.Outline

open CodeAtlas.Text CodeAtlas.Extract

def language : String := "markdown"

/-- How much of a section is kept. -/
def sectionLimit : Nat := 2000

/-- The kind of a heading by its level. -/
def headingKind : Nat → ElementKind
  | 1 => .h1
  | 2 => .h2
  | 3 => .h3
  | 4 => .h4
  | 5 => .h5
  | 6 => .h6
  | _ => .documentHeading

/-- The stored form of a path in identifiers of headings. -/
def pathKey (path : List Char) : List Char :=
  path.map fun c => if c = '\\' || c = '/' then '_' else c

/-- A heading's text in an identifier: words, blanks and hyphens only, in lower case, spaces turned
into underscores. -/
def textKey (text : List Char) : List Char :=
  toLower ((text.filter fun c => isWord c || isBlank c || c == '-').map fun c =>
    if c = ' ' then '_' else c)

/-- The identifier of a heading. -/
def headingId (path : List Char) (h : Heading) : String :=
  let key := String.ofList (pathKey path)
  let text := String.ofList (textKey h.clean)
  let level := String.ofList (Nat.toDigits 10 h.level)
  let line := String.ofList (Nat.toDigits 10 h.line)
  s!"heading_{key}_{level}_{text}_{line}"

/-- The last line of a section, where `later` are the headings that follow. -/
def sectionEnd (count : Nat) (h : Heading) (later : List Heading) : Nat :=
  match later.find? (·.level ≤ h.level) with
  | some next => next.line - 1
  | none => count

/-- The text of a section: the lines below the heading, through the next heading that does not lie
deeper. -/
def sectionText (lines : List (List Char)) (h : Heading) (later : List Heading) : List Char :=
  let last := sectionEnd lines.length h later
  let text := trim (unlines (slice h.line (last + 1) lines))
  if sectionLimit < text.length then text.take sectionLimit ++ "...".toList else text

/-- The element of a heading. -/
def headingElement (path : String) (lines : List (List Char)) (h : Heading) (later : List Heading)
    (parent : Option Heading) : Element :=
  let body := sectionText lines h later
  { id := headingId path.toList h
    kind := headingKind h.level
    name := String.ofList h.clean
    content := String.ofList (h.text ++ '\n' :: '\n' :: body)
    filePath := path
    location := { lineStart := h.line, lineEnd := h.line, columnEnd := h.text.length }
    metadata := {
      language := language
      complexity := some 1
      linesOfCode := some (Text.lines body).length }
    dependencies := parent.toList.map (headingId path.toList) }

/-- The elements of headings; `all` are the headings of the whole document. -/
def headingElements (path : String) (lines : List (List Char)) (all : List Heading) :
    List Heading → List (Option Nat) → List Element
  | h :: later, parent :: parents =>
    headingElement path lines h later (parent.bind fun i => all[i]?) ::
      headingElements path lines all later parents
  | _, _ => []

/-- The elements of a document whose path is known. -/
def documentElements (path : String) (content : List Char) : List Element :=
  let headings := sortedHeadings content
  headingElements path (lines content) headings headings
    (parents (headings.map fun h => (h.level : Int)))

/-- The elements of a document. Without a path there is no identifier, so no heading becomes an
element. -/
def elements (path : Option String) (content : List Char) : Extraction :=
  match path with
  | some path => ⟨documentElements path content, []⟩
  | none =>
    let cause := (Failure.noMember "NoneType" "replace").message
    ⟨[], (sortedHeadings content).map fun _ => .warn s!"Failed to create heading element: {cause}"⟩

end CodeAtlas.Outline
