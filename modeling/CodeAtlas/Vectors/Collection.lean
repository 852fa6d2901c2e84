import CodeAtlas.Element
import CodeAtlas.Value

/-!
# Collections of vectors

A collection keeps vectors under identifiers, each with the text and the facts of the element that it
stands for. A new vector goes to the end; one under a known identifier takes the place of the old one.
-/

namespace CodeAtlas

/-- A vector with what it stands for. -/
structure Entry where
  id : String
  embedding : List Float
  document : String
  kind : ElementKind
  name : String
  filePath : String
  language : String
  lineStart : Int
  lineEnd : Int
  complexity : Option Int := none
  linesOfCode : Option Int := none
  author : Option String := none
  deriving Repr, Inhabited

namespace Entry

/-- The entry of an element that has an embedding. Facts that are zero or empty are left out. -/
def ofElement? (e : Element) : Option Entry :=
  match e.embedding with
  | none | some [] => none
  | some embedding =>
    some {
      id := e.id
      embedding := embedding
      document := e.content
      kind := e.kind
      name := e.name
      filePath := e.filePath
      language := e.metadata.language
      lineStart := e.location.lineStart
      lineEnd := e.location.lineEnd
      complexity := e.metadata.complexity.filter (· != 0)
      linesOfCode := e.metadata.linesOfCode.filter (· != 0)
      author := e.metadata.author.filter (!·.isEmpty) }

/-- The facts kept beside a vector; those that are left out have no field. -/
def facts (e : Entry) : Value :=
  .object ([("type", .text e.kind.label), ("name", .text e.name), ("file_path", .text e.filePath),
    ("language", .text e.language), ("line_start", .int e.lineStart), ("line_end", .int e.lineEnd)] ++
    (e.complexity.toList.map fun n => ("complexity", .int n)) ++
    (e.linesOfCode.toList.map fun n => ("lines_of_code", .int n)) ++
    (e.author.toList.map fun a => ("author", .text a)))

/-- The element of an entry. -/
def toElement (e : Entry) : Element :=
  { id := e.id
    kind := e.kind
    name := e.name
    content := e.document
    filePath := e.filePath
    location := { lineStart := e.lineStart, lineEnd := e.lineEnd }
    metadata := {
      language := e.language
      complexity := e.complexity
      linesOfCode := e.linesOfCode
      author := e.author } }

end Entry

/-- A collection, in the order in which its identifiers came in. -/
abbrev Collection := List Entry

namespace Collection

/-- Puts an entry in the place of the one with its identifier, or at the end. -/
def upsert (c : Collection) (e : Entry) : Collection :=
  match c with
  | [] => [e]
  | d :: rest => if d.id = e.id then e :: rest else d :: upsert rest e

/-- Puts entries in, one after the other. Of a batch in which an identifier is repeated it is assumed that
the database takes it in its order, so that the last entry with the identifier stays. -/
def upsertAll (c : Collection) (es : List Entry) : Collection :=
  es.foldl upsert c

/-- Takes away the entries with the given identifiers. -/
def deleteAll (c : Collection) (ids : List String) : Collection :=
  c.filter fun e => !ids.contains e.id

end Collection

end CodeAtlas
