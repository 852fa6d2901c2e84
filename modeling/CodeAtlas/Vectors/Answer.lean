import CodeAtlas.Schema.Records
import CodeAtlas.Value.Text

/-!
# Answers to a search

What a search makes of the answer of the vector database. The distance of an entry becomes a score
between zero and one, and entries below a threshold are left out. An answer of unknown shape is gone
through step by step, and fails where the first thing is missing or of the wrong type.
-/

namespace CodeAtlas

/-- One result of a search. Scores can be numbers of any kind. -/
structure SearchResult (α : Type := Float) where
  element : Element
  score : α
  snippet : String
  deriving Repr, Inhabited

namespace SearchResult

/-- How much of a text a snippet shows. -/
def snippetLimit : Nat := 200

/-- The beginning of a text. -/
def snippetOf (document : List Char) : List Char :=
  if snippetLimit < document.length then document.take snippetLimit ++ "...".toList else document

/-- The score for a distance: one less the distance, kept between zero and one. Any numbers with an order
can be distances. -/
def scoreOf {α : Type} [OfNat α 0] [OfNat α 1] [Sub α] [LT α] [DecidableLT α] (distance : α) : α :=
  let similarity := 1 - distance
  let positive := if 0 < similarity then similarity else 0
  if positive < 1 then positive else 1

end SearchResult

/-! ### Items of a value -/

namespace Value

/-- The item under a name. -/
def entry (v : Value) (name : String) : Except Failure Value :=
  match v with
  | .object fields =>
    match fields.find? (·.1 == name) with
    | some (_, w) => .ok w
    | none => .error (.noKey (Failure.quotedText name))
  | .list _ => .error (.badIndex "list indices must be integers or slices, not str")
  | .text _ => .error (.badIndex "string indices must be integers, not 'str'")
  | v => .error (.notIndexable v.typeName)

/-- The item at a position. -/
def item (v : Value) (i : Nat) : Except Failure Value :=
  match v with
  | .list items =>
    match items[i]? with
    | some w => .ok w
    | none => .error .outOfRange
  | .text s =>
    match s.toList[i]? with
    | some c => .ok (.text c.toString)
    | none => .error .outOfText
  | .object _ => .error (.noKey (String.ofList (Decimal.natDigits i)))
  | v => .error (.notIndexable v.typeName)

/-- The items of a value, one by one. -/
def eachItem : Value → Except Failure (List Value)
  | .list items => .ok items
  | .text s => .ok (s.toList.map fun c => .text c.toString)
  | .object fields => .ok (fields.map fun f => .text f.1)
  | v => .error (.notIterable v.typeName)

/-- A number as a distance. -/
def distance : Value → Except Failure Float
  | .int n => .ok (Float.ofInt n)
  | .float x => .ok x
  | .bool b => .ok (if b then 1.0 else 0.0)
  | v => .error (.noOperator "-" "int" v.typeName)

/-- The length of a value. -/
def length : Value → Except Failure Nat
  | .text s => .ok s.length
  | .list items => .ok items.length
  | .object fields => .ok fields.length
  | v => .error (.noLength v.typeName)

end Value

/-! ### Answers of unknown shape -/

namespace SearchResult

/-- The number of a checked field. -/
def intField (v : Value) (name : String) : Option Int :=
  (v.field? name).bind Schema.intOf?

def textField (v : Value) (name : String) : Option String :=
  (v.field? name).bind Value.text?

/-- The element of a checked record. -/
def elementOf (v location metadata : Value) (kind : ElementKind) : Element :=
  { id := (textField v "id").getD ""
    kind := kind
    name := (textField v "name").getD ""
    content := (textField v "content").getD ""
    filePath := (textField v "file_path").getD ""
    location := {
      lineStart := (intField location "line_start").getD 0
      lineEnd := (intField location "line_end").getD 0 }
    metadata := {
      language := (textField metadata "language").getD ""
      complexity := intField metadata "complexity"
      linesOfCode := intField metadata "lines_of_code"
      author := textField metadata "author" } }

/-- The kind that a value names. -/
def kindOf (v : Value) : Except Failure ElementKind :=
  match v with
  | .text s =>
    match ElementKind.ofLabel? s with
    | some kind => .ok kind
    | none => .error (.unknownKind v.written)
  | v => .error (.unknownKind v.written)

/-- A fact that may be missing. -/
def factOf (facts : Value) (name : String) : Value :=
  (facts.field? name).getD .null

/-- The element that an identifier, facts and a text describe. -/
def readElement (id facts document : Value) : Except Failure Element := do
  let kind ← kindOf (← facts.entry "type")
  let name ← facts.entry "name"
  let filePath ← facts.entry "file_path"
  let lineStart ← facts.entry "line_start"
  let lineEnd ← facts.entry "line_end"
  let location ← Schema.location.readAs "SourceLocation"
    (.object [("line_start", lineStart), ("line_end", lineEnd)])
  let language ← facts.entry "language"
  let metadata ← Schema.metadata.readAs "ElementMetadata"
    (.object [("language", language), ("complexity", factOf facts "complexity"),
      ("lines_of_code", factOf facts "lines_of_code"), ("author", factOf facts "author")])
  let element ← Schema.element.readAs "CodeElement"
    (.object [("id", id), ("type", .text kind.label), ("name", name), ("content", document),
      ("file_path", filePath), ("location", location), ("metadata", metadata)])
  return elementOf element location metadata kind

variable {α : Type} [OfNat α 0] [OfNat α 1] [Sub α] [LT α] [DecidableLT α] [LE α] [DecidableLE α]

/-- The result at a position of an answer, if its score reaches the threshold; `measure` reads a value as
a distance. -/
def readResult (measure : Value → Except Failure α) (answer id : Value) (threshold : α) (i : Nat) :
    Except Failure (Option (SearchResult α)) := do
  let distance ← measure (← (← (← answer.entry "distances").item 0).item i)
  let score := scoreOf distance
  if score ≥ threshold then
    let facts ← (← (← answer.entry "metadatas").item 0).item i
    let document ← (← (← answer.entry "documents").item 0).item i
    let element ← readElement id facts document
    let _ ← document.length
    return some ⟨element, score, String.ofList (snippetOf (document.text?.getD "").toList)⟩
  else return none

/-- The results of an answer of unknown shape. -/
def readAnswer (measure : Value → Except Failure α) (answer : Value) (threshold : α) :
    Except Failure (List (SearchResult α)) := do
  let ids ← answer.entry "ids"
  if ids.truthy then
    let first ← ids.item 0
    if first.truthy then
      (← first.eachItem).zipIdx.filterMapM fun (id, i) => readResult measure answer id threshold i
    else return []
  else return []

end SearchResult

end CodeAtlas
