import CodeAtlas.Element
import CodeAtlas.Failure

/-!
# The catalog of elements

The catalog keeps the stored elements in one table and the dependencies between them in another. A row
of the first table is found by its identifier; storing an element again takes its old row away and puts
the new one at the end. Rows of the second table are numbered and only ever added.

What is stored since the last commit is seen at once, but lost if the catalog is closed before the next
commit.
-/

namespace CodeAtlas

/-- A row of the table of elements. -/
structure Row where
  id : String
  kind : ElementKind
  name : String
  content : String
  filePath : String
  lineStart : Int
  lineEnd : Int
  language : String
  complexity : Option Int
  linesOfCode : Option Int
  author : Option String
  deriving Repr, DecidableEq, Inhabited

/-- A row of the table of dependencies. -/
structure DependencyRow where
  number : Nat
  source : String
  target : String
  label : String := "import"
  deriving Repr, DecidableEq, Inhabited

/-- The tables. A table that was dropped is missing; `lastNumber` is the last number given to a row of
the table of dependencies. -/
structure Tables where
  elements : Option (List Row) := some []
  dependencies : Option (List DependencyRow) := some []
  lastNumber : Nat := 0
  deriving Repr, DecidableEq, Inhabited

namespace Row

/-- The row of an element. -/
def ofElement (e : Element) : Row :=
  { id := e.id
    kind := e.kind
    name := e.name
    content := e.content
    filePath := e.filePath
    lineStart := e.location.lineStart
    lineEnd := e.location.lineEnd
    language := e.metadata.language
    complexity := e.metadata.complexity
    linesOfCode := e.metadata.linesOfCode
    author := e.metadata.author }

/-- The element of a row. -/
def toElement (r : Row) : Element :=
  { id := r.id
    kind := r.kind
    name := r.name
    content := r.content
    filePath := r.filePath
    location := { lineStart := r.lineStart, lineEnd := r.lineEnd }
    metadata := {
      language := if r.language.isEmpty then "unknown" else r.language
      complexity := r.complexity
      linesOfCode := r.linesOfCode
      author := r.author } }

/-- Whether a number fits into a table. -/
def fits (n : Int) : Bool :=
  -9223372036854775808 ≤ n && n ≤ 9223372036854775807

/-- Whether all numbers of a row fit into a table. -/
def storable (r : Row) : Bool :=
  fits r.lineStart && fits r.lineEnd && r.complexity.all fits && r.linesOfCode.all fits

end Row

namespace Tables

/-- Puts a row at the end, instead of one with the same identifier. -/
def upsertRow (r : Row) (rows : List Row) : List Row :=
  rows.filter (·.id != r.id) ++ [r]

/-- Adds a dependency. -/
def addDependency (source : String) (t : Tables) (target : String) : Except Failure Tables :=
  match t.dependencies with
  | none => .error (.noTable "dependencies")
  | some deps =>
    .ok { t with
      dependencies := some (deps ++ [⟨t.lastNumber + 1, source, target, "import"⟩])
      lastNumber := t.lastNumber + 1 }

/-- Adds dependencies up to the first that fails; the tables are those at that point. -/
def addDependencies (source : String) : List String → Tables → Except Failure Unit × Tables
  | [], t => (.ok (), t)
  | target :: targets, t =>
    match t.addDependency source target with
    | .error f => (.error f, t)
    | .ok t' => addDependencies source targets t'

/-- Stores an element, then its dependencies. -/
def storeOne (e : Element) (t : Tables) : Except Failure Unit × Tables :=
  match t.elements with
  | none => (.error (.noTable "elements"), t)
  | some rows =>
    let r := Row.ofElement e
    if r.storable then
      addDependencies e.id e.dependencies { t with elements := some (upsertRow r rows) }
    else (.error .tooLarge, t)

/-- Stores elements up to the first that fails; the tables are those at that point. -/
def storeAll : List Element → Tables → Except Failure Unit × Tables
  | [], t => (.ok (), t)
  | e :: es, t =>
    match storeOne e t with
    | (.error f, t') => (.error f, t')
    | (.ok _, t') => storeAll es t'

/-- Makes the tables that are missing. -/
def create (t : Tables) : Tables :=
  { elements := some (t.elements.getD [])
    dependencies := some (t.dependencies.getD [])
    lastNumber := if t.dependencies.isSome then t.lastNumber else 0 }

/-- Drops a table. -/
def drop (t : Tables) (name : String) : Except Failure Tables :=
  if name = "elements" ∧ t.elements.isSome then .ok { t with elements := none }
  else if name = "dependencies" ∧ t.dependencies.isSome then
    .ok { t with dependencies := none, lastNumber := 0 }
  else .error (.noTable name)

end Tables

/-- Where a catalog is kept. -/
inductive Storage where
  /-- In memory, until it is closed. -/
  | memory
  /-- In a file. -/
  | file
  /-- In a file that cannot be opened. -/
  | unopenable
  deriving Repr, DecidableEq, Inhabited

/-- A catalog: where it is kept, what was committed there, and the tables as they are seen while it is
open. -/
structure Catalog where
  storage : Storage := .memory
  committed : Tables := {}
  tables : Option Tables := none
  deriving Repr, DecidableEq, Inhabited

namespace Catalog

/-- Opens a catalog and makes the tables that are missing. What was not committed is lost. -/
def init (c : Catalog) : Except Failure Catalog :=
  match c.storage with
  | .unopenable => .error .cannotOpen
  | .memory => .ok { c with tables := some (Tables.create {}) }
  | .file =>
    let t := c.committed.create
    .ok { c with committed := t, tables := some t }

/-- Closes a catalog. -/
def close (c : Catalog) : Catalog :=
  { c with tables := none }

/-- Commits what was done. -/
def commit (c : Catalog) : Catalog :=
  match c.tables with
  | some t => { c with committed := t }
  | none => c

/-- What happens to a catalog that is used while it is closed. -/
def closed : Failure :=
  .noMember "NoneType" "cursor"

/-- The rows of the table of elements. -/
def rows (c : Catalog) : Except Failure (List Row) :=
  match c.tables with
  | none => .error closed
  | some t =>
    match t.elements with
    | some rows => .ok rows
    | none => .error (.noTable "elements")

/-- The rows of the table of dependencies. -/
def dependencyRows (c : Catalog) : Except Failure (List DependencyRow) :=
  match c.tables with
  | none => .error closed
  | some t =>
    match t.dependencies with
    | some deps => .ok deps
    | none => .error (.noTable "dependencies")

/-- Stores elements and commits. Where storing fails, what was stored before stays without a
commit. -/
def store (c : Catalog) (es : List Element) : Except Failure Unit × Catalog :=
  if es.isEmpty then (.ok (), c)
  else
    match c.tables with
    | none => (.error closed, c)
    | some t =>
      match t.storeAll es with
      | (.ok _, t') => (.ok (), { c with committed := t', tables := some t' })
      | (.error f, t') => (.error f, { c with tables := some t' })

/-- Drops a table and commits. -/
def dropTable (c : Catalog) (name : String) : Except Failure Catalog :=
  match c.tables with
  | none => .error (.noMember "NoneType" "execute")
  | some t => (t.drop name).map fun t' => { c with committed := t', tables := some t' }

/-- Takes rows away: the elements and, if their table is there, the dependencies that are not kept.
Tells how many elements it took. -/
def deleteWhere (c : Catalog) (element : Row → Bool) (dependency : DependencyRow → Bool) :
    Nat × Catalog :=
  match c.tables with
  | none => (0, c)
  | some t =>
    ((t.elements.getD []).countP element, { c with tables := some { t with
      elements := t.elements.map (·.filter fun r => !element r)
      dependencies := t.dependencies.map (·.filter fun d => !dependency d) } })

end Catalog

end CodeAtlas
