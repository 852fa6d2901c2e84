import CodeAtlas.Catalog.Query
import CodeAtlas.Decimal.Round
import CodeAtlas.Text.Blank
import CodeAtlas.Text.Case

/-!
# The architecture of a project

An overview of the modules, the components and the imports inside a project, with some numbers. How much
is shown depends on the level of detail, and on the area in focus.
-/

namespace CodeAtlas.Index

open CodeAtlas.Text

/-- Numbers about a project. -/
structure Metrics where
  elements : Nat
  files : Nat
  kinds : List (String × Nat)
  modules : Nat
  components : Nat
  relationships : Nat
  elementsPerFile : Float
  deriving Repr, Inhabited

/-- The overview of a project. The numbers are missing if the catalog cannot be read. -/
structure Overview where
  modules : List String := []
  components : List String := []
  relationships : List (String × List String) := []
  metrics : Option Metrics := none
  deriving Repr, Inhabited

/-- How much is shown. -/
inductive Detail where
  | low
  | medium
  | high
  /-- Everything that a high level shows, except for tests among components and imports. -/
  | other
  deriving Repr, DecidableEq, Inhabited

/-- The level of detail with a name. -/
def Detail.ofName (name : String) : Detail :=
  if name = "low" then .low
  else if name = "medium" then .medium
  else if name = "high" then .high
  else .other

/-- Whether a text contains one of several others. -/
def containsAny (parts : List String) (cs : List Char) : Bool :=
  parts.any fun p => contains p.toList cs

/-- Whether a file is there for tests or for finding errors. -/
def isAuxiliary (file : String) : Bool :=
  containsAny ["test", "debug", "diagnose"] (toLower file.toList)

/-- Whether a module is shown at a level of detail. -/
def showsModule (detail : Detail) (file : String) : Bool :=
  !isAuxiliary file &&
    match detail with
    | .low => containsAny ["contextbrain"] file.toList
    | .medium => containsAny ["contextbrain", "main", "config", "setup"] (toLower file.toList)
    | .high | .other => true

/-- Words in the names of classes that matter for the architecture. -/
def architecturalWords : List String :=
  ["engine", "store", "index", "server", "context", "watcher", "config", "manager", "handler",
    "processor"]

/-- Whether a class matters for the architecture. -/
def isComponent (name file : String) : Bool :=
  containsAny architecturalWords (toLower name.toList) ||
    containsAny ["contextbrain", "main", "config"] file.toList

/-- Whether a file is left out at a level of detail. -/
def isHidden (detail : Detail) (file : String) : Bool :=
  detail != .high && isAuxiliary file

/-- The files of all modules. -/
def moduleFiles (rows : List Row) : List String :=
  sortOn id (distinct ((rows.filter (·.kind == .module)).map (·.filePath)))

/-- The components that are shown. -/
def componentsIn (rows : List Row) (detail : Detail) : List String :=
  let classes := (rows.filter (·.kind == .classDef)).map fun r => (r.name, r.filePath)
  let shown := (sortOn (·.1) (distinct classes)).filter fun c =>
    isComponent c.1 c.2 && !isHidden detail c.2
  distinct (shown.map (·.1))

/-- The name of an import without the words that every import has. -/
def bareImport (name : String) : String :=
  String.ofList (trim (replace "import ".toList [] (replace "from ".toList [] name.toList)))

/-- The imports inside the project, file by file. -/
def relationshipsIn (rows : List Row) (detail : Detail) : List (String × List String) :=
  let inside := rows.filter fun r =>
    r.kind == .importing && isLike "%contextbrain%".toList r.name.toList
  let shown := (sortOn (·.filePath) inside).filter fun r => !isHidden detail r.filePath
  (distinct (shown.map (·.filePath))).map fun file =>
    (file, distinct ((shown.filter (·.filePath == file)).map fun r => bareImport r.name))

/-- Whether a text lies in the area in focus; without one everything does. -/
def inFocus (focus : String) (s : String) : Bool :=
  focus.isEmpty || contains (toLower focus.toList) (toLower s.toList)

/-- The overview of the rows of a catalog. -/
def overviewOf (rows : List Row) (focus : String) (detail : Detail) : Overview :=
  let modules := (moduleFiles rows).filter (showsModule detail)
  let components := componentsIn rows detail
  let relationships := relationshipsIn rows detail
  let files := (distinct (rows.map (·.filePath))).length
  { modules := modules.filter (inFocus focus)
    components := components.filter (inFocus focus)
    relationships := relationships.filter fun r => inFocus focus r.1
    metrics := some {
      elements := rows.length
      files := files
      kinds := tally (rows.map (·.kind.label))
      modules := modules.length
      components := components.length
      relationships := relationships.length
      elementsPerFile := Decimal.roundedQuotient rows.length (max files 1) } }

/-- The overview of a project. If the catalog cannot be read it is empty, and that is worth an
event. -/
def overview (c : Catalog) (focus : String) (detail : String) : Overview × Log :=
  match c.rows with
  | .ok rows => (overviewOf rows focus (Detail.ofName detail), [])
  | .error f => ({}, [.err s!"Failed to get architecture overview: {f.message}"])

end CodeAtlas.Index
