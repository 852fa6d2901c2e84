import CodeAtlas.Catalog.Query
import CodeAtlas.Index.Reference

/-!
# Dependencies between files

What a file imports, and which files import it. The imports of a file are read off its import elements;
a file imports another if the text of one of its imports mentions the module or the path of the other.
-/

namespace CodeAtlas.Index

open CodeAtlas.Text

/-- What is known about the dependencies of a file. -/
structure DependencyAnalysis where
  target : String
  dependencies : List String := []
  dependents : List String := []
  depth : Int
  external : List String := []
  deriving Repr, DecidableEq, Inhabited

def isInternalModule (m : String) : Bool :=
  isInternal m.toList

/-- The distinct names and texts of the imports of a file, in the order of the names. -/
def importsOf (rows : List Row) (file : String) : List (String × String) :=
  let found := rows.filter fun r => r.filePath == file && r.kind == .importing
  sortOn (·.1) (distinct (found.map fun r => (r.name, r.content)))

/-- The modules that a file imports. -/
def importedModules (rows : List Row) (file : String) : List String :=
  ((importsOf rows file).map fun i => String.ofList (importedModule i.1.toList i.2.toList)).filter
    fun m => !m.isEmpty

/-- Whether an import mentions a text. -/
def mentions (text : List Char) (r : Row) : Bool :=
  isLike (Catalog.containing text) r.name.toList || isLike (Catalog.containing text) r.content.toList

/-- The other files that import a file, given by its path and its stored path. -/
def dependentsOf (rows : List Row) (target stored : String) : List String :=
  let module := moduleOfPath stored.toList
  if module.isEmpty then []
  else
    let found := rows.filter fun r => r.kind == .importing &&
      (mentions module r || mentions target.toList r) && r.filePath != stored
    sortOn id (distinct (found.map (·.filePath)))

/-- The dependencies of a file among the rows of a catalog. -/
def dependenciesIn (rows : List Row) (target : String) (depth : Int) (external : Bool) :
    DependencyAnalysis :=
  let stored := String.ofList (normalizePath target.toList)
  let modules := importedModules rows stored
  let wanted := distinct (modules.filter fun m => external || isInternalModule m)
  { target := target
    dependencies := if external then wanted else wanted.filter isInternalModule
    dependents := dependentsOf rows target stored
    depth := depth
    external := wanted.filter fun m => !isInternalModule m }

/-- The dependencies of a file. If the catalog cannot be read, nothing is known, and that is worth an
event. -/
def analyzeDependencies (c : Catalog) (target : String) (depth : Int := 2) (external : Bool := false) :
    DependencyAnalysis × Log :=
  match c.rows with
  | .ok rows => (dependenciesIn rows target depth external, [])
  | .error f =>
    ({ target := target, depth := depth },
      [.err s!"Failed to analyze dependencies for {target}: {f.message}"])

end CodeAtlas.Index
