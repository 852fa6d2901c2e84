import CodeAtlas.Batch
import CodeAtlas.Index.Dependencies
import CodeAtlas.Decimal.Text

/-!
# The context of a file

A short account of a file: what it holds, what it depends on, and which files are related to it. How
much is told depends on the size that is asked for.
-/

namespace CodeAtlas.Index

open CodeAtlas.Text

/-- An element in the account of a file. -/
structure ElementLine where
  kind : ElementKind
  name : String
  lineStart : Int
  lineEnd : Int
  deriving Repr, DecidableEq, Inhabited

/-- The account of a file. -/
structure FileContext where
  file : String
  text : String
  related : List String := []
  dependencies : List String := []
  elements : List ElementLine := []
  deriving Repr, DecidableEq, Inhabited

/-- The digits of an integer. -/
def integer (n : Int) : String :=
  String.ofList (Decimal.intDigits n)

/-- The names of the rows of one kind; of a list that is too long, how many more there are. -/
def namesText (size : Int) (kind : ElementKind) (names : List String) : String :=
  if (names.length : Int) ≤ size then kind.label ++ "s: " ++ ", ".intercalate names
  else
    kind.label ++ "s: " ++ ", ".intercalate (leading size names) ++ " and " ++
      integer (names.length - size) ++ " more"

/-- What a file holds, kind by kind. -/
def contentsText (size : Int) (rows : List Row) : String :=
  "; ".intercalate ((distinct (rows.map (·.kind))).map fun kind =>
    namesText size kind ((rows.filter (·.kind == kind)).map (·.name)))

/-- The rows of a file by their lines. -/
def rowsOfFile (rows : List Row) (file : String) : List Row :=
  sortOn (·.lineStart) (rows.filter (·.filePath == file))

/-- The files with an import that mentions a path. -/
def mentioningFiles (rows : List Row) (stored : String) : List String :=
  distinct ((rows.filter fun r =>
    r.kind == .importing && mentions stored.toList r && r.filePath != stored).map (·.filePath))

/-- At most `size` items; a negative size is no limit. -/
def limited {α : Type} (size : Int) (xs : List α) : List α :=
  if size < 0 then xs else xs.take size.toNat

def elementLine (r : Row) : ElementLine :=
  ⟨r.kind, r.name, r.lineStart, r.lineEnd⟩

/-- The account of a file of which the catalog has rows. -/
def describeFile (rows found : List Row) (file stored : String) (size : Int) (withDependencies : Bool) :
    FileContext :=
  let analysis := dependenciesIn rows stored 1 false
  let dependencies := if withDependencies then analysis.dependencies else []
  let dependents := if withDependencies then analysis.dependents else []
  { file := file
    text := contentsText size found
    related := leading size (distinct (dependents ++ limited size (mentioningFiles rows stored)))
    dependencies := leading size dependencies
    elements := (leading (size * 2) found).map elementLine }

/-- The account of a file. If the catalog cannot answer, the account says why, and that is worth an
event. -/
def fileContext (c : Catalog) (file : String) (size : Int := 5) (withDependencies : Bool := true) :
    FileContext × Log :=
  let failed := fun (f : Failure) =>
    ({ file := file, text := s!"Error getting context: {f.message}" },
      [.err s!"Failed to get file context for {file}: {f.message}"])
  let stored := String.ofList (normalizePath file.toList)
  match c.rows with
  | .error f => failed f
  | .ok rows =>
    let found := rowsOfFile rows stored
    if found.isEmpty then ({ file := file, text := s!"File {file} not found in index" }, [])
    else if Row.fits size then (describeFile rows found file stored size withDependencies, [])
    else failed .tooLarge

end CodeAtlas.Index
