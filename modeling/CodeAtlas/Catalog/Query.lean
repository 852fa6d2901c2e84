import CodeAtlas.Catalog.Basic
import CodeAtlas.Text.Search
import CodeAtlas.Text.Wildcard

/-!
# Questions to the catalog

Searching for elements by kind, name and place, and counting them. The rows of an answer keep their
order in the table wherever no other order is asked for.
-/

namespace CodeAtlas

open CodeAtlas.Text

/-- Sorts by a key; equal keys keep their order. -/
def sortOn {α β : Type} [LE β] [DecidableLE β] (key : α → β) (xs : List α) : List α :=
  xs.mergeSort fun a b => decide (key a ≤ key b)

/-- The distinct values of a list, each at its first place. -/
def distinct {α : Type} [BEq α] (xs : List α) : List α :=
  xs.eraseDups

/-- How often each text occurs, in the order of the texts. -/
def tally (xs : List String) : List (String × Nat) :=
  (sortOn id (distinct xs)).map fun x => (x, xs.count x)

namespace Catalog

/-! ### Searching -/

/-- The most rows that a search looks at. -/
def searchLimit : Nat := 50

/-- The database pattern for a name: stars and question marks are its wildcards, and a text without any
may stand anywhere in the name. -/
def namePattern (pattern : List Char) : List Char :=
  let converted := pattern.map fun c => if c = '*' then '%' else if c = '?' then '_' else c
  if pattern.contains '*' || pattern.contains '?' then converted else '%' :: converted ++ ['%']

/-- The pattern for texts that contain another. -/
def containing (text : List Char) : List Char :=
  '%' :: text ++ ['%']

/-- Whether a row answers a search. An empty scope is no restriction. -/
def isWanted (kind : String) (pattern : List Char) (scope : List Char) (r : Row) : Bool :=
  r.kind.label == kind && isLike (namePattern pattern) r.name.toList &&
    (scope.isEmpty || isLike (containing scope) r.filePath.toList)

/-- Whether a row comes before another in an answer: its path is longer, or as long and its name comes
first. -/
def precedes (a b : Row) : Bool :=
  let la := (beforeNull a.filePath.toList).length
  let lb := (beforeNull b.filePath.toList).length
  lb < la || (la == lb && decide (a.name ≤ b.name))

/-- Whether two rows show the same to a reader. -/
def sameShown (a b : Row) : Bool :=
  a.name == b.name && a.kind == b.kind && a.content == b.content

/-- Keeps the first of the rows that show the same. -/
def firstShown : List Row → List Row
  | [] => []
  | r :: rs => r :: (firstShown rs).filter fun s => !sameShown r s

/-- The rows that answer a search, in order, before those that show the same are taken together. -/
def candidates (rows : List Row) (kind : String) (pattern scope : List Char) : List Row :=
  ((rows.filter (isWanted kind pattern scope)).mergeSort precedes).take searchLimit

/-- The elements that answer a search. A closed catalog has none; if the search fails, the failure is
worth an event. -/
def search (c : Catalog) (kind : String) (pattern scope : List Char) : List Element × Log :=
  if c.tables.isNone then ([], [])
  else
    match c.rows with
    | .ok rows => ((firstShown (candidates rows kind pattern scope)).map Row.toElement, [])
    | .error f => ([], [.err s!"Structural search failed: {f.message}"])

/-! ### Counting -/

/-- What is known about a catalog as a whole. -/
inductive Stats where
  | closed
  | failed (cause : String)
  | counts (total : Nat) (byKind byLanguage : List (String × Nat))
  deriving Repr, DecidableEq, Inhabited

/-- The number of elements. -/
def Stats.total : Stats → Nat
  | .counts total _ _ => total
  | _ => 0

/-- Counts the elements, by kind and by language. -/
def stats (c : Catalog) : Stats × Log :=
  if c.tables.isNone then (.closed, [])
  else
    match c.rows with
    | .ok rows =>
      (.counts rows.length (tally (rows.map (·.kind.label))) (tally (rows.map (·.language))), [])
    | .error f => (.failed f.message, [.err s!"Failed to get stats: {f.message}"])

end Catalog

end CodeAtlas
