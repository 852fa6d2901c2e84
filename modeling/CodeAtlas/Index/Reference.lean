import CodeAtlas.Text.Search
import CodeAtlas.Text.Blank

/-!
# References to files and modules

Stored paths use backslashes and have no `./`. A module is named by the path of its file with dots
for the separators; which module an import refers to is read off the text of the import.
-/

namespace CodeAtlas.Index

open CodeAtlas.Text

/-- The stored form of a path. -/
def normalizePath (cs : List Char) : List Char :=
  (replace ['.', '/'] [] cs).map fun c => if c = '/' then '\\' else c

/-- The module that a file holds. -/
def moduleOfPath (cs : List Char) : List Char :=
  ((replace ".py".toList [] cs).map fun c => if c = '\\' ∨ c = '/' then '.' else c).dropWhile
    (· == '.')

/-- The file that a module is in. -/
def pathOfModule (cs : List Char) : List Char :=
  cs.map (fun c => if c = '.' then '/' else c) ++ ".py".toList

/-- The beginnings of the names of modules that belong to the project itself. -/
def internalPrefixes : List (List Char) :=
  ["contextbrain".toList, ".".toList, "main".toList]

/-- Whether a module belongs to the project. -/
def isInternal (cs : List Char) : Bool :=
  internalPrefixes.any (·.isPrefixOf cs)

/-- The module that an import statement reads from, if the statement's text shows it: the second word,
cut at its first dot where whole modules are imported. -/
def moduleInStatement? (content : List Char) : Option (List Char) :=
  if "from ".toList.isPrefixOf content then (words content)[1]?
  else if "import ".toList.isPrefixOf content then
    ((words content)[1]?).map (·.takeWhile (· ≠ '.'))
  else none

/-- The module in the name of an import element: its last word if the name says `import`. -/
def moduleInName (name : List Char) : List Char :=
  if contains "import".toList name then ((words name).getLast?).getD name else name

/-- The module that an import refers to. -/
def importedModule (name content : List Char) : List Char :=
  (moduleInStatement? content).getD (moduleInName name)

end CodeAtlas.Index
