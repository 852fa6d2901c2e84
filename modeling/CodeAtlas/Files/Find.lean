import CodeAtlas.Files.Tree
import CodeAtlas.Text.Wildcard

/-!
# Finding files by patterns

A pattern for paths has a part for each name on the way to a file. A part is a wildcard pattern for
one name; two stars alone stand for any folders on the way, and may not be combined with anything
else in one part.
-/

namespace CodeAtlas

open CodeAtlas.Text

/-- A part of a pattern for paths. -/
inductive PathPart where
  /-- Any folders on the way, or none. -/
  | folders
  /-- One name. -/
  | name (pattern : List Wildcard)

namespace PathPart

/-- A part from its text, if it is well formed. -/
def ofChars? (cs : List Char) : Option PathPart :=
  if cs = ['*', '*'] then some folders
  else if contains ['*', '*'] cs then none
  else some (name (fileWildcards cs))

def isFolders : PathPart → Bool
  | folders => true
  | name _ => false

end PathPart

/-- A pattern for paths, and whether it finds folders only. -/
structure PathPattern where
  parts : List PathPart
  foldersOnly : Bool

/-- A pattern for paths from its text. It fails if two stars are combined with something else. -/
def PathPattern.ofChars (cs : List Char) : Except Failure PathPattern :=
  let names := (pieces '/' cs).filter fun p => !p.isEmpty && p != ['.']
  match names.mapM PathPart.ofChars? with
  | some parts => .ok ⟨parts, cs.getLast? = some '/'⟩
  | none => .error .badPattern

/-- Keeps the first of several findings with one path. -/
def distinctFindings : List (Path × Tree) → List (Path × Tree)
  | [] => []
  | f :: fs => f :: (distinctFindings fs).filter fun g => g.1 != f.1

/-- What the parts of a pattern lead to from a place. On the way there are only folders. -/
def Tree.select : List PathPart → Path → Tree → List (Path × Tree)
  | [], path, tree => [(path, tree)]
  | .name pattern :: parts, path, tree =>
    (tree.entries.toList.filter fun e =>
      matchesWildcards pattern e.1 && (parts.isEmpty || !e.2.isFile)).flatMap fun e =>
        Tree.select parts (path.child e.1) e.2
  | .folders :: parts, path, tree =>
    let found := (tree.folders path).flatMap fun f => Tree.select parts f.1 (.folder f.2)
    if parts.any PathPart.isFolders then distinctFindings found else found

/-- The files anywhere below a folder that a pattern finds. -/
def Tree.filesLike (pattern : PathPattern) (path : Path) (tree : Tree) : List Path :=
  if pattern.foldersOnly then []
  else ((tree.select (.folders :: pattern.parts) path).filter fun f => f.2.isFile).map (·.1)

end CodeAtlas
