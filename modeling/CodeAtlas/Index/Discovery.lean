import CodeAtlas.Files.Find

/-!
# Which files are indexed

The files of a folder and of the folders inside it whose names end in one of the extensions, unless
their paths contain an excluded part. They are listed extension by extension, and for each extension
folder by folder. An extension is a pattern and may contain wildcards.
-/

namespace CodeAtlas.Index

open CodeAtlas.Text

/-- Parts of a path that keep a file out of the index. -/
def commonExclusions : List (List Char) :=
  ["__pycache__", ".git", "venv", "node_modules"].map String.toList

/-- Whether a file is kept out of the index: its path contains a pattern, or one of the common
exclusions. -/
def isExcluded (patterns : List (List Char)) (path : Path) : Bool :=
  (patterns ++ commonExclusions).any fun p => contains p path.chars

/-- The pattern that finds the files with an extension. -/
def extensionPattern (extension : List Char) : Except Failure PathPattern :=
  PathPattern.ofChars ('*' :: extension)

/-- The files below a folder that are indexed. Nothing is found in a folder that does not exist. -/
def discover (extensions : List (List Char)) (patterns : List (List Char)) (path : Path)
    (tree : Option Tree) : Except Failure (List Path) := do
  let wanted ← extensions.mapM extensionPattern
  return wanted.flatMap fun p =>
    (tree.toList.flatMap (Tree.filesLike p path)).filter fun f => !isExcluded patterns f

end CodeAtlas.Index
