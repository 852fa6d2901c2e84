import CodeAtlas.Failure
import CodeAtlas.Path
import CodeAtlas.Text.Decode

/-!
# Trees of files

A folder holds its entries in the order of their names. Paths lead through a tree from its root; the
name that means "up" leads back to the folder before.
-/

namespace CodeAtlas

open CodeAtlas.Text

mutual

/-- A file with its bytes, or a folder with its entries. -/
inductive Tree where
  | file (bytes : List UInt8)
  | folder (entries : Entries)

/-- The entries of a folder. -/
inductive Entries where
  | nil
  | cons (name : List Char) (tree : Tree) (rest : Entries)

end

instance : Inhabited Tree := ⟨.folder .nil⟩

namespace Entries

/-- The entries as a list. -/
def toList : Entries → List (List Char × Tree)
  | nil => []
  | cons name tree rest => (name, tree) :: rest.toList

/-- The entry with a name. -/
def find? (name : List Char) : Entries → Option Tree
  | nil => none
  | cons n t rest => if n = name then some t else rest.find? name

/-- Puts an entry at its place, instead of one with the same name. -/
def put (name : List Char) (tree : Tree) : Entries → Entries
  | nil => cons name tree nil
  | cons n t rest =>
    if n = name then cons name tree rest
    else if name < n then cons name tree (cons n t rest)
    else cons n t (rest.put name tree)

/-- Takes away the entry with a name. -/
def erase (name : List Char) : Entries → Entries
  | nil => nil
  | cons n t rest => if n = name then rest else cons n t (rest.erase name)

end Entries

namespace Tree

def empty : Tree := folder .nil

def isFile : Tree → Bool
  | file _ => true
  | folder _ => false

/-- The entries of a folder; a file has none. -/
def entries : Tree → Entries
  | file _ => .nil
  | folder es => es

/-- Follows names from a place; `above` are the folders on the way to it, the nearest first. -/
def follow (above : List Tree) (here : Tree) : List (List Char) → Option Tree
  | [] => some here
  | name :: names =>
    match here with
    | file _ => none
    | folder es =>
      if name = ['.', '.'] then
        match above with
        | [] => follow [] here names
        | t :: ts => follow ts t names
      else
        match es.find? name with
        | some t => follow (here :: above) t names
        | none => none

/-- What an absolute path leads to. -/
def get? (t : Tree) (p : Path) : Option Tree :=
  t.follow [] p.parts

/-- Puts a tree at the end of names; missing folders are made, and a file on the way gives way to a
folder. -/
def putAt (new : Tree) : List (List Char) → Tree → Tree
  | [], _ => new
  | name :: names, here =>
    let below := (here.entries.find? name).getD empty
    folder (here.entries.put name (putAt new names below))

/-- Makes the folders on a path that are not there. -/
def makeFolders : List (List Char) → Tree → Tree
  | [], here => folder here.entries
  | name :: names, here =>
    let below := (here.entries.find? name).getD empty
    folder (here.entries.put name (makeFolders names below))

/-- Takes away what is at the end of names. -/
def eraseAt : List (List Char) → Tree → Tree
  | [], here => here
  | [name], here => folder (here.entries.erase name)
  | name :: names, here =>
    match here.entries.find? name with
    | some t => folder (here.entries.put name (eraseAt names t))
    | none => here

/-- Whether a file stands on the way to the end of names. -/
def blocked (here : Tree) : List (List Char) → Bool
  | [] => false
  | name :: names =>
    match here with
    | file _ => true
    | folder es =>
      match es.find? name with
      | some t => blocked t names
      | none => false

end Tree

/-- A tree of files with a working directory. -/
structure Disk where
  root : Tree
  cwd : Path

namespace Disk

/-- A disk with nothing but an empty working directory. -/
def new (cwd : Path) : Disk :=
  ⟨Tree.makeFolders cwd.parts .empty, cwd⟩

/-- What a path leads to from the working directory. -/
def get? (d : Disk) (p : Path) : Option Tree :=
  d.root.get? (d.cwd.append p)

def isFile (d : Disk) (p : Path) : Bool :=
  match d.get? p with
  | some t => t.isFile
  | none => false

/-- The names that lead to a path from the root. -/
def names (d : Disk) (p : Path) : List (List Char) :=
  (Path.resolve d.cwd p).parts

/-- Makes a folder, with those that lead to it, also those that the path leaves again. -/
def makeFolder (d : Disk) (p : Path) : Disk :=
  { d with root := p.steps.foldl (fun t q => Tree.makeFolders (d.names q) t) d.root }

/-- Writes a file, with the folders that lead to it. -/
def write (d : Disk) (p : Path) (bytes : List UInt8) : Disk :=
  { d with root := Tree.putAt (.file bytes) (d.names p) (d.makeFolder p.parent).root }

/-- Takes away a file or folder. -/
def erase (d : Disk) (p : Path) : Disk :=
  { d with root := Tree.eraseAt (d.names p) d.root }

/-- Reads a file as a text. -/
def read (d : Disk) (p : Path) : Except Failure (List Char) :=
  match d.get? p with
  | some (.file bytes) => .ok (unifyLineEnds (decode bytes))
  | some (.folder _) => .error (.isDirectory p.toString)
  | none =>
    if d.root.blocked (d.names p) then .error (.notDirectory p.toString)
    else .error (.noFile p.toString)

end Disk

mutual

/-- The folders of a tree, each with its path, an outer one before those inside it. -/
def Tree.folders (path : Path) : Tree → List (Path × Entries)
  | .file _ => []
  | .folder es => (path, es) :: es.folders path

/-- The folders inside entries. -/
def Entries.folders (path : Path) : Entries → List (Path × Entries)
  | .nil => []
  | .cons name t rest => t.folders (path.child name) ++ rest.folders path

end

end CodeAtlas
