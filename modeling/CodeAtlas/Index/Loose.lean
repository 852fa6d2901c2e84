import CodeAtlas.Failure
import CodeAtlas.Index.Reference
import CodeAtlas.Index.Summary
import CodeAtlas.Value

/-!
# Calls with untyped arguments

The helpers of the indexer as a client may call them, with any value where a text is due. Some of them
answer for such values, the others fail in the way their first use of the text fails.
-/

namespace CodeAtlas.Index.Loose

open CodeAtlas.Text

/-- A text value. -/
def ofChars (cs : List Char) : Value :=
  .text (String.ofList cs)

/-- The member of a value that is not a text. -/
def lacks (v : Value) (member : String) : Failure :=
  .noMember v.typeName member

/-- The description of an element; nothing for a value that is not a text. -/
def description : Value → Value
  | .text s => ofChars (Index.description s.toList)
  | _ => .text ""

/-- The methods of a class; none for a value that is not a text. -/
def methodNames : Value → Value
  | .text s => .list ((Index.methodNames s.toList).map ofChars)
  | _ => .list []

/-- The parameters of a function. A list can be searched for parentheses but has no parameters. -/
def parameterNames : Value → Except Failure Value
  | .text s => .ok (.list ((Index.parameterNames s.toList).map ofChars))
  | .list _ | .object _ => .ok (.list [])
  | v => .error (.notSearchable v.typeName)

/-- The telling lines of a text; of a list its first hundred items. -/
def tellingLines : Value → Except Failure Value
  | .text s => .ok (ofChars (Index.tellingLines s.toList))
  | .list items => .ok (.list (items.take 100))
  | v => .error (.notIndexable v.typeName)

/-- The stored form of a path. -/
def normalizePath : Value → Except Failure Value
  | .text s => .ok (ofChars (Index.normalizePath s.toList))
  | v => .error (lacks v "replace")

/-- Whether a module belongs to the project. -/
def isInternal : Value → Except Failure Value
  | .text s => .ok (.bool (Index.isInternal s.toList))
  | v => .error (lacks v "startswith")

/-- The module that a file holds; other values stay as they are. -/
def moduleOfPath : Value → Value
  | .text s => ofChars (Index.moduleOfPath s.toList)
  | v => v

/-- The file that a module is in; other values stay as they are. -/
def pathOfModule : Value → Value
  | .text s => ofChars (Index.pathOfModule s.toList)
  | v => v

/-- The module that an import refers to. Without the text of the import it is the import's name. -/
def importedModule (name content : Value) : Except Failure Value :=
  match content with
  | .text c =>
    match moduleInStatement? c.toList, name with
    | some m, _ => .ok (ofChars m)
    | none, .text n => .ok (ofChars (moduleInName n.toList))
    | none, .list items => .ok (.list items)
    | none, .object fields => .ok (.object fields)
    | none, v => .error (.notSearchable v.typeName)
  | _ => .ok name

end CodeAtlas.Index.Loose
