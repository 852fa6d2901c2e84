import CodeAtlas.Failure
import CodeAtlas.Schema.Number
import CodeAtlas.Value

/-!
# Schemas

A schema says what a value has to look like. Reading a value by a schema gives the value in the form
that the schema asks for, or every problem with the place where it is. A number beyond the range of
the type it is read as ends the reading at once.
-/

namespace CodeAtlas

open CodeAtlas.Text

mutual

/-- What a value has to look like. -/
inductive Schema where
  | text
  | int
  | float
  | flag
  /-- One of the given labels. -/
  | label (permitted : List String)
  /-- A text that in capitals is one of the given ones, with the complaint about other texts. -/
  | capitals (permitted : List String) (complaint : String)
  | any
  | optional (s : Schema)
  | list (item : Schema)
  /-- Any names, with values that look alike. -/
  | table (item : Schema)
  /-- Named fields; a strict record has no others. -/
  | record (strict : Bool) (fields : Fields)

/-- The fields of a record, each with its default. A field without default is required. -/
inductive Fields where
  | nil
  | cons (name : String) (schema : Schema) (default : Option Value) (rest : Fields)

end

/-- Fields from a list. -/
def Fields.ofList : List (String × Schema × Option Value) → Fields
  | [] => .nil
  | (name, schema, default) :: rest => .cons name schema default (ofList rest)

/-- The names of fields. -/
def Fields.names : Fields → List String
  | .nil => []
  | .cons name _ _ rest => name :: rest.names

/-- What is wrong with a value, and where. -/
structure Problem where
  place : List String := []
  text : String
  deriving Repr, DecidableEq, Inhabited

namespace Problem

def missing : Problem := { text := "field required (type=value_error.missing)" }
def absent : Problem := { text := "none is not an allowed value (type=type_error.none.not_allowed)" }
def notText : Problem := { text := "str type expected (type=type_error.str)" }
def notInt : Problem := { text := "value is not a valid integer (type=type_error.integer)" }
def notFloat : Problem := { text := "value is not a valid float (type=type_error.float)" }
def notFlag : Problem := { text := "value could not be parsed to a boolean (type=type_error.bool)" }
def notList : Problem := { text := "value is not a valid list (type=type_error.list)" }
def notTable : Problem := { text := "value is not a valid dict (type=type_error.dict)" }
def notLabel : Problem := { text := "value is not a valid enumeration member (type=type_error.enum)" }
def notNamed : Problem := { text := "keywords must be strings (type=type_error)" }
def extra : Problem := { text := "extra fields not permitted (type=value_error.extra)" }

/-- The problem as part of something larger. -/
def within (name : String) (p : Problem) : Problem :=
  { p with place := name :: p.place }

/-- The place of a problem as a text. -/
def placeText (p : Problem) : String :=
  ".".intercalate p.place

end Problem

/-- Why a value cannot be read: its problems, or a failure that leaves no room for others. -/
inductive Obstacle where
  | problems (list : List Problem)
  | failure (cause : Failure)
  deriving Repr, DecidableEq, Inhabited

/-- The outcome of reading. -/
abbrev Reading (α : Type) := Except Obstacle α

namespace Reading

variable {α : Type}

/-- A single problem. -/
def fail (p : Problem) : Reading α :=
  .error (.problems [p])

/-- The end of all reading. -/
def abort (f : Failure) : Reading α :=
  .error (.failure f)

/-- A reading as part of something larger. -/
def within (name : String) : Reading α → Reading α
  | .ok a => .ok a
  | .error (.problems ps) => .error (.problems (ps.map (·.within name)))
  | .error (.failure f) => .error (.failure f)

/-- All results, or all problems. The first failure counts more than any problem. -/
def gather : List (Reading α) → Reading (List α)
  | [] => .ok []
  | .ok a :: rs => (gather rs).map (a :: ·)
  | .error (.failure f) :: _ => abort f
  | .error (.problems ps) :: rs =>
    match gather rs with
    | .ok _ => .error (.problems ps)
    | .error (.problems qs) => .error (.problems (ps ++ qs))
    | .error (.failure f) => abort f

end Reading

namespace Schema

/-! ### Plain values -/

/-- The text of a plain value. -/
def plainText? : Value → Option String
  | .text s => some s
  | .int n => some (String.ofList (Decimal.intDigits n))
  | .float x => some (Decimal.render x)
  | .bool b => some (if b then "True" else "False")
  | _ => none

def readText (v : Value) : Reading Value :=
  match plainText? v with
  | some s => .ok (.text s)
  | none => .fail .notText

def intOf? : Value → Option Int
  | .int n => some n
  | .bool b => some (if b then 1 else 0)
  | .float x => truncate? x
  | .text s => readInt? s.toList
  | _ => none

/-- Whether a value is an infinite number. -/
def isInfinite : Value → Bool
  | .float x => x.isInf
  | _ => false

def readInt (v : Value) : Reading Value :=
  match intOf? v with
  | some n => .ok (.int n)
  | none => if isInfinite v then .abort .infiniteInteger else .fail .notInt

def floatOf? : Value → Option Float
  | .float x => some x
  | .int n => some (Float.ofInt n)
  | .bool b => some (if b then 1.0 else 0.0)
  | .text s => readFloat? s.toList
  | _ => none

/-- Whether a value is an integer beyond all floating-point numbers. -/
def isBeyondFloat : Value → Bool
  | .int n => (Float.ofInt n).isInf
  | _ => false

def readFloat (v : Value) : Reading Value :=
  match floatOf? v with
  | some x => if isBeyondFloat v then .abort .largeInteger else .ok (.float x)
  | none => .fail .notFloat

/-- Words for yes and for no. -/
def yesWords : List String := ["1", "on", "t", "true", "y", "yes"]
def noWords : List String := ["0", "off", "f", "false", "n", "no"]

def flagOf? : Value → Option Bool
  | .bool b => some b
  | .int n => if n = 1 then some true else if n = 0 then some false else none
  | .float x => if x == 1.0 then some true else if x == 0.0 then some false else none
  | .text s =>
    let word := String.ofList (toLower s.toList)
    if yesWords.contains word then some true
    else if noWords.contains word then some false
    else none
  | _ => none

def readFlag (v : Value) : Reading Value :=
  match flagOf? v with
  | some b => .ok (.bool b)
  | none => .fail .notFlag

def readLabel (permitted : List String) : Value → Reading Value
  | .text s => if permitted.contains s then .ok (.text s) else .fail .notLabel
  | _ => .fail .notLabel

def readCapitals (permitted : List String) (complaint : String) (v : Value) : Reading Value :=
  match plainText? v with
  | some s =>
    let upper := String.ofList (toUpper s.toList)
    if permitted.contains upper then .ok (.text upper) else .fail { text := complaint }
  | none => .fail .notText

/-! ### Tables -/

/-- The two items of a value that can stand for a pair. -/
def pair? : Value → Option (Value × Value)
  | .list [a, b] => some (a, b)
  | .text s =>
    match s.toList with
    | [a, b] => some (.text a.toString, .text b.toString)
    | _ => none
  | .object [a, b] => some (.text a.1, .text b.1)
  | _ => none

/-- Whether two keys are the same; a number is the same as the equal number of another type. -/
def sameKey : Value → Value → Bool
  | .text a, .text b => a == b
  | .null, .null => true
  | .text _, _ | _, .text _ | .null, _ | _, .null => false
  | a, b =>
    match a, b with
    | .float x, .float y => x == y
    | .float x, n | n, .float x =>
      match intOf? n with
      | some m => truncate? x == some m && Float.ofInt m == x
      | none => false
    | a, b => intOf? a == intOf? b

/-- Whether a value can be a key. -/
def isKey : Value → Bool
  | .list _ | .object _ => false
  | _ => true

/-- Puts a value under a key: in place of the one that is there, or at the end. -/
def putEntry {κ : Type} (same : κ → κ → Bool) (key : κ) (v : Value) :
    List (κ × Value) → List (κ × Value)
  | [] => [(key, v)]
  | (k, w) :: rest => if same k key then (k, v) :: rest else (k, w) :: putEntry same key v rest

/-- The entries of an object, or of a sequence of pairs. -/
def entries? : Value → Option (List (Value × Value))
  | .object fields => some (fields.map fun f => (.text f.1, f.2))
  | .text "" => some []
  | .list items => do
    let pairs ← items.mapM pair?
    if pairs.all fun p => isKey p.1 then
      some (pairs.foldl (fun acc p => putEntry sameKey p.1 p.2 acc) [])
    else none
  | _ => none

/-- The name of a key in a place. -/
def keyText (key : Value) : String :=
  (plainText? key).getD "None"

/-- Reads a key. -/
def readKey : Value → Reading String
  | .null => .fail .absent
  | key =>
    match plainText? key with
    | some s => .ok s
    | none => .fail .notText

/-- Puts the entries of a table together; of equal names the last one counts. -/
def tableOf (fields : List (String × Value)) : Value :=
  .object (fields.foldl (fun acc f => putEntry (· == ·) f.1 f.2 acc) [])

/-- The names of the entries of a record; they have to be texts. -/
def named? (entries : List (Value × Value)) : Option (List (String × Value)) :=
  entries.mapM fun e => e.1.text?.map fun name => (name, e.2)

/-- The fields that a strict record does not have, sorted. -/
def extras (known : List String) (fields : List (String × Value)) : List (Reading (String × Value)) :=
  let names := (fields.map (·.1)).filter fun n => !known.contains n
  (names.mergeSort fun a b => decide (a ≤ b)).map fun n => (Reading.fail .extra).within n

/-! ### Reading -/

/-- Reads a value that has to be there. -/
def present (v : Value) (f : Value → Reading Value) : Reading Value :=
  match v with
  | .null => .fail .absent
  | v => f v

end Schema

open Schema in
mutual

/-- Reads a value. -/
def Schema.read : Schema → Value → Reading Value
  | .any, v => .ok v
  | .optional s, v =>
    match v with
    | .null => .ok .null
    | v => s.read v
  | .text, v => present v readText
  | .int, v => present v readInt
  | .float, v => present v readFloat
  | .flag, v => present v readFlag
  | .label permitted, v => present v (readLabel permitted)
  | .capitals permitted complaint, v => present v (readCapitals permitted complaint)
  | .list item, v => present v fun
    | .list items =>
      (Reading.gather (items.zipIdx.map fun (w, i) =>
        (item.read w).within (String.ofList (Decimal.natDigits i)))).map .list
    | _ => .fail .notList
  | .table item, v => present v fun w =>
    match entries? w with
    | none => .fail .notTable
    | some entries =>
      (Reading.gather (entries.map fun (key, w) =>
        match (readKey key).within "__key__" with
        | .error o => .error o
        | .ok name => ((item.read w).within (keyText key)).map fun u => (name, u))).map tableOf
  | .record strict fields, v => present v fun w =>
    match entries? w with
    | none => .fail .notTable
    | some entries =>
      match named? entries with
      | none => .fail .notNamed
      | some given =>
        let others := if strict then extras fields.names given else []
        (Reading.gather (fields.readAll given ++ others)).map .object

/-- Reads the fields of a record. -/
def Fields.readAll : Fields → List (String × Value) → List (Reading (String × Value))
  | .nil, _ => []
  | .cons name schema default rest, given =>
    let reading :=
      match given.find? (·.1 == name), default with
      | some (_, v), _ => schema.read v
      | none, some v => .ok v
      | none, none => .fail .missing
    ((reading.within name).map fun v => (name, v)) :: rest.readAll given

end

/-- Reads a value as the named record. -/
def Schema.readAs (record : String) (s : Schema) (v : Value) : Except Failure Value :=
  match s.read v with
  | .ok v => .ok v
  | .error (.problems ps) => .error (.invalid record (ps.map fun p => (p.placeText, p.text)))
  | .error (.failure f) => .error f

end CodeAtlas
