/-!
# Untyped values

Values as they arrive from a client or a configuration, before anything is known about them. An object
keeps the order of its fields.
-/

namespace CodeAtlas

/-- A value of any type. -/
inductive Value where
  | null
  | bool (b : Bool)
  | int (n : Int)
  | float (x : Float)
  | text (s : String)
  | list (items : List Value)
  | object (fields : List (String × Value))
  deriving Repr, Inhabited

namespace Value

/-- The name of a value's type. -/
def typeName : Value → String
  | null => "NoneType"
  | bool _ => "bool"
  | int _ => "int"
  | float _ => "float"
  | text _ => "str"
  | list _ => "list"
  | object _ => "dict"

/-- A value that may be missing. -/
def ofOption {α : Type} (f : α → Value) : Option α → Value
  | some a => f a
  | none => null

/-- A list of texts. -/
def texts (xs : List String) : Value :=
  list (xs.map text)

/-- Counts by name. -/
def counts (xs : List (String × Nat)) : Value :=
  object (xs.map fun x => (x.1, int x.2))

/-- The field of an object. -/
def field? (v : Value) (name : String) : Option Value :=
  match v with
  | object fields => (fields.find? (·.1 == name)).map (·.2)
  | _ => none

/-- The text of a value that is one. -/
def text? : Value → Option String
  | text s => some s
  | _ => none

/-- Whether a value counts as true: not empty and not zero. -/
def truthy : Value → Bool
  | null => false
  | bool b => b
  | int n => n != 0
  | float x => !(x == 0.0)
  | text s => !s.isEmpty
  | list items => !items.isEmpty
  | object fields => !fields.isEmpty

end Value

end CodeAtlas
