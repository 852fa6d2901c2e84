import CodeAtlas.Decimal.Text
import CodeAtlas.Text.Quoted
import CodeAtlas.Value

/-!
# Values as texts

A value is written out with quotes around its texts; shown by itself, a text has none.
-/

namespace CodeAtlas.Value

mutual

/-- A value written out. -/
def written : Value → String
  | .null => "None"
  | .bool b => if b then "True" else "False"
  | .int n => String.ofList (Decimal.intDigits n)
  | .float x => Decimal.render x
  | .text s => String.ofList (Text.quoted s.toList)
  | .list items => "[" ++ ", ".intercalate (writtenItems items) ++ "]"
  | .object fields => "\x7b" ++ ", ".intercalate (writtenFields fields) ++ "\x7d"

/-- The items of a list written out. -/
def writtenItems : List Value → List String
  | [] => []
  | v :: vs => v.written :: writtenItems vs

/-- The fields of an object written out. -/
def writtenFields : List (String × Value) → List String
  | [] => []
  | (name, v) :: fields =>
    (String.ofList (Text.quoted name.toList) ++ ": " ++ v.written) :: writtenFields fields

end

/-- A value shown by itself. -/
def shown : Value → String
  | .text s => s
  | v => v.written

end CodeAtlas.Value
