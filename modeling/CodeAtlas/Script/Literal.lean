import CodeAtlas.Decimal.Text
import CodeAtlas.Script.Node
import CodeAtlas.Text.CharacterName

/-!
# Values of literals

The number that a numeric literal stands for and the text or bytes behind the escapes of a string
literal. Malformed escapes have no value.
-/

namespace CodeAtlas.Script

/-- The value of a digit in bases up to sixteen. -/
def digitOf (c : Char) : Nat :=
  if c.isDigit then c.toNat - '0'.toNat
  else if 'a' ≤ c ∧ c ≤ 'f' then c.toNat - 'a'.toNat + 10
  else c.toNat - 'A'.toNat + 10

/-- The number written in a base. -/
def valueIn (base : Nat) (cs : List Char) : Nat :=
  cs.foldl (fun n c => base * n + digitOf c) 0

/-- Longer decimal integers are refused. -/
def maxDigits : Nat := 4300

/-- The value of a decimal literal without underscores. Zeros are zero however many there are; other
digits behind a zero make a floating-point number. -/
def decimalValue (cs : List Char) : Option Constant :=
  if cs.getLast?.any fun c => c == 'j' || c == 'J' then some (.imaginary cs.dropLast)
  else if cs.any fun c => c == '.' || c == 'e' || c == 'E' then some (.float cs)
  else if cs.all (· == '0') then some (.int 0)
  else if cs.head? = some '0' then some (.float cs)
  else if maxDigits < cs.length then none
  else some (.int (valueIn 10 cs))

/-- The value of a numeric literal. -/
def numberValue (text : List Char) : Option Constant :=
  let cs := text.filter (· ≠ '_')
  match cs with
  | '0' :: x :: ds =>
    if x = 'x' ∨ x = 'X' then some (.int (valueIn 16 ds))
    else if x = 'o' ∨ x = 'O' then some (.int (valueIn 8 ds))
    else if x = 'b' ∨ x = 'B' then some (.int (valueIn 2 ds))
    else decimalValue cs
  | _ => decimalValue cs

def isHex (c : Char) : Bool :=
  c.isDigit || ('a' ≤ c && c ≤ 'f') || ('A' ≤ c && c ≤ 'F')

def isOctal (c : Char) : Bool :=
  '0' ≤ c && c ≤ '7'

/-- Exactly `n` hexadecimal digits at the start of a text. -/
def takeHex (n : Nat) (cs : List Char) : Option (Nat × List Char) :=
  let ds := cs.take n
  if ds.length = n ∧ ds.all isHex then some (valueIn 16 ds, cs.drop n) else none

/-- Up to three octal digits at the start of a text, the first of which is known to be there. -/
def takeOctal (cs : List Char) : Nat × List Char :=
  let ds := (cs.take 3).takeWhile isOctal
  (valueIn 8 ds, cs.drop ds.length)

/-- The one-character escapes. -/
def simpleEscape (c : Char) : Option Nat :=
  match c with
  | '\\' => some 92
  | '\'' => some 39
  | '"' => some 34
  | 'a' => some 7
  | 'b' => some 8
  | 'f' => some 12
  | 'n' => some 10
  | 'r' => some 13
  | 't' => some 9
  | 'v' => some 11
  | _ => none

/-- The code point of a character given by its name in braces, and what follows it. -/
def takeNamed (cs : List Char) : Option (Nat × List Char) :=
  match cs with
  | '\x7b' :: rest =>
    let name := rest.takeWhile (· ≠ '\x7d')
    if rest.length = name.length then none
    else (Text.codeOfName? name).map fun code => (code, rest.drop (name.length + 1))
  | _ => none

/-- The code points behind the escapes of a string literal; `fuel` bounds the number of characters. -/
def decodeText : Nat → List Char → Option (List Nat)
  | 0, _ => some []
  | _, [] => some []
  | _, ['\\'] => some ['\\'.toNat]
  | fuel + 1, '\\' :: c :: cs =>
    let escape := fun (found : Option (Nat × List Char)) => found.bind fun (code, rest) =>
      if code < 0x110000 then (decodeText fuel rest).map (code :: ·) else none
    match simpleEscape c with
    | some code => (decodeText fuel cs).map (code :: ·)
    | none =>
      if c = '\n' then decodeText fuel cs
      else if isOctal c then escape (some (takeOctal (c :: cs)))
      else if c = 'x' then escape (takeHex 2 cs)
      else if c = 'u' then escape (takeHex 4 cs)
      else if c = 'U' then escape (takeHex 8 cs)
      else if c = 'N' then escape (takeNamed cs)
      else (decodeText fuel cs).map fun rest => '\\'.toNat :: c.toNat :: rest
  | fuel + 1, c :: cs => (decodeText fuel cs).map (c.toNat :: ·)

/-- The bytes behind the escapes of a bytes literal, whose characters are all ASCII. -/
def decodeBytes : Nat → List Char → Option (List Nat)
  | 0, _ => some []
  | _, [] => some []
  | fuel + 1, '\\' :: c :: cs =>
    match simpleEscape c with
    | some n => (decodeBytes fuel cs).map (n :: ·)
    | none =>
      if c = '\n' then decodeBytes fuel cs
      else if isOctal c then
        let (n, rest) := takeOctal (c :: cs)
        (decodeBytes fuel rest).map (n % 256 :: ·)
      else if c = 'x' then
        (takeHex 2 cs).bind fun (n, rest) => (decodeBytes fuel rest).map (n :: ·)
      else (decodeBytes fuel cs).map fun rest => 92 :: c.toNat :: rest
  | fuel + 1, c :: cs => (decodeBytes fuel cs).map (c.toNat :: ·)

/-- The code points of a string literal's body. -/
def textValue (raw : Bool) (body : List Char) : Option (List Nat) :=
  if raw then some (body.map Char.toNat) else decodeText body.length body

/-- The bytes of a bytes literal's body; characters beyond ASCII are refused. -/
def bytesValue (raw : Bool) (body : List Char) : Option (List Nat) :=
  if body.any (128 ≤ ·.toNat) then none
  else if raw then some (body.map Char.toNat)
  else decodeBytes body.length body

end CodeAtlas.Script
