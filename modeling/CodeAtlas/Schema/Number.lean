import CodeAtlas.Decimal.Text
import CodeAtlas.Text.Blank
import CodeAtlas.Text.Case
import CodeAtlas.Text.Word

/-!
# Numbers written as texts

A number may have blanks around it, a sign in front, digits of any script, and single underscores
between its digits.
-/

namespace CodeAtlas.Schema

open CodeAtlas.Text

/-- Longer integers are refused. -/
def maxDigits : Nat := 4300

/-- A blank that may stand around a number: all but the controls that separate records. -/
def isOuterBlank (c : Char) : Bool :=
  isBlank c && !(0x1C ≤ c.toNat && c.toNat ≤ 0x1F)

/-- A text with digits of all scripts turned into those of ASCII. -/
def plainDigits (cs : List Char) : List Char :=
  cs.map fun c =>
    match digitValue? c with
    | some n => Char.ofNat ('0'.toNat + n)
    | none => c

/-- The sign of a number, and what follows it. -/
def signed : List Char → Bool × List Char
  | '-' :: cs => (true, cs)
  | '+' :: cs => (false, cs)
  | cs => (false, cs)

/-- The digits of a part of a number without their underscores, each of which stands between two
digits. -/
def digitPart? (cs : List Char) : Option (List Char) :=
  let parts := pieces '_' cs
  if parts.all fun p => !p.isEmpty && p.all Char.isDigit then some parts.flatten else none

/-- The integer that a text stands for. -/
def readInt? (cs : List Char) : Option Int :=
  let (negative, digits) := signed (plainDigits (trimBy isOuterBlank cs))
  match digitPart? digits with
  | some ds =>
    if maxDigits < ds.length then none
    else
      let n : Int := Decimal.digitsValue ds
      some (if negative then -n else n)
  | none => none

/-- Splits at the first character that satisfies `p`. -/
def splitAtFirst (p : Char → Bool) (cs : List Char) : List Char × Option (List Char) :=
  let before := cs.takeWhile fun c => !p c
  match cs.drop before.length with
  | [] => (before, none)
  | _ :: after => (before, some after)

/-- The digits of a part that may be missing. -/
def optionalPart? (cs : List Char) : Option (List Char) :=
  if cs.isEmpty then some [] else digitPart? cs

/-- A decimal without sign, cleaned of underscores. -/
def cleanDecimal? (cs : List Char) : Option (List Char) := do
  let (mantissa, exponent) := splitAtFirst (fun c => c == 'e' || c == 'E') cs
  let (whole, fraction) := splitAtFirst (· == '.') mantissa
  let whole' ← optionalPart? whole
  let fraction' ← optionalPart? (fraction.getD [])
  if whole'.isEmpty && fraction'.isEmpty then none
  let tail ←
    match exponent with
    | none => some []
    | some e =>
      let (negative, digits) := signed e
      (digitPart? digits).map fun ds => 'e' :: (if negative then '-' else '+') :: ds
  return whole' ++ '.' :: fraction' ++ tail

/-- The floating-point number that a text stands for. -/
def readFloat? (cs : List Char) : Option Float :=
  let (negative, body) := signed (plainDigits (trimBy isOuterBlank cs))
  let word := String.ofList (toLower body)
  let magnitude :=
    if word == "inf" || word == "infinity" then some (1.0 / 0.0)
    else if word == "nan" then some (0.0 / 0.0)
    else (cleanDecimal? body).map Decimal.readFloat
  magnitude.map fun x => if negative then -x else x

/-- The whole part of a floating-point number. -/
def truncate? (x : Float) : Option Int :=
  match Decimal.Binary.ofFloat x with
  | .nan | .infinite _ => none
  | .zero _ => some 0
  | .finite negative m q =>
    let n : Int := if 0 ≤ q then (m * Nat.pow 2 q.toNat : Nat) else (m / Nat.pow 2 (-q).toNat : Nat)
    some (if negative then -n else n)

end CodeAtlas.Schema
