import CodeAtlas.Decimal.Shortest
import CodeAtlas.Decimal.Text

/-!
# Rounding to decimal places

A floating-point number is rounded to decimal places by its exact value; a half goes to the even
neighbour.
-/

namespace CodeAtlas.Decimal

/-- A quotient rounded to the nearest whole number, a half to the even one. -/
def roundHalfEven (num den : Nat) : Nat :=
  let q := num / den
  let r := num % den
  if 2 * r < den then q
  else if den < 2 * r then q + 1
  else if q % 2 = 0 then q else q + 1

/-- A number that is not negative in units of its last decimal place, when it has the given number of
them. -/
def inPlaces (places : Nat) (x : Float) : Nat :=
  match Binary.ofFloat x with
  | .finite _ m q =>
    if 0 ≤ q then Nat.pow 10 places * m * Nat.pow 2 q.toNat
    else roundHalfEven (Nat.pow 10 places * m) (Nat.pow 2 (-q).toNat)
  | _ => 0

/-- A number that is not negative, rounded to two places. -/
def roundTwoPlaces (x : Float) : Float :=
  Float.ofScientific (inPlaces 2 x) true 2

/-- A quotient of natural numbers, rounded to two places. -/
def roundedQuotient (num den : Nat) : Float :=
  roundTwoPlaces (Float.ofNat num / Float.ofNat den)

/-- The text of a number that is not negative with three decimal places. -/
def threePlaces (x : Float) : String :=
  let units := inPlaces 3 x
  let tail := natDigits (units % 1000)
  String.ofList (natDigits (units / 1000) ++ '.' :: List.replicate (3 - tail.length) '0' ++ tail)

end CodeAtlas.Decimal
