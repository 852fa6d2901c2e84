import CodeAtlas.Decimal.Shortest

/-!
# Writing and reading decimals

Floating-point numbers are written with their shortest digits: in positional notation while the point
falls between four places before the first digit and sixteen behind it, in exponent notation
otherwise. A whole number keeps one zero behind its point.
-/

namespace CodeAtlas.Decimal

/-- The decimal digits of a natural number. -/
def natDigits (n : Nat) : List Char :=
  Nat.toDigits 10 n

/-- The decimal digits of an integer, with a sign if it is negative. -/
def intDigits (n : Int) : List Char :=
  if n < 0 then '-' :: natDigits n.natAbs else natDigits n.natAbs

/-- Cuts the zeros off the end of a number's digits. -/
def trimZeros (cs : List Char) : List Char :=
  (cs.reverse.dropWhile (· == '0')).reverse

/-- The digits `cs` with the decimal point behind the first `point` of them. -/
def positional (cs : List Char) (point : Int) : List Char :=
  if point ≤ 0 then "0.".toList ++ List.replicate (-point).toNat '0' ++ cs
  else
    let p := point.toNat
    if cs.length ≤ p then cs ++ List.replicate (p - cs.length) '0' ++ ".0".toList
    else cs.take p ++ '.' :: cs.drop p

/-- The digits `cs` in exponent notation, the exponent with a sign and at least two digits. -/
def exponential (cs : List Char) (point : Int) : List Char :=
  let e := point - 1
  let digits := natDigits e.natAbs
  let wide := if digits.length < 2 then '0' :: digits else digits
  let fraction := if cs.length ≤ 1 then [] else '.' :: cs.drop 1
  cs.take 1 ++ fraction ++ 'e' :: (if e < 0 then '-' else '+') :: wide

/-- The text of a floating-point number. -/
def render (x : Float) : String :=
  let sign := fun negative : Bool => if negative then ['-'] else []
  String.ofList <|
    match Binary.ofFloat x with
    | .nan => "nan".toList
    | .infinite negative => sign negative ++ "inf".toList
    | .zero negative => sign negative ++ "0.0".toList
    | .finite negative m q =>
      let d := shortest m q
      let all := natDigits d.digits
      let cs := trimZeros all
      let point := d.exponent + all.length
      sign negative ++ (if -4 < point ∧ point ≤ 16 then positional cs point else exponential cs point)

/-- The number written by decimal digits. -/
def digitsValue (cs : List Char) : Nat :=
  cs.foldl (fun n c => 10 * n + (c.toNat - '0'.toNat)) 0

/-- Reads digits with an optional point and an optional exponent, which must be well formed. -/
def readFloat (cs : List Char) : Float :=
  let whole := cs.takeWhile Char.isDigit
  let rest := cs.drop whole.length
  let (fraction, rest) :=
    match rest with
    | '.' :: more => (more.takeWhile Char.isDigit, more.dropWhile Char.isDigit)
    | _ => ([], rest)
  let exponent : Int :=
    match rest with
    | _ :: '-' :: ds => -(digitsValue ds : Int)
    | _ :: '+' :: ds => digitsValue ds
    | _ :: ds => digitsValue ds
    | [] => 0
  let mantissa := digitsValue (whole ++ fraction)
  let e := exponent - fraction.length
  if mantissa = 0 then 0.0
  else if 0 ≤ e then
    -- Beyond this every number is infinite.
    if 400 < e then 1.0 / 0.0 else Float.ofScientific mantissa false e.toNat
  else if 10 * ((mantissa.log2 : Int) + 1081) < -(33 * e) then 0.0
  else Float.ofScientific mantissa true (-e).toNat

end CodeAtlas.Decimal
