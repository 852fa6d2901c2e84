/-!
# The shortest decimal of a binary number

A finite binary floating-point number stands for every real number that rounds to it. The shortest
decimal is the one with the fewest digits among those, and of several the one nearest to the number
itself. All arithmetic is exact, on natural numbers.
-/

namespace CodeAtlas.Decimal

/-- The parts of a binary number: its sign, and what its value is. -/
inductive Binary where
  | nan
  | infinite (negative : Bool)
  | zero (negative : Bool)
  /-- The value `significand * 2 ^ exponent`, the significand below `2 ^ 53`. -/
  | finite (negative : Bool) (significand : Nat) (exponent : Int)
  deriving Repr, DecidableEq

/-- Takes a floating-point number apart. -/
def Binary.ofFloat (x : Float) : Binary :=
  let bits := x.toBits.toNat
  let negative := Nat.pow 2 63 ≤ bits
  let biased : Nat := bits / Nat.pow 2 52 % Nat.pow 2 11
  let fraction : Nat := bits % Nat.pow 2 52
  if biased = 2047 then if fraction = 0 then .infinite negative else .nan
  else if biased = 0 then
    if fraction = 0 then .zero negative else .finite negative fraction (-1074)
  else .finite negative (fraction + Nat.pow 2 52) ((biased : Int) - 1075)

/-- A positive real number as a quotient. -/
structure Ratio where
  num : Nat
  den : Nat

/-- The value `n * b ^ e`. -/
def Ratio.ofPower (n b : Nat) (e : Int) : Ratio :=
  if 0 ≤ e then ⟨n * Nat.pow b e.toNat, 1⟩ else ⟨n, Nat.pow b (-e).toNat⟩

def Ratio.le (x y : Ratio) : Bool :=
  x.num * y.den ≤ y.num * x.den

def Ratio.lt (x y : Ratio) : Bool :=
  x.num * y.den < y.num * x.den

/-- The numbers that round to a given binary number lie between these two bounds. -/
structure Neighbourhood where
  value : Ratio
  low : Ratio
  high : Ratio
  /-- Whether the bounds themselves belong to it. -/
  closed : Bool

/-- The neighbourhood of `m * 2 ^ q`; below a power of two the next number is only half as far. -/
def Neighbourhood.of (m : Nat) (q : Int) : Neighbourhood :=
  let narrow := m == Nat.pow 2 52 && -1074 < q
  { value := .ofPower (4 * m) 2 (q - 2)
    low := .ofPower (if narrow then 4 * m - 1 else 4 * m - 2) 2 (q - 2)
    high := .ofPower (4 * m + 2) 2 (q - 2)
    closed := m % 2 == 0 }

/-- Membership of a number in a neighbourhood. -/
def Neighbourhood.contains (n : Neighbourhood) (x : Ratio) : Bool :=
  if n.closed then n.low.le x && x.le n.high else n.low.lt x && x.lt n.high

/-- The least `e` from `start` on, within `fuel` steps, with `x < 10 ^ e`. -/
def magnitudeFrom (x : Ratio) : Nat → Int → Int
  | 0, e => e
  | fuel + 1, e => if x.lt (.ofPower 1 10 e) then e else magnitudeFrom x fuel (e + 1)

/-- The exponent `e` with `10 ^ (e - 1) ≤ x < 10 ^ e`. -/
def magnitude (x : Ratio) (q : Int) : Int :=
  -- `2 ^ q` has about `q * 0.30103` digits; start a little below and go up.
  magnitudeFrom x 40 (q * 30103 / 100000 - 2)

/-- Digits `n` and exponent `e` of the value `n * 10 ^ e`. -/
structure Digits where
  digits : Nat
  exponent : Int
  deriving Repr, DecidableEq

/-- The nearest decimal in the neighbourhood with digits at the given exponent; of two that are
equally near, the even one. -/
def onGrid (n : Neighbourhood) (e : Int) : Option Digits :=
  -- `num / den` is the value in units of `10 ^ e`.
  let unit := Ratio.ofPower 1 10 e
  let num := n.value.num * unit.den
  let den := n.value.den * unit.num
  let below := num / den
  let rest := num % den
  let inside := fun k => n.contains (.ofPower k 10 e)
  let pick := fun k => if inside k then some ⟨k, e⟩ else none
  if rest = 0 then pick below
  else if 2 * rest < den then (pick below).or (pick (below + 1))
  else if den < 2 * rest then (pick (below + 1)).or (pick below)
  else if below % 2 = 0 then (pick below).or (pick (below + 1))
  else (pick (below + 1)).or (pick below)

/-- Tries one digit more each time, from the grid of the first digit downwards. -/
def shortestFrom (n : Neighbourhood) : Nat → Int → Digits
  | 0, e => ⟨0, e⟩
  | fuel + 1, e =>
    match onGrid n e with
    | some d => d
    | none => shortestFrom n fuel (e - 1)

/-- The shortest decimal of `m * 2 ^ q`. -/
def shortest (m : Nat) (q : Int) : Digits :=
  let n := Neighbourhood.of m q
  shortestFrom n 20 (magnitude n.value (q + 53) - 1)

end CodeAtlas.Decimal
