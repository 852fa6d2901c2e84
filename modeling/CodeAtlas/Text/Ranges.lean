/-!
# Tables of code points

A property of characters is given as a list of code point ranges, and a mapping of characters as
a list of entries sorted by code point. Both are written as hexadecimal text (`41-5A`, `C0:41+300`)
and looked up by bisection.
-/

namespace CodeAtlas.Text

/-! ### Reading the tables -/

/-- The value of one upper-case hexadecimal digit; other characters count as zero. -/
def hexDigit (c : Char) : Nat :=
  if '0' ≤ c ∧ c ≤ '9' then c.toNat - '0'.toNat
  else if 'A' ≤ c ∧ c ≤ 'F' then c.toNat - 'A'.toNat + 10
  else 0

/-- The number written by a list of hexadecimal digits. -/
def hexNumber (cs : List Char) : Nat :=
  cs.foldl (fun n c => 16 * n + hexDigit c) 0

/-- The pieces of a text between occurrences of a separator; there is always at least one. -/
def pieces (sep : Char) : List Char → List (List Char)
  | [] => [[]]
  | c :: cs =>
    if c = sep then [] :: pieces sep cs
    else
      match pieces sep cs with
      | [] => [[c]]
      | p :: ps => (c :: p) :: ps

/-- One range: `lo-hi`, or a single code point. -/
def readRange (cs : List Char) : Nat × Nat :=
  match pieces '-' cs with
  | [lo, hi] => (hexNumber lo, hexNumber hi)
  | _ => (hexNumber cs, hexNumber cs)

/-- One entry of a mapping: `code:image` with the image's code points joined by `+`. -/
def readEntry (cs : List Char) : Nat × List Nat :=
  match pieces ':' cs with
  | [code, image] => (hexNumber code, (pieces '+' image).map hexNumber)
  | _ => (hexNumber cs, [])

/-! ### Ranges -/

/-- A set of code points, as disjoint ranges in increasing order. -/
structure Ranges where
  bounds : Array (Nat × Nat)

/-- The ranges written on lines of text, separated by blanks. -/
def Ranges.ofLines (ls : List String) : Ranges :=
  ⟨(ls.flatMap fun l => (pieces ' ' l.toList).map readRange).toArray⟩

/-- The last range that starts at or before a code point, by bisection on `[lo, lo + n)`. -/
def Ranges.bisect (r : Ranges) (code : Nat) (lo : Nat) : Nat → Option (Nat × Nat)
  | 0 => none
  | 1 => r.bounds[lo]?
  | n + 2 =>
    let half := (n + 2) / 2
    match r.bounds[lo + half]? with
    | none => none
    | some (start, _) =>
      if start ≤ code then r.bisect code (lo + half) (n + 2 - half)
      else r.bisect code lo half
termination_by n => n

/-- The range that holds a code point. -/
def Ranges.find? (r : Ranges) (code : Nat) : Option (Nat × Nat) :=
  (r.bisect code 0 r.bounds.size).filter fun b => b.1 ≤ code && code ≤ b.2

/-- Membership of a code point. -/
def Ranges.contains (r : Ranges) (code : Nat) : Bool :=
  (r.find? code).isSome

/-! ### Mappings -/

/-- A partial map from code points to lists of code points, sorted by code point. -/
structure Mapping where
  entries : Array (Nat × List Nat)

/-- The mapping written on lines of text, its entries separated by blanks. -/
def Mapping.ofLines (ls : List String) : Mapping :=
  ⟨(ls.flatMap fun l => (pieces ' ' l.toList).map readEntry).toArray⟩

/-- The entry with the greatest code point not above the given one, on `[lo, lo + n)`. -/
def Mapping.bisect (m : Mapping) (code : Nat) (lo : Nat) : Nat → Option (Nat × List Nat)
  | 0 => none
  | 1 => m.entries[lo]?
  | n + 2 =>
    let half := (n + 2) / 2
    match m.entries[lo + half]? with
    | none => none
    | some (start, _) =>
      if start ≤ code then m.bisect code (lo + half) (n + 2 - half)
      else m.bisect code lo half
termination_by n => n

/-- The image of a code point, if the mapping has an entry for it. -/
def Mapping.get? (m : Mapping) (code : Nat) : Option (List Nat) :=
  match m.bisect code 0 m.entries.size with
  | some (start, image) => if start = code then some image else none
  | none => none

end CodeAtlas.Text
