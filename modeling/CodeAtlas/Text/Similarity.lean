/-!
# Similar texts

Two texts are as similar as the share of characters in common blocks: the longest block that both have,
and then the longest ones on both sides of it, and so on. Of several longest blocks the earliest one is
taken.
-/

namespace CodeAtlas.Text

/-- The length of the longest common beginning. -/
def commonLength : List Char → List Char → Nat
  | a :: as, b :: bs => if a = b then commonLength as bs + 1 else 0
  | _, _ => 0

/-- A block that two texts have in common: where it starts in each, and its length. -/
structure Block where
  left : Nat
  right : Nat
  length : Nat
  deriving Repr, DecidableEq, Inhabited

/-- A text and what is left of it after each of its characters. -/
def endings : List Char → List (List Char)
  | [] => [[]]
  | c :: cs => (c :: cs) :: endings cs

/-- The blocks that begin at one place of the left text, in the order of their places in the right one. -/
def blocksAt (left : Nat) (as bs : List Char) : List Block :=
  (endings bs).zipIdx.map fun (t, i) => ⟨left, i, commonLength as t⟩

/-- The longest of blocks; of several, the first. -/
def longest (best : Block) (blocks : List Block) : Block :=
  blocks.foldl (fun b c => if b.length < c.length then c else b) best

/-- The earliest longest block that two texts have in common. -/
def longestBlock (as bs : List Char) : Block :=
  longest ⟨0, 0, 0⟩ ((endings as).zipIdx.flatMap fun (t, i) => blocksAt i t bs)

/-- The number of characters in common blocks. -/
def commonCount (as bs : List Char) : Nat :=
  match longestBlock as bs with
  | ⟨left, right, length⟩ =>
    if 0 < length ∧ left < as.length then
      length + commonCount (as.take left) (bs.take right) +
        commonCount (as.drop (left + length)) (bs.drop (right + length))
    else 0
termination_by as.length
decreasing_by
  · simp only [List.length_take]
    omega
  · simp only [List.length_drop]
    omega

/-- Whether the share of common characters is at least three fifths. -/
def isSimilar (as bs : List Char) : Bool :=
  3 * (as.length + bs.length) ≤ 10 * commonCount as bs

/-- Whether `x` is more similar to a word than `y`, or as similar and later in the order of texts. -/
def comesCloser (word : List Char) (x y : String) : Bool :=
  let weight := fun (s t : String) => commonCount s.toList word * (t.length + word.length)
  weight y x < weight x y || (weight x y == weight y x && decide (y ≤ x))

/-- At most three of the given texts that are similar to a word, in their order. -/
def similarTo (word : String) (given : List String) : List String :=
  let found := given.filter fun x => isSimilar x.toList word.toList
  ((found.mergeSort (comesCloser word.toList)).take 3).mergeSort fun x y => decide (x ≤ y)

end CodeAtlas.Text
