/-!
# Blanks

Which characters count as blank, and what follows from that: cutting blanks off the ends of a text
and splitting a text into the words between them.
-/

namespace CodeAtlas.Text

/-- A blank: the separators of every script, and the controls that move the print position or
separate records. -/
def isBlank (c : Char) : Bool :=
  let n := c.toNat
  (9 ≤ n && n ≤ 13) || (0x1C ≤ n && n ≤ 0x20) || n == 0x85 || n == 0xA0 || n == 0x1680 ||
    (0x2000 ≤ n && n ≤ 0x200A) || n == 0x2028 || n == 0x2029 || n == 0x202F || n == 0x205F ||
    n == 0x3000

/-- Cuts off the characters at the end that satisfy `p`. -/
def trimEndBy (p : Char → Bool) (cs : List Char) : List Char :=
  (cs.reverse.dropWhile p).reverse

/-- Cuts off the characters at both ends that satisfy `p`. -/
def trimBy (p : Char → Bool) (cs : List Char) : List Char :=
  trimEndBy p (cs.dropWhile p)

/-- Cuts off the blanks at both ends. -/
def trim (cs : List Char) : List Char :=
  trimBy isBlank cs

/-- Cuts off the blanks at the end. -/
def trimEnd (cs : List Char) : List Char :=
  trimEndBy isBlank cs

/-- The maximal runs of characters that are not blank; `word` is the run read so far. -/
def wordsFrom (word : List Char) : List Char → List (List Char)
  | [] => if word.isEmpty then [] else [word]
  | c :: cs =>
    if isBlank c then
      if word.isEmpty then wordsFrom [] cs else word :: wordsFrom [] cs
    else wordsFrom (word ++ [c]) cs

/-- The words of a text: what stands between blanks. -/
def words (cs : List Char) : List (List Char) :=
  wordsFrom [] cs

end CodeAtlas.Text
