import CodeAtlas.Text.Blank
import CodeAtlas.Text.Name
import CodeAtlas.Text.Word
import Mathlib.Tactic

/-!
# Classes of characters

Word characters and the characters of names are never blank. Inside the ASCII range this is a matter of
comparing numbers. Beyond it, it is a fact about the tables of these characters: none of their ranges
holds one of the wide blanks.
-/

namespace CodeAtlas.Text

/-! ### Tables -/

lemma Ranges.mem_of_bisect {r : Ranges} {code lo n : Nat} {b : Nat × Nat}
    (h : r.bisect code lo n = some b) : b ∈ r.bounds := by
  fun_induction Ranges.bisect r code lo n with
  | case1 => cases h
  | case2 => exact Array.mem_of_getElem? h
  | case3 => cases h
  | case4 _ _ _ _ _ _ _ ih => exact ih h
  | case5 _ _ _ _ _ _ _ ih => exact ih h

/-- A table holds the code points of its ranges only. -/
lemma Ranges.exists_of_contains {r : Ranges} {code : Nat} (h : r.contains code = true) :
    ∃ b ∈ r.bounds, b.1 ≤ code ∧ code ≤ b.2 := by
  obtain ⟨b, hb⟩ := Option.isSome_iff_exists.mp h
  obtain ⟨hfound, hbounds⟩ := Option.filter_eq_some_iff.mp hb
  exact ⟨b, mem_of_bisect hfound, by simpa using hbounds⟩

/-! ### Blanks -/

lemma dropWhile_eq_self {p : Char → Bool} {cs : List Char} (h : ∀ c ∈ cs.head?, p c = false) :
    cs.dropWhile p = cs := by
  match cs with
  | [] => rfl
  | c :: cs => exact List.dropWhile_cons_of_neg (by simpa using h c rfl)

/-- Nothing is cut off a text that neither starts nor ends with a blank. -/
lemma trim_eq_self {cs : List Char} (hhead : ∀ c ∈ cs.head?, isBlank c = false)
    (hlast : ∀ c ∈ cs.getLast?, isBlank c = false) : trim cs = cs := by
  have hreverse : ∀ c ∈ cs.reverse.head?, isBlank c = false := by
    rwa [List.head?_reverse]
  rw [trim, trimBy, trimEndBy, dropWhile_eq_self hhead, dropWhile_eq_self hreverse,
    List.reverse_reverse]

/-- The blanks beyond the ASCII range. -/
def wideBlanks : List Nat :=
  [0x85, 0xA0, 0x1680, 0x2000, 0x2001, 0x2002, 0x2003, 0x2004, 0x2005, 0x2006, 0x2007, 0x2008, 0x2009,
    0x200A, 0x2028, 0x2029, 0x202F, 0x205F, 0x3000]

lemma mem_wideBlanks {c : Char} (h : isBlank c = true) (hwide : 128 ≤ c.toNat) :
    c.toNat ∈ wideBlanks := by
  simp [isBlank] at h
  simp [wideBlanks]
  omega

/-- No range that is written in the text holds a wide blank. -/
def apart (cs : List Char) : Bool :=
  (pieces ' ' cs).all fun piece =>
    wideBlanks.all fun n => n < (readRange piece).1 || (readRange piece).2 < n

/-- Whether a range holds no wide blank. Above the last of them there is nothing to compare. -/
def isClear : Nat × Nat → Bool
  | (lo, hi) => Nat.blt 0x3000 lo || wideBlanks.all fun n => Nat.blt n lo || Nat.blt hi n

lemma apart_of_isClear {cs : List Char}
    (h : (pieces ' ' cs).all (fun piece => isClear (readRange piece)) = true) : apart cs = true := by
  have hlast : ∀ n ∈ wideBlanks, n ≤ 0x3000 := by decide
  rw [apart, List.all_eq_true]
  intro piece hpiece
  rw [List.all_eq_true]
  intro n hn
  have hclear := List.all_eq_true.mp h piece hpiece
  simp only [isClear, Bool.or_eq_true, Nat.blt_eq, List.all_eq_true] at hclear
  simp only [Bool.or_eq_true, decide_eq_true_eq]
  rcases hclear with habove | hall
  · exact .inl ((hlast n hn).trans_lt habove)
  · exact hall n hn

/-- No range of the table holds a wide blank. -/
def Ranges.IsApart (r : Ranges) : Prop :=
  ∃ ls : List String, r = .ofLines ls ∧ ∀ l ∈ ls, apart l.toList = true

/-- Literals and their characters. The kernel cuts a literal into characters much faster than it runs
`String.toList`. -/
inductive Spelled : List String → List (List Char) → Prop where
  | nil : Spelled [] []
  | cons {cs : List Char} {ls : List String} {css : List (List Char)} :
    Spelled ls css → Spelled (String.ofList cs :: ls) (cs :: css)

lemma isApart_ofLines {ls : List String} {css : List (List Char)} (h : Spelled ls css)
    (hall : css.all (fun cs => (pieces ' ' cs).all fun piece => isClear (readRange piece)) = true) :
    (Ranges.ofLines ls).IsApart := by
  refine ⟨ls, rfl, ?_⟩
  induction h with
  | nil => simp
  | cons _ ih =>
    rw [List.all_cons, Bool.and_eq_true] at hall
    rw [List.forall_mem_cons, String.toList_ofList]
    exact ⟨apart_of_isClear hall.1, ih hall.2⟩

lemma tables_apart :
    wordRanges.IsApart ∧ nameStartRanges.IsApart ∧ namePartRanges.IsApart := by
  refine ⟨?_, ?_, ?_⟩
  · exact isApart_ofLines (by repeat constructor) (by decide +kernel)
  · exact isApart_ofLines (by repeat constructor) (by decide +kernel)
  · exact isApart_ofLines (by repeat constructor) (by decide +kernel)

/-- Outside the ASCII range, the characters of such a table are not blank. -/
lemma Ranges.IsApart.isBlank_eq_false {r : Ranges} (h : r.IsApart) {c : Char} (hwide : 128 ≤ c.toNat)
    (hc : r.contains c.toNat = true) : isBlank c = false := by
  rw [Bool.eq_false_iff]
  intro hblank
  obtain ⟨ls, hls, hapart⟩ := h
  obtain ⟨b, hb, hlo, hhi⟩ := Ranges.exists_of_contains hc
  rw [hls, Ranges.ofLines, List.mem_toArray, List.mem_flatMap] at hb
  obtain ⟨l, hl, hb⟩ := hb
  obtain ⟨piece, hpiece, rfl⟩ := List.mem_map.mp hb
  have hout := List.all_eq_true.mp (List.all_eq_true.mp (hapart l hl) piece hpiece) _
    (mem_wideBlanks hblank hwide)
  simp only [Bool.or_eq_true, decide_eq_true_eq] at hout
  omega

/-- Inside the ASCII range, letters, digits and underscores are not blank. -/
lemma isBlank_of_isAlphanum {c : Char} (hsmall : c.toNat < 128)
    (h : (c.isAlphanum || c == '_') = true) : isBlank c = false := by
  have hall : ∀ n < 128, ((Char.ofNat n).isAlphanum || Char.ofNat n == '_') = true →
      isBlank (Char.ofNat n) = false := by
    decide +kernel
  have hc := hall c.toNat hsmall
  rw [Char.ofNat_toNat] at hc
  exact hc h

/-- Word characters are not blank. -/
theorem isBlank_of_isWord {c : Char} (h : isWord c = true) : isBlank c = false := by
  unfold isWord at h
  split at h
  · exact isBlank_of_isAlphanum ‹_› h
  · exact tables_apart.1.isBlank_eq_false (not_lt.mp ‹_›) h

/-- The characters of names are not blank. -/
theorem isBlank_of_isName {cs : List Char} (h : isName cs = true) : ∀ c ∈ cs, isBlank c = false := by
  cases cs with
  | nil => cases h
  | cons c cs =>
    rw [isName, Bool.and_eq_true, List.all_eq_true] at h
    intro d hd
    rcases List.mem_cons.mp hd with rfl | hd
    · have hstart := h.1
      unfold isNameStart at hstart
      split at hstart
      · refine isBlank_of_isAlphanum ‹_› ?_
        rw [Char.isAlphanum, Bool.or_assoc, Bool.or_left_comm]
        simp [hstart]
      · exact tables_apart.2.1.isBlank_eq_false (not_lt.mp ‹_›) hstart
    · have hpart := h.2 d hd
      unfold isNamePart at hpart
      split at hpart
      · exact isBlank_of_isAlphanum ‹_› hpart
      · exact tables_apart.2.2.isBlank_eq_false (not_lt.mp ‹_›) hpart

end CodeAtlas.Text
