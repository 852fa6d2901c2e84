import CodeAtlas.Proofs.Positions
import Mathlib.Data.List.DropRight

/-!
# The section below a heading

The section of a heading ends at the next heading that does not lie deeper, or at the end of the document.
The line of that next heading still belongs to the text that is kept. So the text is that of the lines
between the two headings only if this line does not show: if both headings stand on the same line, if the
line is blank, or if the text is cut before.
-/

namespace CodeAtlas.Outline

open CodeAtlas.Text

/-! ### Lines between two lines -/

/-- The lines strictly between two lines, which are counted from one. -/
def linesBetween (ls : List (List Char)) (first last : Nat) : List (List Char) :=
  ((ls.zipIdx 1).filter fun l => first < l.2 && l.2 < last).map (·.1)

lemma map_filter_zipIdx (ls : List (List Char)) (first last k : Nat) :
    ((ls.zipIdx k).filter fun l => first < l.2 && l.2 < last).map (·.1) =
      slice (first + 1 - k) (last - k) ls := by
  induction ls generalizing k with
  | nil => simp [slice]
  | cons l ls ih =>
    rw [List.zipIdx_cons, List.filter_cons]
    by_cases hlast : k < last
    · have hstop : last - k = last - (k + 1) + 1 := by omega
      by_cases hfirst : first < k
      · have hzero : first + 1 - k = 0 ∧ first + 1 - (k + 1) = 0 := by omega
        simp [hlast, hfirst, ih, slice, hstop, hzero]
      · have hstart : first + 1 - k = first + 1 - (k + 1) + 1 := by omega
        simp [hfirst, ih, slice, hstop, hstart]
    · have hzero : last - k = 0 ∧ last - (k + 1) = 0 := by omega
      simp [hlast, ih, slice, hzero]

lemma linesBetween_eq_slice (ls : List (List Char)) (first last : Nat) :
    linesBetween ls first last = slice first (last - 1) ls :=
  map_filter_zipIdx ls first last 1

lemma linesBetween_succ {ls : List (List Char)} {first last : Nat} {line : List Char}
    (hlt : first < last) (hline : ls[last - 1]? = some line) :
    linesBetween ls first (last + 1) = linesBetween ls first last ++ [line] := by
  obtain ⟨n, rfl⟩ := Nat.exists_eq_add_of_lt hlt
  rw [linesBetween_eq_slice, linesBetween_eq_slice, slice, slice]
  simp only [Nat.add_sub_cancel] at hline ⊢
  have hlength := (List.getElem?_eq_some_iff.mp hline).1
  rw [List.take_add_one, hline, Option.toList_some, List.drop_append_of_le_length]
  rw [List.length_take]
  omega

lemma linesBetween_eq_nil {ls : List (List Char)} {first last : Nat} (h : last ≤ first + 1) :
    linesBetween ls first last = [] := by
  rw [linesBetween_eq_slice, slice, List.drop_eq_nil_iff, List.length_take]
  omega

/-! ### Blanks at the end -/

lemma trim_eq (cs : List Char) : trim cs = (cs.dropWhile isBlank).rdropWhile isBlank := rfl

/-- Blanks behind a text do not show. -/
lemma trim_append_of_blank {s : List Char} (h : ∀ c ∈ s, isBlank c = true) (a : List Char) :
    trim (a ++ s) = trim a := by
  rw [trim_eq, trim_eq, List.dropWhile_append]
  split
  · rename_i hempty
    rw [List.isEmpty_iff.mp hempty, List.dropWhile_eq_nil_iff.mpr h]
  · rw [List.rdropWhile, List.reverse_append,
      List.dropWhile_append_of_pos (fun c hc => h c (List.mem_reverse.mp hc))]
    rfl

/-- Anything else makes a text longer. -/
lemma trim_append_of_solid {s : List Char} {c : Char} (hc : c ∈ s) (hsolid : isBlank c = false)
    (a : List Char) : trim a <+: trim (a ++ s) ∧ (trim a).length < (trim (a ++ s)).length := by
  rw [trim_eq, trim_eq, List.dropWhile_append]
  split
  · rename_i hempty
    rw [List.isEmpty_iff.mp hempty]
    refine ⟨List.nil_prefix, List.length_pos_iff.mpr ?_⟩
    rw [Ne, List.rdropWhile_eq_nil_iff, not_forall]
    refine ⟨c, fun hall => ?_⟩
    have hmem : c ∈ s.dropWhile isBlank := by
      rw [← List.takeWhile_append_dropWhile (p := isBlank) (l := s), List.mem_append] at hc
      rcases hc with hc | hc
      · rw [List.mem_takeWhile_imp hc] at hsolid
        cases hsolid
      · exact hc
    rw [hall hmem] at hsolid
    cases hsolid
  · have hne : s.rdropWhile isBlank ≠ [] := by
      intro hnil
      rw [List.rdropWhile_eq_nil_iff.mp hnil c hc] at hsolid
      cases hsolid
    have hlong : (a.dropWhile isBlank ++ s).rdropWhile isBlank =
        a.dropWhile isBlank ++ s.rdropWhile isBlank := by
      have hreverse : (s.reverse.dropWhile isBlank).isEmpty = false := by
        rw [List.isEmpty_eq_false_iff]
        exact fun hnil => hne (by rw [List.rdropWhile, hnil]; rfl)
      rw [List.rdropWhile, List.reverse_append, List.dropWhile_append, hreverse]
      simp [List.rdropWhile]
    have hshort := List.rdropWhile_prefix isBlank (l := a.dropWhile isBlank)
    rw [hlong]
    refine ⟨hshort.trans (List.prefix_append _ _), ?_⟩
    have hpos := List.length_pos_iff.mpr hne
    have hle := hshort.length_le
    rw [List.length_append]
    omega

/-- What stands behind a text changes its beginning, unless it is blank or the beginning ends before. -/
lemma take_trim_append_iff (a s : List Char) (n : Nat) :
    (trim (a ++ s)).take n = (trim a).take n ↔
      (∀ c ∈ s, isBlank c = true) ∨ n ≤ (trim a).length := by
  by_cases hblank : ∀ c ∈ s, isBlank c = true
  · rw [trim_append_of_blank hblank]
    exact ⟨fun _ => Or.inl hblank, fun _ => rfl⟩
  · push Not at hblank
    obtain ⟨c, hc, hsolid⟩ := hblank
    obtain ⟨⟨tail, htail⟩, hlt⟩ := trim_append_of_solid hc (by simpa using hsolid) a
    constructor
    · intro hsame
      have hlength := congrArg List.length hsame
      rw [List.length_take, List.length_take] at hlength
      exact Or.inr (by omega)
    · rintro (hall | hle)
      · exact absurd (hall c hc) hsolid
      · rw [← htail, List.take_append_of_le_length hle]

lemma unlines_concat (ls : List (List Char)) (line : List Char) :
    ∃ tail, unlines (ls ++ [line]) = unlines ls ++ tail ∧
      ((∀ c ∈ tail, isBlank c = true) ↔ ∀ c ∈ line, isBlank c = true) := by
  cases ls with
  | nil => exact ⟨line, by simp [unlines, join], Iff.rfl⟩
  | cons l ls =>
    refine ⟨'\n' :: line, ?_, ?_⟩
    · rw [List.cons_append, unlines_cons, unlines_cons, below_append]
      simp [below]
    · simp [show isBlank '\n' = true by decide]

/-! ### Texts of sections -/

/-- A text of which no more than the limit is kept, with dots in place of the rest. -/
def shortened (text : List Char) : List Char :=
  if sectionLimit < text.length then text.take sectionLimit ++ "...".toList else text

lemma take_shortened (text : List Char) :
    (shortened text).take sectionLimit = text.take sectionLimit := by
  unfold shortened
  split
  · rw [List.take_append_of_le_length, List.take_take, min_self]
    rw [List.length_take]
    omega
  · rfl

/-- The text strictly between two lines of a document, without the blanks around it. -/
def textBetween (content : List Char) (first last : Nat) : List Char :=
  trim (unlines (linesBetween (lines content) first last))

/-- The first heading behind the given one that does not lie deeper. -/
structure IsNext (hs : List Heading) (i : Nat) (h : Heading) (j : Nat) (next : Heading) : Prop where
  here : hs[i]? = some h
  there : hs[j]? = some next
  later : i < j
  level_le : next.level ≤ h.level
  deeper : ∀ (k : Nat) (g : Heading), i < k → k < j → hs[k]? = some g → h.level < g.level

lemma isNext_succ {hs : List Heading} {i : Nat} {h next : Heading} (hi : hs[i]? = some h)
    (hj : hs[i + 1]? = some next) (hlevel : next.level ≤ h.level) : IsNext hs i h (i + 1) next :=
  ⟨hi, hj, Nat.lt_succ_self i, hlevel, fun k g hk hlt => by omega⟩

/-- All headings behind the given one lie deeper. -/
def IsLast (hs : List Heading) (i : Nat) (h : Heading) : Prop :=
  ∀ (k : Nat) (g : Heading), i < k → hs[k]? = some g → h.level < g.level

lemma IsNext.find?_eq {hs : List Heading} {i j : Nat} {h next : Heading}
    (hnext : IsNext hs i h j next) :
    (hs.drop (i + 1)).find? (·.level ≤ h.level) = some next := by
  obtain ⟨hj, hget⟩ := List.getElem?_eq_some_iff.mp hnext.there
  have hlater := hnext.later
  have hplace : i + 1 + (j - (i + 1)) = j := by omega
  rw [List.find?_eq_some_iff_getElem]
  refine ⟨decide_eq_true hnext.level_le, j - (i + 1), ?_, ?_, ?_⟩
  · rw [List.length_drop]
    omega
  · simp only [List.getElem_drop, hplace, hget]
  · intro k hk
    have hdeeper := hnext.deeper (i + 1 + k) _ (by omega) (by omega) (List.getElem?_eq_getElem (by omega))
    simpa using hdeeper

lemma IsLast.find?_eq {hs : List Heading} {i : Nat} {h : Heading} (hlast : IsLast hs i h) :
    (hs.drop (i + 1)).find? (·.level ≤ h.level) = none := by
  rw [List.find?_eq_none]
  intro g hg
  obtain ⟨k, hk⟩ := List.mem_iff_getElem?.mp hg
  rw [List.getElem?_drop] at hk
  have hdeeper := hlast _ g (by omega) hk
  simpa using hdeeper

/-- Headings stand in the order of their lines. -/
lemma line_le_of_lt {content : List Char} {i j : Nat} {h g : Heading} (hij : i < j)
    (hi : (sortedHeadings content)[i]? = some h) (hj : (sortedHeadings content)[j]? = some g) :
    h.line ≤ g.line := by
  have hsorted : (sortedHeadings content).Pairwise fun a b => decide (a.line ≤ b.line) = true := by
    refine List.pairwise_mergeSort ?_ ?_ _
    · intro a b c hab hbc
      exact decide_eq_true ((of_decide_eq_true hab).trans (of_decide_eq_true hbc))
    · intro a b
      simpa using le_total a.line b.line
  obtain ⟨hilt, rfl⟩ := List.getElem?_eq_some_iff.mp hi
  obtain ⟨hjlt, rfl⟩ := List.getElem?_eq_some_iff.mp hj
  exact of_decide_eq_true (List.pairwise_iff_getElem.mp hsorted i j hilt hjlt hij)

lemma line_of_mem_sortedHeadings {content : List Char} {i : Nat} {h : Heading}
    (hi : (sortedHeadings content)[i]? = some h) : 1 ≤ h.line ∧ h.line ≤ (lines content).length := by
  have hmem := List.mem_of_getElem? hi
  rw [sortedHeadings, List.mem_mergeSort] at hmem
  exact line_of_mem_allHeadings hmem

/-- The text of a section reaches over the line of the next heading. -/
lemma sectionText_of_next (content : List Char) {h next : Heading} {later : List Heading}
    (hfind : later.find? (·.level ≤ h.level) = some next) (hline : 1 ≤ next.line) :
    sectionText (lines content) h later = shortened (textBetween content h.line (next.line + 1)) := by
  have hlast : sectionEnd (lines content).length h later + 1 = next.line + 1 - 1 := by
    rw [sectionEnd, hfind]
    change next.line - 1 + 1 = next.line + 1 - 1
    omega
  rw [sectionText, hlast, textBetween, linesBetween_eq_slice]
  rfl

/-- The last section reaches to the end. -/
lemma sectionText_of_last (content : List Char) {h : Heading} {later : List Heading}
    (hfind : later.find? (·.level ≤ h.level) = none) :
    sectionText (lines content) h later =
      shortened (textBetween content h.line ((lines content).length + 1)) := by
  have hall : slice h.line (sectionEnd (lines content).length h later + 1) (lines content) =
      linesBetween (lines content) h.line ((lines content).length + 1) := by
    rw [sectionEnd, hfind, linesBetween_eq_slice, slice, slice, List.take_of_length_le (by simp),
      List.take_of_length_le (by simp)]
  rw [sectionText, hall]
  rfl

/-- The line of the next heading does not show at the end of a text. -/
lemma take_textBetween_succ_iff {content line : List Char} {first last : Nat} (hlt : first < last)
    (hline : (lines content)[last - 1]? = some line) (n : Nat) :
    (textBetween content first (last + 1)).take n = (textBetween content first last).take n ↔
      (∀ c ∈ line, isBlank c = true) ∨ n ≤ (textBetween content first last).length := by
  obtain ⟨tail, htail, hblank⟩ := unlines_concat (linesBetween (lines content) first last) line
  rw [textBetween, textBetween, linesBetween_succ hlt hline, htail, take_trim_append_iff, hblank]

/-- What the text of a section holds. Behind the last heading of its level it reaches to the end of the
document. Otherwise it goes on to the next heading that does not lie deeper, with the line of this
heading. So it stops before that line exactly if both headings stand on the same line, or the line is
blank, or the text before it is long enough to be cut. -/
theorem section_stops_before_next_iff {content : List Char} {i : Nat} {h : Heading}
    (hi : (sortedHeadings content)[i]? = some h) :
    (IsLast (sortedHeadings content) i h →
      sectionText (lines content) h ((sortedHeadings content).drop (i + 1)) =
        shortened (textBetween content h.line ((lines content).length + 1))) ∧
    ∀ j next, IsNext (sortedHeadings content) i h j next →
      sectionText (lines content) h ((sortedHeadings content).drop (i + 1)) =
        shortened (textBetween content h.line (next.line + 1)) ∧
      ((sectionText (lines content) h ((sortedHeadings content).drop (i + 1))).take sectionLimit =
          (textBetween content h.line next.line).take sectionLimit ↔
        next.line = h.line ∨
          (∃ line, (lines content)[next.line - 1]? = some line ∧ ∀ c ∈ line, isBlank c = true) ∨
          sectionLimit ≤ (textBetween content h.line next.line).length) := by
  refine ⟨fun hlast => sectionText_of_last content hlast.find?_eq, fun j next hnext => ?_⟩
  obtain ⟨hone, hcount⟩ := line_of_mem_sortedHeadings hnext.there
  have htext := sectionText_of_next content hnext.find?_eq hone
  refine ⟨htext, ?_⟩
  rw [htext, take_shortened]
  rcases (line_le_of_lt hnext.later hi hnext.there).eq_or_lt with hsame | hlt
  · have hnone : textBetween content h.line (next.line + 1) = textBetween content h.line next.line := by
      rw [textBetween, textBetween, linesBetween_eq_nil (by omega), linesBetween_eq_nil (by omega)]
    rw [hnone]
    exact ⟨fun _ => Or.inl hsame.symm, fun _ => rfl⟩
  · obtain ⟨line, hline⟩ : ∃ line, (lines content)[next.line - 1]? = some line :=
      ⟨_, List.getElem?_eq_getElem (by omega)⟩
    rw [take_textBetween_succ_iff hlt hline, hline]
    simp [hlt.ne']

/-- Two headings of one level, of which the second is marked and underlined. -/
def twiceMarked : List Char :=
  "# A\nx\n# B\n===".toList

lemma sortedHeadings_twiceMarked :
    sortedHeadings twiceMarked =
      [⟨1, ['A'], ['A'], 1, .marked, 0, 3⟩, ⟨1, ['B'], ['B'], 3, .marked, 6, 9⟩,
        ⟨1, "# B".toList, "# B".toList, 3, .doubleUnderlined, 6, 13⟩] := by
  have hall : allHeadings twiceMarked =
      [⟨1, ['A'], ['A'], 1, .marked, 0, 3⟩, ⟨1, ['B'], ['B'], 3, .marked, 6, 9⟩,
        ⟨1, "# B".toList, "# B".toList, 3, .doubleUnderlined, 6, 13⟩] := by
    decide +kernel
  rw [sortedHeadings, hall]
  exact List.mergeSort_of_pairwise (by decide)

/-- The first section holds the line of the second heading. The second section ends on the line where it
begins. -/
theorem twiceMarked_sections :
    ∃ a b c, sortedHeadings twiceMarked = [a, b, c] ∧
      IsNext [a, b, c] 0 a 1 b ∧ IsNext [a, b, c] 1 b 2 c ∧
      (sectionText (lines twiceMarked) a [b, c]).take sectionLimit ≠
        (textBetween twiceMarked a.line b.line).take sectionLimit ∧
      (sectionText (lines twiceMarked) b [c]).take sectionLimit =
        (textBetween twiceMarked b.line c.line).take sectionLimit := by
  have hstops : ∀ i h j next, IsNext (sortedHeadings twiceMarked) i h j next →
      ((sectionText (lines twiceMarked) h ((sortedHeadings twiceMarked).drop (i + 1))).take
          sectionLimit = (textBetween twiceMarked h.line next.line).take sectionLimit ↔
        next.line = h.line ∨
          (∃ line, (lines twiceMarked)[next.line - 1]? = some line ∧ ∀ c ∈ line, isBlank c = true) ∨
          sectionLimit ≤ (textBetween twiceMarked h.line next.line).length) :=
    fun i h j next hnext => ((section_stops_before_next_iff hnext.here).2 j next hnext).2
  rw [sortedHeadings_twiceMarked] at hstops ⊢
  refine ⟨_, _, _, rfl, isNext_succ rfl rfl le_rfl, isNext_succ rfl rfl le_rfl, ?_, ?_⟩
  · have hlines : (lines twiceMarked)[2]? = some "# B".toList := by decide +kernel
    have htext : textBetween twiceMarked 1 3 = ['x'] := by decide +kernel
    intro hsame
    rcases (hstops 0 _ 1 _ (isNext_succ rfl rfl le_rfl)).mp hsame with
      hline | ⟨line, hline, hblank⟩ | hlong
    · exact absurd hline (by decide)
    · obtain rfl : "# B".toList = line := Option.some.inj (hlines.symm.trans hline)
      exact absurd (hblank '#' (by decide)) (by decide)
    · change sectionLimit ≤ (textBetween twiceMarked 1 3).length at hlong
      rw [htext] at hlong
      exact absurd hlong (by decide)
  · exact (hstops 1 _ 2 _ (isNext_succ rfl rfl le_rfl)).mpr (Or.inl rfl)

/-- The section of the first heading should be the line between the two headings. -/
theorem next_heading_is_kept :
    ∃ a b, sortedHeadings "# A\nx\n# B".toList = [a, b] ∧ IsNext [a, b] 0 a 1 b ∧
      sectionText (lines "# A\nx\n# B".toList) a [b] = "x\n# B".toList ∧
      textBetween "# A\nx\n# B".toList a.line b.line = "x".toList := by
  have hall : allHeadings "# A\nx\n# B".toList =
      [⟨1, ['A'], ['A'], 1, .marked, 0, 3⟩, ⟨1, ['B'], ['B'], 3, .marked, 6, 9⟩] := by
    decide +kernel
  have hsorted : sortedHeadings "# A\nx\n# B".toList =
      [⟨1, ['A'], ['A'], 1, .marked, 0, 3⟩, ⟨1, ['B'], ['B'], 3, .marked, 6, 9⟩] := by
    rw [sortedHeadings, hall]
    exact List.mergeSort_of_pairwise (by decide)
  exact ⟨_, _, hsorted, isNext_succ rfl rfl le_rfl, by decide +kernel, by decide +kernel⟩

end CodeAtlas.Outline
