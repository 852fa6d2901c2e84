import CodeAtlas.Extract.Generic
import CodeAtlas.Extract.JavaScript
import CodeAtlas.Proofs.Lines

/-!
# The brace that ends a block

The end of a block is looked for line by line, with a count of the braces that are open and a flag for
the first of them. Where the lines stand in the text does not matter to the count, so the search goes
over the text as a whole, and stops at the first closing brace that brings the count back to zero. Behind
an opening brace that is the one that matches it: as long as the braces in between are balanced, the
count stays above zero.
-/

namespace CodeAtlas

namespace Text

lemma unlines_cons_of_ne_nil (l : List Char) {ls : List (List Char)} (h : ls ≠ []) :
    unlines (l :: ls) = l ++ '\n' :: unlines ls := by
  cases ls with
  | nil => exact absurd rfl h
  | cons m ls => simp [unlines_cons, below]

/-- A text can be cut inside of a line. -/
lemma unlines_cut (ls : List (List Char)) (u v : List Char) (ms : List (List Char)) :
    unlines (ls ++ (u ++ v) :: ms) = unlines (ls ++ [u]) ++ unlines (v :: ms) := by
  induction ls with
  | nil => simp [unlines_cons, below]
  | cons l ls ih =>
    rw [List.cons_append, unlines_cons_of_ne_nil l (by simp), ih, List.cons_append,
      unlines_cons_of_ne_nil l (by simp)]
    simp

end Text

namespace Extract

open CodeAtlas.Text

/-- A text in which every opening character has a closing one. -/
inductive Balanced (opening closing : Char) : List Char → Prop
  | nil : Balanced opening closing []
  | other {c : Char} {w : List Char} (hopening : c ≠ opening) (hclosing : c ≠ closing)
      (hw : Balanced opening closing w) : Balanced opening closing (c :: w)
  | block {u w : List Char} (hu : Balanced opening closing u) (hw : Balanced opening closing w) :
      Balanced opening closing (opening :: (u ++ closing :: w))

variable {opening closing : Char} {s : BraceDepth} {a b cs : List Char}

/-- Two cuts of a text at the same character: one comes first, or they are the same. -/
lemma cut_cases {c : Char} {u v x y : List Char} (h : u ++ c :: v = x ++ c :: y) :
    (∃ z, u = x ++ c :: z) ∨ u = x ∨ ∃ z, x = u ++ c :: z ∧ v = z ++ c :: y := by
  rcases List.append_eq_append_iff.mp h with ⟨z, rfl, hz⟩ | ⟨z, rfl, hz⟩
  · cases z with
    | nil => simp
    | cons d z =>
      obtain ⟨rfl, rfl⟩ := List.cons.inj hz
      exact Or.inr (Or.inr ⟨z, rfl, rfl⟩)
  · cases z with
    | nil => simp
    | cons d z =>
      obtain ⟨rfl, _⟩ := List.cons.inj hz
      exact Or.inl ⟨z, rfl⟩

namespace Balanced

/-- A balanced text closes as much as it opens. -/
lemma count_eq (hne : opening ≠ closing) (h : Balanced opening closing cs) :
    cs.count opening = cs.count closing := by
  induction h with
  | nil => simp
  | other hopening hclosing _ ih => simp [List.count_cons_of_ne, hopening, hclosing, ih]
  | block _ _ ihu ihw =>
    simp only [List.count_cons_self, List.count_append, List.count_cons_of_ne hne,
      List.count_cons_of_ne hne.symm, ihu, ihw]
    omega

/-- Before each closing brace of a balanced text one is open. -/
lemma count_lt (hne : opening ≠ closing) (h : Balanced opening closing cs) {x y : List Char}
    (hcs : cs = x ++ closing :: y) : x.count closing < x.count opening := by
  induction h generalizing x y with
  | nil => simp at hcs
  | @other c w hopening hclosing _ ih =>
    cases x with
    | nil => exact absurd (List.cons.inj hcs).1 hclosing
    | cons d x =>
      obtain ⟨rfl, hw⟩ := List.cons.inj hcs
      simpa [List.count_cons_of_ne, hopening, hclosing] using ih hw
  | @block u w hu hw ihu ihw =>
    cases x with
    | nil => exact absurd (List.cons.inj hcs).1 hne
    | cons d x =>
      obtain ⟨rfl, hcut⟩ := List.cons.inj hcs
      have hsame := hu.count_eq hne
      simp only [List.count_cons_self, List.count_cons_of_ne hne]
      -- The brace is in the block, or it ends the block, or it comes after it.
      rcases cut_cases hcut with ⟨z, hz⟩ | rfl | ⟨z, rfl, hz⟩
      · have hlt := ihu hz
        omega
      · omega
      · have hlt := ihw hz
        simp only [List.count_append, List.count_cons_self, List.count_cons_of_ne hne.symm]
        omega

end Balanced

/-! ### The count -/

namespace BraceDepth

/-- The depth behind a text. -/
def after (opening closing : Char) (s : BraceDepth) (cs : List Char) : BraceDepth :=
  ⟨s.depth + cs.count opening - cs.count closing, s.opened || cs.contains opening⟩

/-- A closing brace ends the block. -/
def AtEnd (s : BraceDepth) : Prop :=
  s.opened = true ∧ s.depth - 1 = 0

/-- No block ends inside of a text. -/
def Passes (opening closing : Char) (s : BraceDepth) (cs : List Char) : Prop :=
  ∀ u v, cs = u ++ closing :: v → ¬ (s.after opening closing u).AtEnd

@[simp] lemma after_nil (s : BraceDepth) : s.after opening closing [] = s := by
  simp [after]

lemma after_append (s : BraceDepth) (a b : List Char) :
    s.after opening closing (a ++ b) = (s.after opening closing a).after opening closing b := by
  simp only [after, List.count_append, Nat.cast_add, List.contains_eq_mem, List.mem_append,
    Bool.decide_or, Bool.or_assoc, mk.injEq, and_true]
  omega

@[simp] lemma passes_nil (s : BraceDepth) : s.Passes opening closing [] := by
  simp [Passes]

lemma Passes.append (ha : s.Passes opening closing a)
    (hb : (s.after opening closing a).Passes opening closing b) :
    s.Passes opening closing (a ++ b) := by
  intro u v huv
  rcases List.append_eq_append_iff.mp huv with ⟨z, rfl, hz⟩ | ⟨z, rfl, hz⟩
  · rw [after_append]
    exact hb z v hz
  · cases z with
    | nil => simpa using hb [] v (by simpa using hz.symm)
    | cons d z =>
      obtain ⟨rfl, _⟩ := List.cons.inj hz
      exact ha u z rfl

/-- Texts without braces leave the depth as it is. -/
lemma after_of_not_mem (hopening : opening ∉ cs) (hclosing : closing ∉ cs) (s : BraceDepth) :
    s.after opening closing cs = s := by
  simp [after, List.count_eq_zero.mpr hopening, List.count_eq_zero.mpr hclosing, hopening]

lemma passes_of_not_mem (hclosing : closing ∉ cs) (s : BraceDepth) :
    s.Passes opening closing cs := by
  rintro u v rfl
  simp at hclosing

/-- From the start on, a block ends where the count of the braces comes back to zero. -/
lemma passes_start_iff : ({} : BraceDepth).Passes opening closing cs ↔
    ∀ front rest, cs = front ++ closing :: rest → opening ∈ front →
      front.count opening ≠ front.count closing + 1 := by
  refine forall_congr' fun front => forall_congr' fun rest => forall_congr' fun _ => ?_
  simp only [after, AtEnd, Bool.false_or, List.contains_iff_mem, not_and]
  refine forall_congr' fun _ => ?_
  omega

/-- One character at a time. -/
lemma passes_cons_iff {c : Char} : s.Passes opening closing (c :: cs) ↔
    (c = closing → ¬ s.AtEnd) ∧ (s.after opening closing [c]).Passes opening closing cs := by
  constructor
  · intro h
    refine ⟨?_, ?_⟩
    · rintro rfl
      simpa using h [] cs rfl
    · rintro u v rfl
      rw [← after_append]
      exact h (c :: u) v rfl
  · rintro ⟨hc, hcs⟩
    rw [← List.singleton_append]
    refine Passes.append ?_ hcs
    rintro u v huv
    cases u with
    | nil =>
      obtain ⟨rfl, _⟩ := List.cons.inj huv
      simpa using hc rfl
    | cons d u => simp at huv

/-- The first block that ends in a text. -/
def IsFirst (opening closing : Char) (s : BraceDepth) (front : List Char) : Prop :=
  s.Passes opening closing front ∧ (s.after opening closing front).AtEnd

lemma IsFirst.append (ha : s.Passes opening closing a)
    (hb : (s.after opening closing a).IsFirst opening closing b) :
    s.IsFirst opening closing (a ++ b) :=
  ⟨ha.append hb.1, by rw [after_append]; exact hb.2⟩

/-- Only one block is the first. -/
lemma IsFirst.unique {x y v w : List Char} (hx : s.IsFirst opening closing x)
    (hy : s.IsFirst opening closing y) (h : x ++ closing :: v = y ++ closing :: w) : x = y := by
  rcases cut_cases h with ⟨z, rfl⟩ | hxy | ⟨z, rfl, _⟩
  · exact absurd hy.2 (hx.1 y z rfl)
  · exact hxy
  · exact absurd hx.2 (hy.1 x z rfl)

/-- The scan of a line goes on behind it, or stops at the end of a block. -/
lemma scan_cases (hne : opening ≠ closing) (s : BraceDepth) (cs : List Char) :
    (s.scan opening closing cs = some (s.after opening closing cs) ∧ s.Passes opening closing cs) ∨
    (s.scan opening closing cs = none ∧ ∃ u v, cs = u ++ closing :: v ∧
      s.IsFirst opening closing u) := by
  induction cs generalizing s with
  | nil => simp [scan]
  | cons c cs ih =>
    by_cases hend : c = closing ∧ s.AtEnd
    · obtain ⟨rfl, hend⟩ := hend
      right
      refine ⟨?_, [], cs, rfl, passes_nil s, by simpa using hend⟩
      simp only [scan, hne.symm, if_false, if_true]
      exact if_pos hend
    · have hstep : s.scan opening closing (c :: cs) =
          (s.after opening closing [c]).scan opening closing cs := by
        by_cases hopening : c = opening
        · simp [scan, after, hopening, hne]
        · by_cases hclosing : c = closing
          · have hnot : ¬ (s.opened = true ∧ s.depth - 1 = 0) := fun h => hend ⟨hclosing, h⟩
            simp [scan, after, hclosing, hnot, hne, hne.symm]
          · simp [scan, after, hopening, hclosing, Ne.symm hopening]
      have hpass : s.Passes opening closing [c] := by
        rw [passes_cons_iff]
        exact ⟨fun hc h => hend ⟨hc, h⟩, passes_nil _⟩
      rw [hstep]
      rcases ih (s.after opening closing [c]) with ⟨hscan, hcs⟩ | ⟨hscan, u, v, rfl, hfirst⟩
      · left
        rw [hscan, ← after_append]
        exact ⟨rfl, hpass.append hcs⟩
      · right
        exact ⟨hscan, c :: u, v, rfl, IsFirst.append hpass hfirst⟩

/-- Behind an opening brace the first block ends at the closing brace that matches it. -/
lemma isFirst_block {p w : List Char} (hne : opening ≠ closing) (hopening : opening ∉ p)
    (hclosing : closing ∉ p) (hw : Balanced opening closing w) :
    ({} : BraceDepth).IsFirst opening closing (p ++ opening :: w) := by
  refine IsFirst.append (passes_of_not_mem hclosing _) ?_
  rw [after_of_not_mem hopening hclosing]
  have hcount := hw.count_eq hne
  constructor
  · rw [passes_start_iff]
    intro front rest hfront _
    cases front with
    | nil => exact absurd (List.cons.inj hfront).1 hne
    | cons c front =>
      obtain ⟨rfl, hrest⟩ := List.cons.inj hfront
      have hlt := hw.count_lt hne hrest
      simp only [List.count_cons_self, List.count_cons_of_ne hne]
      omega
  · simp [AtEnd, after, hne, hcount]

end BraceDepth

/-! ### The search -/

/-- In the text of lines a character stands on line `n`, with `front` before it and `rest` behind it. -/
def StandsOn (c : Char) (ls : List (List Char)) (n : Nat) (front rest : List Char) : Prop :=
  ∃ u v, ls[n]? = some (u ++ c :: v) ∧ front = unlines (ls.take n ++ [u]) ∧
    rest = unlines (v :: ls.drop (n + 1))

lemma StandsOn.text_eq {c : Char} {ls : List (List Char)} {n : Nat} {front rest : List Char}
    (h : StandsOn c ls n front rest) : unlines ls = front ++ c :: rest := by
  obtain ⟨u, v, hline, rfl, rfl⟩ := h
  obtain ⟨hn, hline⟩ := List.getElem?_eq_some_iff.mp hline
  have hsplit : ls = ls.take n ++ (u ++ c :: v) :: ls.drop (n + 1) := by
    rw [← hline, ← List.drop_eq_getElem_cons hn, List.take_append_drop]
  have hrest : unlines ((c :: v) :: ls.drop (n + 1)) = c :: unlines (v :: ls.drop (n + 1)) := by
    simp [unlines_cons]
  rw [← hrest, ← unlines_cut, ← hsplit]

/-- A line above moves the others down. -/
lemma StandsOn.cons {c : Char} {ls : List (List Char)} {n : Nat} {front rest : List Char}
    (h : StandsOn c ls n front rest) (l : List Char) :
    StandsOn c (l :: ls) (n + 1) (l ++ '\n' :: front) rest := by
  obtain ⟨u, v, hline, rfl, rfl⟩ := h
  refine ⟨u, v, by simpa using hline, ?_, by simp⟩
  rw [List.take_succ_cons, List.cons_append, unlines_cons_of_ne_nil l (by simp)]

/-- A line feed is no brace. -/
structure AreBraces (opening closing : Char) : Prop where
  ne : opening ≠ closing
  opening_ne : opening ≠ '\n'
  closing_ne : closing ≠ '\n'

/-- The search goes over the text, and stops where the first block ends. -/
lemma closingLine?_cases (h : AreBraces opening closing) (s : BraceDepth)
    (ls : List (List Char)) :
    (closingLine? opening closing s ls = none ∧ s.Passes opening closing (unlines ls)) ∨
    ∃ n front rest, closingLine? opening closing s ls = some n ∧
      StandsOn closing ls n front rest ∧ s.IsFirst opening closing front := by
  induction ls generalizing s with
  | nil => simp [closingLine?, unlines, join]
  | cons line ls ih =>
    rcases s.scan_cases h.ne line with ⟨hscan, hline⟩ | ⟨hscan, u, v, rfl, hfirst⟩
    · have hbreak : s.Passes opening closing (line ++ ['\n']) := by
        refine hline.append ?_
        rw [BraceDepth.passes_cons_iff]
        exact ⟨fun hc => absurd hc.symm h.closing_ne, BraceDepth.passes_nil _⟩
      have hafter : s.after opening closing (line ++ ['\n']) = s.after opening closing line := by
        simp [BraceDepth.after, h.opening_ne, h.opening_ne.symm, h.closing_ne.symm]
      simp only [closingLine?, hscan]
      rcases ih (s.after opening closing line) with ⟨hnone, hpasses⟩ |
        ⟨n, front, rest, hsome, hstands, hfirst⟩
      · left
        refine ⟨by simp [hnone], ?_⟩
        by_cases hls : ls = []
        · simpa [hls, unlines, join] using hline
        · rw [← hafter] at hpasses
          rw [unlines_cons_of_ne_nil line hls]
          simpa using hbreak.append hpasses
      · right
        refine ⟨n + 1, line ++ '\n' :: front, rest, by simp [hsome], hstands.cons line, ?_⟩
        rw [← hafter] at hfirst
        simpa using BraceDepth.IsFirst.append hbreak hfirst
    · right
      refine ⟨0, u, _, by simp [closingLine?, hscan], ⟨u, v, rfl, ?_, rfl⟩, hfirst⟩
      simp [unlines, join]

variable {lines : List (List Char)} {start : Nat} {front rest : List Char}

/-- The last line of a block is the one on which its end stands. -/
lemma exists_blockEnd_of_isFirst (h : AreBraces opening closing)
    (hfirst : ({} : BraceDepth).IsFirst opening closing front)
    (htext : unlines (lines.drop start) = front ++ closing :: rest) :
    ∃ n, StandsOn closing (lines.drop start) n front rest ∧
      ∀ length, blockEnd opening closing length lines start = (start + n : Nat) := by
  rcases closingLine?_cases h {} (lines.drop start) with ⟨_, hpasses⟩ |
    ⟨n, front', rest', hsome, hstands, hfirst'⟩
  · exact absurd hfirst.2 (hpasses front rest htext)
  · have hsame : front' ++ closing :: rest' = front ++ closing :: rest :=
      hstands.text_eq.symm.trans htext
    obtain rfl := hfirst'.unique hfirst hsame
    obtain rfl : rest' = rest := by simpa using hsame
    exact ⟨n, hstands, fun length => by simp [blockEnd, hsome]⟩

/-- Without an end, a block has a fixed length within the file. -/
lemma blockEnd_of_passes (h : AreBraces opening closing)
    (hpasses : ({} : BraceDepth).Passes opening closing (unlines (lines.drop start)))
    (length : Nat) :
    blockEnd opening closing length lines start =
      min ((start + length : Nat) : Int) ((lines.length : Int) - 1) := by
  rcases closingLine?_cases h {} (lines.drop start) with ⟨hnone, _⟩ |
    ⟨n, front, rest, _, hstands, hfirst⟩
  · simp [blockEnd, hnone]
  · exact absurd hfirst.2 (hpasses front rest hstands.text_eq)

/-- Lines without line feeds are counted by the line feeds between them. -/
lemma count_unlines_concat {ls : List (List Char)} (h : ∀ l ∈ ls, '\n' ∉ l) {u : List Char}
    (hu : '\n' ∉ u) : (unlines (ls ++ [u])).count '\n' = ls.length := by
  induction ls with
  | nil => simpa [unlines, join] using List.count_eq_zero.mpr hu
  | cons l ls ih =>
    rw [List.forall_mem_cons] at h
    rw [List.cons_append, unlines_cons_of_ne_nil l (by simp), List.count_append,
      List.count_eq_zero.mpr h.1, List.count_cons_self, ih h.2]
    simp

lemma StandsOn.count_lineFeed {c : Char} {ls : List (List Char)} {n : Nat}
    (h : StandsOn c ls n front rest) (hls : ∀ l ∈ ls, '\n' ∉ l) : front.count '\n' = n := by
  obtain ⟨u, v, hline, rfl, _⟩ := h
  obtain ⟨hn, hline⟩ := List.getElem?_eq_some_iff.mp hline
  have hu : '\n' ∉ u := by
    intro hmem
    have hnot := hls _ (hline ▸ List.getElem_mem hn)
    exact hnot (List.mem_append_left _ hmem)
  rw [count_unlines_concat (fun l hl => hls l (List.mem_of_mem_take hl)) hu, List.length_take]
  omega

/-- The end of a block is the brace that matches its first one. Take the text from some line on. If it has
an opening brace, with no brace before it and balanced braces behind it up to a closing one, then the
block ends on the line on which that closing brace stands; between lines that have none of their own, its
number is that of the line feeds before it. If the count never comes back to zero at a closing brace, the
block has a fixed length within the file, which is shorter in JavaScript than in other languages. -/
theorem block_ends_at_matching_brace (lines : List (List Char)) (start : Nat) :
    (∀ p w rest, unlines (lines.drop start) = p ++ '\x7b' :: w ++ '\x7d' :: rest →
      '\x7b' ∉ p → '\x7d' ∉ p → Balanced '\x7b' '\x7d' w →
      ∃ n, StandsOn '\x7d' (lines.drop start) n (p ++ '\x7b' :: w) rest ∧
        ((∀ l ∈ lines, '\n' ∉ l) → n = (p ++ '\x7b' :: w).count '\n') ∧
        blockEnd '\x7b' '\x7d' JavaScript.blockLength lines start = (start + n : Nat) ∧
        blockEnd '\x7b' '\x7d' Generic.blockLength lines start = (start + n : Nat)) ∧
    ((∀ front rest, unlines (lines.drop start) = front ++ '\x7d' :: rest → '\x7b' ∈ front →
      front.count '\x7b' ≠ front.count '\x7d' + 1) →
      blockEnd '\x7b' '\x7d' JavaScript.blockLength lines start =
        min ((start + 10 : Nat) : Int) ((lines.length : Int) - 1) ∧
      blockEnd '\x7b' '\x7d' Generic.blockLength lines start =
        min ((start + 20 : Nat) : Int) ((lines.length : Int) - 1)) := by
  have hbraces : AreBraces '\x7b' '\x7d' := ⟨by decide, by decide, by decide⟩
  constructor
  · intro p w rest htext hopening hclosing hw
    have hfirst := BraceDepth.isFirst_block hbraces.ne hopening hclosing hw
    obtain ⟨n, hstands, hend⟩ := exists_blockEnd_of_isFirst hbraces hfirst htext
    refine ⟨n, hstands, fun hlines => ?_, hend _, hend _⟩
    exact (hstands.count_lineFeed fun l hl => hlines l (List.mem_of_mem_drop hl)).symm
  · intro hnever
    have hpasses := BraceDepth.passes_start_iff.mpr hnever
    exact ⟨blockEnd_of_passes hbraces hpasses _, blockEnd_of_passes hbraces hpasses _⟩

/-- A block inside of another one, with both ends on one line. -/
def nestedBlock : List (List Char) :=
  [['a'], ['f', '\x7b'], ['g', '\x7b'], ['\x7d', '\x7d'], ['b']]

theorem nestedBlock_ends :
    Balanced '\x7b' '\x7d' ['\n', 'g', '\x7b', '\n', '\x7d'] ∧
    blockEnd '\x7b' '\x7d' JavaScript.blockLength nestedBlock 1 = 3 ∧
    blockEnd '\x7b' '\x7d' Generic.blockLength nestedBlock 1 = 3 ∧
    blockEnd '\x7b' '\x7d' Generic.blockLength nestedBlock 3 = 4 := by
  have hinner : Balanced '\x7b' '\x7d' ['\x7b', '\n', '\x7d'] :=
    .block (.other (by decide) (by decide) .nil) .nil
  have hw : Balanced '\x7b' '\x7d' ['\n', 'g', '\x7b', '\n', '\x7d'] :=
    .other (by decide) (by decide) (.other (by decide) (by decide) hinner)
  obtain ⟨n, _, hn, hscript, hother⟩ := (block_ends_at_matching_brace nestedBlock 1).1
    ['f'] _ ['\n', 'b'] (by decide) (by decide) (by decide) hw
  obtain rfl : n = 2 := hn (by decide)
  obtain ⟨_, hunclosed⟩ := (block_ends_at_matching_brace nestedBlock 3).2 fun front rest h hmem => by
    -- There is no opening brace from the fourth line on.
    have hnone : '\x7b' ∈ unlines (nestedBlock.drop 3) := h ▸ List.mem_append_left _ hmem
    exact absurd hnone (by decide)
  exact ⟨hw, hscript, hother, hunclosed⟩

end Extract

end CodeAtlas
