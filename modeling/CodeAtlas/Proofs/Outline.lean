import CodeAtlas.Proofs.Characters
import CodeAtlas.Proofs.Headings

/-!
# The outline of a document that was written in sections

A section is written as a marked heading with its lines below it. A document of sections gives back one
element for each of them, in order, with its level, its title and the line of its heading.

A heading can be read in several ways, since number signs that close it may stand on a later line. But
all readings have the same level and title, and none of them reaches the next heading: behind the signs
and the space of a heading stands a title, so no line ends there.
-/

namespace CodeAtlas.Outline

open CodeAtlas.Text CodeAtlas.Text.Pattern

/-! ### Documents in sections -/

/-- A character of a title: a letter, a digit or a space. -/
def isTitleChar (c : Char) : Bool :=
  c == ' ' || isWord c && c != '_'

/-- A line that neither is a heading nor makes one of the line above, and holds no code. -/
structure IsBody (line : List Char) : Prop where
  oneLine : '\n' ∉ line
  noCode : '`' ∉ line
  noSign : line.head? ≠ some '#'
  noDoubleUnderline : isUnderline '=' line = false
  noUnderline : isUnderline '-' line = false

instance (line : List Char) : Decidable (IsBody line) :=
  decidable_of_iff ('\n' ∉ line ∧ '`' ∉ line ∧ line.head? ≠ some '#' ∧
      isUnderline '=' line = false ∧ isUnderline '-' line = false)
    ⟨fun ⟨hline, hcode, hsign, hdouble, hsingle⟩ => ⟨hline, hcode, hsign, hdouble, hsingle⟩,
      fun h => ⟨h.oneLine, h.noCode, h.noSign, h.noDoubleUnderline, h.noUnderline⟩⟩

/-- A section of a document. -/
structure Section where
  level : Nat
  title : List Char
  body : List (List Char)
  one_le_level : 1 ≤ level
  level_le_six : level ≤ 6
  title_ne_nil : title ≠ []
  all_title : title.all isTitleChar = true
  head_ne_space : title.head? ≠ some ' '
  last_ne_space : title.getLast? ≠ some ' '
  isBody : ∀ line ∈ body, IsBody line

namespace Section

/-- The line of the heading. -/
def heading (s : Section) : List Char :=
  List.replicate s.level '#' ++ ' ' :: s.title

/-- The lines of a section. -/
def lines (s : Section) : List (List Char) :=
  s.heading :: s.body

end Section

/-- The lines of a document. -/
def linesOf (ss : List Section) : List (List Char) :=
  ss.flatMap (·.lines)

/-- The document made of sections. -/
def document (ss : List Section) : List Char :=
  unlines (linesOf ss)

/-- Sections with the lines of their headings, where the first one starts on the given line. -/
def placed : Nat → List Section → List (Section × Nat)
  | _, [] => []
  | line, s :: ss => (s, line) :: placed (line + s.lines.length) ss

lemma document_cons (s : Section) (ss : List Section) :
    document (s :: ss) = s.heading ++ (below s.body ++ below (linesOf ss)) := by
  rw [document, linesOf, List.flatMap_cons, Section.lines, List.cons_append, unlines_cons,
    below_append]
  rfl

/-- The next section stands on a new line. -/
lemma below_linesOf_cons (s : Section) (ss : List Section) :
    below (linesOf (s :: ss)) = '\n' :: document (s :: ss) := by
  rw [document, linesOf, List.flatMap_cons, Section.lines, List.cons_append, unlines_cons]
  rfl

/-! ### Titles -/

lemma isClosing_of_isWord {c : Char} (h : isWord c = true) : isClosing c = false := by
  have hsign : isNumberSign c = false := by
    rw [isNumberSign, beq_eq_false_iff_ne]
    rintro rfl
    exact absurd h (by decide)
  rw [isClosing, isBlank_of_isWord h, hsign]
  rfl

lemma isMarkup_of_isTitleChar {c : Char} (h : isTitleChar c = true) : isMarkup c = false := by
  have hbad : ['`', '*', '['].all (fun d => !isTitleChar d) = true := by decide
  rw [isMarkup, Bool.eq_false_iff]
  intro hmarkup
  have hnot := List.all_eq_true.mp hbad c (List.contains_iff_mem.mp hmarkup)
  rw [h] at hnot
  cases hnot

namespace Section

variable (s : Section)

lemma isClosing_of_mem {c : Char} (hc : c ∈ s.title) (hspace : c ≠ ' ') : isClosing c = false := by
  have hchar := List.all_eq_true.mp s.all_title c hc
  simp only [isTitleChar, Bool.or_eq_true, beq_iff_eq, hspace, false_or, Bool.and_eq_true] at hchar
  exact isClosing_of_isWord hchar.1

/-- A title starts with something that closes no heading. -/
lemma title_eq_cons : ∃ c cs, s.title = c :: cs ∧ isClosing c = false := by
  match hs : s.title with
  | [] => exact absurd hs s.title_ne_nil
  | c :: cs =>
    refine ⟨c, cs, rfl, s.isClosing_of_mem (by simp [hs]) ?_⟩
    rintro rfl
    exact s.head_ne_space (by simp [hs])

lemma isClosing_of_getLast? {c : Char} (h : s.title.getLast? = some c) : isClosing c = false := by
  refine s.isClosing_of_mem (List.mem_of_getLast? h) ?_
  rintro rfl
  exact s.last_ne_space h

lemma isMarkup_of_mem {c : Char} (hc : c ∈ s.title) : isMarkup c = false :=
  isMarkup_of_isTitleChar (List.all_eq_true.mp s.all_title c hc)

lemma lineFeed_not_mem_title : '\n' ∉ s.title := fun h =>
  absurd (List.all_eq_true.mp s.all_title _ h) (by decide)

lemma lineFeed_not_mem_heading : '\n' ∉ s.heading := by
  simp [heading, List.mem_replicate, s.lineFeed_not_mem_title]

end Section

/-! ### Readings of a marked heading -/

/-- The heading of a section can be read without anything that closes it. -/
lemma Section.reads_heading (s : Section) {front rest : List Char}
    (hstart : AtLineStart front) (hend : AtLineEnd rest) :
    ∃ gs, markedPattern.Reads front s.heading rest gs := by
  have hlevel := s.one_le_level
  have htitle : ∀ c ∈ s.title, inLine c = true := fun c hc => by
    rw [inLine, bne_iff_ne]
    rintro rfl
    exact s.lineFeed_not_mem_title hc
  refine ⟨_, [], s.heading, [], _, rfl, rfl, ⟨hstart, rfl, rfl⟩, List.replicate s.level '#',
    ' ' :: s.title, _, _, rfl, rfl, ⟨[], rfl, ⟨?_, ?_, ?_⟩, rfl⟩, [' '], s.title, [], _, rfl, rfl,
    ⟨⟨by simp [isBlank], le_rfl, by simp⟩, rfl⟩, s.title, [], _, _, by simp, rfl,
    ⟨[], rfl, ⟨htitle, ?_, by simp⟩, rfl⟩, [], [], [], [], rfl, rfl, Or.inr ⟨rfl, rfl⟩, hend, rfl, rfl⟩
  · simp [isNumberSign]
  · simpa using hlevel
  · simpa using s.level_le_six
  · exact List.length_pos_iff.mpr s.title_ne_nil

namespace IsMark

variable {front text rest : List Char} {gs : Groups} {signs blank title closing : List Char}
  {s : Section}

/-- The signs of a reading end at the space behind the signs of the heading. -/
lemma signs_eq (h : IsMark front text rest gs signs blank title closing) {after : List Char}
    (htext : text ++ rest = s.heading ++ after) :
    signs = List.replicate s.level '#' ∧
      blank ++ (title ++ (closing ++ rest)) = ' ' :: (s.title ++ after) := by
  have hcut : signs ++ (blank ++ (title ++ (closing ++ rest))) =
      List.replicate s.level '#' ++ ' ' :: (s.title ++ after) := by
    simpa [h.text_eq, Section.heading] using htext
  obtain ⟨u, hsigns, hblank⟩ := exists_of_stop hcut h.all_signs (by decide)
  obtain ⟨b, bs, rfl⟩ := List.exists_cons_of_ne_nil h.blank_ne_nil
  cases u with
  | nil => exact ⟨by simpa using hsigns.symm, hblank⟩
  | cons c u =>
    obtain ⟨rfl, _⟩ := List.cons.inj hblank
    have hmem : b ∈ List.replicate s.level '#' := by simp [hsigns]
    have hb := h.all_blank b List.mem_cons_self
    rw [(List.mem_replicate.mp hmem).2] at hb
    exact absurd hb (by decide)

/-- The space is the only blank before the title. -/
lemma blank_eq (h : IsMark front text rest gs signs blank title closing) {after : List Char}
    (hcut : blank ++ (title ++ (closing ++ rest)) = ' ' :: (s.title ++ after)) :
    title ++ (closing ++ rest) = s.title ++ after := by
  obtain ⟨c, cs, hc, hsolid⟩ := s.title_eq_cons
  rw [isClosing, Bool.or_eq_false_iff] at hsolid
  rw [hc] at hcut ⊢
  obtain ⟨b, bs, rfl⟩ := List.exists_cons_of_ne_nil h.blank_ne_nil
  obtain ⟨_, hrest⟩ := List.cons.inj hcut
  cases bs with
  | nil => exact hrest
  | cons d bs =>
    obtain ⟨rfl, _⟩ := List.cons.inj hrest
    have hd := h.all_blank d (by simp)
    rw [hsolid.1] at hd
    cases hd

/-- The reading ends with the title, or closes the heading behind it. -/
lemma title_eq (h : IsMark front text rest gs signs blank title closing) {ls : List (List Char)}
    (hcut : title ++ (closing ++ rest) = s.title ++ below ls) :
    title = s.title ∧ closing ++ rest = below ls := by
  obtain ⟨u, hu, hrest⟩ : ∃ u, s.title = title ++ u ∧ closing ++ rest = u ++ below ls := by
    cases ls with
    | nil => exact ⟨closing ++ rest, by simpa [below] using hcut.symm, by simp [below]⟩
    | cons l ls => exact exists_of_stop hcut h.all_inLine (by decide)
  rcases List.eq_nil_or_concat' u with rfl | ⟨u, x, rfl⟩
  · exact ⟨by simpa using hu.symm, by simpa using hrest⟩
  · -- The last character of the title is not one that closes a heading.
    have hlast : isClosing x = false := s.isClosing_of_getLast? (by simp [hu])
    rw [List.append_assoc] at hrest
    obtain ⟨v, rfl, hback⟩ := exists_of_stop hrest h.all_closing hlast
    have hend := h.lineEnd
    rw [hback] at hend
    have hfeed : '\n' ∈ v ++ [x] := by
      cases v with
      | nil => simp [atLineEnd_cons_iff.mp hend]
      | cons y v => simp [atLineEnd_cons_iff.mp hend]
    refine absurd ?_ s.lineFeed_not_mem_title
    rw [hu, List.append_assoc]
    exact List.mem_append_right _ (List.mem_append_right _ hfeed)

/-- What closes a heading stands in the body of its section, since no line ends between the beginning of
the next heading and its title. -/
lemma closing_within (h : IsMark front text rest gs signs blank title closing)
    {body : List (List Char)} {ss : List Section}
    (hrest : closing ++ rest = below body ++ below (linesOf ss)) :
    ∃ y, below body = closing ++ y ∧ rest = y ++ below (linesOf ss) := by
  cases ss with
  | nil => exact ⟨rest, by simpa [linesOf, below] using hrest.symm, by simp [linesOf, below]⟩
  | cons s ss =>
    obtain ⟨c, cs, hc, hsolid⟩ := s.title_eq_cons
    have hfeed : c ≠ '\n' := by
      rintro rfl
      exact absurd hsolid (by decide)
    have hstop : closing ++ rest = (below body ++ '\n' :: (List.replicate s.level '#' ++ [' '])) ++
        c :: (cs ++ (below s.body ++ below (linesOf ss))) := by
      rw [hrest, below_linesOf_cons, document_cons, Section.heading, hc]
      simp
    obtain ⟨u, hu, hback⟩ := exists_of_stop hstop h.all_closing hsolid
    have hend := h.lineEnd
    rw [hback] at hend
    cases u with
    | nil => exact absurd (atLineEnd_cons_iff.mp hend) hfeed
    | cons d u =>
      obtain rfl := atLineEnd_cons_iff.mp hend
      rcases List.append_eq_append_iff.mp hu with ⟨w, rfl, hw⟩ | ⟨y, hy, _⟩
      · cases w with
        | nil =>
          refine ⟨[], by simp, ?_⟩
          rw [List.append_assoc] at hrest
          exact List.append_cancel_left hrest
        | cons e w =>
          have hmem : '\n' ∈ List.replicate s.level '#' ++ [' '] := by
            simp [(List.cons.inj hw).2]
          simp [List.mem_replicate] at hmem
      · refine ⟨y, hy, ?_⟩
        rw [hy, List.append_assoc] at hrest
        exact List.append_cancel_left hrest

end IsMark

/-! ### All marked headings -/

/-- What a reading leaves of a body has no marked line. -/
lemma unmarked_of_isBody {body : List (List Char)} {closing y : List Char}
    (hbody : ∀ line ∈ body, IsBody line) (h : below body = closing ++ y)
    (hy : AtLineEnd y) : Unmarked y := by
  cases y with
  | nil =>
    intro line hline
    obtain rfl : line = [] := by simpa [lines, pieces] using hline
    simp
  | cons c y =>
    obtain rfl := atLineEnd_cons_iff.mp hy
    have hlines : lines closing ++ lines y = [] :: body := by
      rw [lines, lines, ← pieces_append_cons, ← h]
      exact lines_append_below (fun line hline => (hbody line hline).oneLine) []
    have hall : ∀ line ∈ [] :: body, line.head? ≠ some '#' := by
      rw [List.forall_mem_cons]
      exact ⟨by simp, fun line hline => (hbody line hline).noSign⟩
    intro line hline
    rw [lines, pieces, if_pos rfl] at hline
    rcases List.mem_cons.mp hline with rfl | hline
    · simp
    · exact hall line (hlines ▸ List.mem_append_right _ hline)

/-- What matters of a match: the level, the title and the line. -/
def markOf (content : List Char) (m : Match) : Nat × List Char × Nat :=
  ((m.group 1).length, m.group 2, lineAt content m.start)

/-- Every reading of a section's heading has its level and its title, and leaves a part of the body. -/
lemma Section.reads_document {s : Section} {ss : List Section} {front text rest : List Char}
    {gs : Groups} (hcut : document (s :: ss) = text ++ rest)
    (h : markedPattern.Reads front text rest gs) :
    ∃ y, rest = y ++ below (linesOf ss) ∧ s.heading ++ below s.body = text ++ y ∧ Unmarked y ∧
      markOf (front ++ document (s :: ss)) ⟨front.length, (front ++ text).length, gs⟩ =
        (s.level, s.title, front.count '\n' + 1) := by
  obtain ⟨signs, blank, title, closing, hmark⟩ := isMark_of_reads h
  have hlines := hcut
  rw [document_cons] at hlines
  obtain ⟨hsigns, hblank⟩ := hmark.signs_eq hlines.symm
  have htitle := hmark.blank_eq hblank
  rw [← below_append] at htitle
  obtain ⟨rfl, hclosing⟩ := hmark.title_eq htitle
  rw [below_append] at hclosing
  obtain ⟨y, hbody, rfl⟩ := hmark.closing_within hclosing
  refine ⟨y, rfl, ?_, unmarked_of_isBody s.isBody hbody hmark.lineEnd.left, ?_⟩
  · rw [← List.append_assoc, ← List.append_assoc] at hlines
    exact List.append_cancel_right hlines
  · obtain ⟨hone, htwo⟩ := hmark.groups (m := ⟨front.length, (front ++ text).length, gs⟩) rfl
    simp only [markOf, hone, htwo, hsigns, lineAt, List.length_replicate, List.take_left]

/-- So the next match is at the heading, and the others are behind it. -/
lemma Section.next_match (s : Section) (ss : List Section) (n : Nat) {front : List Char}
    (hstart : AtLineStart front) :
    ∃ text y, s.heading ++ below s.body = text ++ y ∧ Unmarked y ∧
      (markedPattern.matchesFrom (n + 1) (.between front (document (s :: ss)))).map
          (markOf (front ++ document (s :: ss))) =
        (s.level, s.title, front.count '\n' + 1) ::
          (markedPattern.matchesFrom n (.between (front ++ text) (y ++ below (linesOf ss)))).map
            (markOf (front ++ document (s :: ss))) := by
  obtain ⟨gs, hheading⟩ := s.reads_heading hstart
    (atLineEnd_append (atLineEnd_below s.body) (atLineEnd_below (linesOf ss)))
  obtain ⟨text, rest, gs, hcut, hreads, hmatches⟩ :=
    matchesFrom_succ ⟨s.heading, _, gs, document_cons s ss, hheading⟩ n fun text rest gs _ h => by
      obtain ⟨_, _, _, _, hmark⟩ := isMark_of_reads h
      obtain ⟨tail, rfl⟩ := hmark.exists_cons
      exact List.cons_ne_nil _ _
  obtain ⟨y, rfl, htext, hy, hmark⟩ := reads_document hcut hreads
  refine ⟨text, y, htext, hy, ?_⟩
  rw [hmatches, List.map_cons, hmark]

/-- The lines of a section, and the line feed behind them. -/
lemma Section.count_lineFeed (s : Section) :
    (s.heading ++ below s.body ++ ['\n']).count '\n' = s.lines.length := by
  have hbody := count_below fun line hline => (s.isBody line hline).oneLine
  have hheading := List.count_eq_zero.mpr s.lineFeed_not_mem_heading
  simp [lines, hbody, hheading]

/-- From a heading on, the matches are the headings of this section and of those behind it. -/
theorem marks_matchesFrom (ss : List Section) {s : Section} (front : List Char) {n : Nat}
    (hstart : AtLineStart front) (hn : ss.length < n) :
    (markedPattern.matchesFrom n (.between front (document (s :: ss)))).map
        (markOf (front ++ document (s :: ss))) =
      (placed (front.count '\n' + 1) (s :: ss)).map fun p => (p.1.level, p.1.title, p.2) := by
  induction ss generalizing s n front with
  | nil =>
    obtain ⟨n, rfl⟩ := Nat.exists_eq_succ_of_ne_zero (Nat.ne_zero_of_lt hn)
    obtain ⟨text, y, _, hy, hmatches⟩ := s.next_match [] n hstart
    have hnone : markedPattern.matchesFrom n
        (.between (front ++ text) (y ++ below (linesOf []))) = [] := by
      rw [matchesFrom_of_absent (absent_of_unmarked hy _ _)]
      exact matchesFrom_eq_nil (by simp [linesOf, below, not_starts_nil]) n
    rw [hmatches, hnone]
    rfl
  | cons s' ss ih =>
    obtain ⟨n, rfl⟩ := Nat.exists_eq_succ_of_ne_zero (Nat.ne_zero_of_lt hn)
    obtain ⟨text, y, htext, hy, hmatches⟩ := s.next_match (s' :: ss) n hstart
    have hrest : y ++ below (linesOf (s' :: ss)) = (y ++ ['\n']) ++ document (s' :: ss) := by
      rw [below_linesOf_cons]
      simp
    have hfront : (front ++ text) ++ (y ++ ['\n']) =
        front ++ (s.heading ++ below s.body ++ ['\n']) := by
      rw [htext]
      simp
    have hdocument : front ++ document (s :: s' :: ss) =
        (front ++ (s.heading ++ below s.body ++ ['\n'])) ++ document (s' :: ss) := by
      rw [document_cons, below_linesOf_cons]
      simp
    have hnext : AtLineStart (front ++ (s.heading ++ below s.body ++ ['\n'])) := by
      rw [← List.append_assoc]
      exact atLineStart_concat_iff.mpr rfl
    rw [hmatches, hrest, matchesFrom_of_absent (absent_of_unmarked hy.concat _ _), hfront, hdocument,
      ih _ hnext (Nat.lt_of_succ_lt_succ hn), List.count_append, s.count_lineFeed,
      Nat.add_right_comm]
    rfl

/-! ### No other headings -/

lemma Section.head?_heading (s : Section) : s.heading.head? = some '#' := by
  obtain ⟨n, hn⟩ := Nat.exists_eq_succ_of_ne_zero (Nat.ne_zero_of_lt s.one_le_level)
  rw [heading, hn, List.replicate_succ]
  rfl

lemma Section.mem_heading {s : Section} {c : Char} (h : c ∈ s.heading) :
    c = '#' ∨ c = ' ' ∨ c ∈ s.title := by
  rw [heading, List.mem_append, List.mem_cons] at h
  exact h.imp_left fun h => (List.mem_replicate.mp h).2

/-- A line of a document is a heading or a line of a body. -/
lemma mem_linesOf {ss : List Section} {line : List Char} (h : line ∈ linesOf ss) :
    (∃ s : Section, line = s.heading) ∨ IsBody line := by
  obtain ⟨s, _, hline⟩ := List.mem_flatMap.mp h
  rcases List.mem_cons.mp hline with rfl | hline
  · exact Or.inl ⟨s, rfl⟩
  · exact Or.inr (s.isBody line hline)

lemma lines_document (s : Section) (ss : List Section) :
    lines (document (s :: ss)) = linesOf (s :: ss) := by
  have hfeed : ∀ line ∈ linesOf (s :: ss), '\n' ∉ line := fun line hline => by
    rcases mem_linesOf hline with ⟨s, rfl⟩ | hbody
    · exact s.lineFeed_not_mem_heading
    · exact hbody.oneLine
  exact lines_unlines hfeed

lemma matchesIn_underline_document {sign : Char} (hsign : sign = '=' ∨ sign = '-')
    (ss : List Section) : (underlinePattern sign).matchesIn (document ss) = [] := by
  refine matchesIn_underline (by rcases hsign with rfl | rfl <;> decide) fun line hline => ?_
  match ss with
  | [] =>
    obtain rfl : line = [] := by simpa [document, linesOf, unlines, join, lines, pieces] using hline
    rfl
  | s :: ss =>
    rw [lines_document] at hline
    rcases mem_linesOf hline with ⟨s, rfl⟩ | hbody
    · rw [isUnderline, s.head?_heading]
      rcases hsign with rfl | rfl <;> rfl
    · rcases hsign with rfl | rfl
      · exact hbody.noDoubleUnderline
      · exact hbody.noUnderline

/-! ### Code and markup -/

lemma withoutCode_document (ss : List Section) : withoutCode (document ss) = document ss := by
  refine codePattern_needs.replaceIn_eq _ fun c hc => ?_
  rw [beq_eq_false_iff_ne]
  rintro rfl
  rcases mem_unlines hc with hfeed | ⟨line, hline, hc⟩
  · exact absurd hfeed (by decide)
  · rcases mem_linesOf hline with ⟨s, rfl⟩ | hbody
    · rcases Section.mem_heading hc with h | h | h
      · exact absurd h (by decide)
      · exact absurd h (by decide)
      · cases s.isMarkup_of_mem h
    · exact hbody.noCode hc

lemma Section.trim_title (s : Section) : trim s.title = s.title := by
  have hblank : ∀ c, isClosing c = false → isBlank c = false := fun c hc => by
    rw [isClosing, Bool.or_eq_false_iff] at hc
    exact hc.1
  obtain ⟨c, cs, hs, hc⟩ := s.title_eq_cons
  refine trim_eq_self (fun d hd => hblank d ?_) fun d hd => hblank d (s.isClosing_of_getLast? hd)
  obtain rfl : c = d := by simpa [hs] using hd
  exact hc

lemma Section.cleanText_title (s : Section) : cleanText s.title = s.title := by
  rw [cleanText, inlineMarkup_needs.replaceIn_eq _ fun c hc => s.isMarkup_of_mem hc, s.trim_title]

/-! ### The outline -/

lemma le_of_mem_placed {line : Nat} {ss : List Section} {p : Section × Nat}
    (h : p ∈ placed line ss) : line ≤ p.2 := by
  induction ss generalizing line with
  | nil => cases h
  | cons s ss ih =>
    rcases List.mem_cons.mp h with rfl | h
    · exact le_rfl
    · exact (Nat.le_add_right _ _).trans (ih h)

lemma pairwise_placed (line : Nat) (ss : List Section) :
    (placed line ss).Pairwise fun p q => p.2 ≤ q.2 := by
  induction ss generalizing line with
  | nil => exact List.Pairwise.nil
  | cons s ss ih =>
    rw [placed, List.pairwise_cons]
    exact ⟨fun p hp => (Nat.le_add_right _ _).trans (le_of_mem_placed hp), ih _⟩

/-- The heading of a section stands on its line. -/
lemma getElem?_of_mem_placed (before : List (List Char)) {ss : List Section} {p : Section × Nat}
    (h : p ∈ placed (before.length + 1) ss) : (before ++ linesOf ss)[p.2 - 1]? = some p.1.heading := by
  induction ss generalizing before with
  | nil => cases h
  | cons s ss ih =>
    have hlines : linesOf (s :: ss) = s.lines ++ linesOf ss := List.flatMap_cons
    rcases List.mem_cons.mp h with rfl | h
    · simp [hlines, Section.lines]
    · rw [Nat.add_right_comm, ← List.length_append] at h
      rw [hlines, ← List.append_assoc]
      exact ih _ h

lemma length_le_length_linesOf (ss : List Section) : ss.length ≤ (linesOf ss).length := by
  induction ss with
  | nil => exact Nat.zero_le _
  | cons s ss ih =>
    have hlines : linesOf (s :: ss) = s.lines ++ linesOf ss := List.flatMap_cons
    rw [hlines, List.length_append, Section.lines, List.length_cons, List.length_cons]
    omega

/-- The marked headings of a document are those of its sections. -/
lemma marks_document (ss : List Section) :
    (markedPattern.matchesIn (document ss)).map (markOf (document ss)) =
      (placed 1 ss).map fun p => (p.1.level, p.1.title, p.2) := by
  match ss with
  | [] =>
    have hnone : markedPattern.matchesIn (document []) = [] :=
      matchesIn_eq_nil (by simp [document, linesOf, unlines, join, not_starts_nil])
    rw [hnone]
    rfl
  | s :: ss =>
    have hmany : ss.length < (document (s :: ss)).length + 1 := by
      have hlines : (linesOf (s :: ss)).length = (document (s :: ss)).count '\n' + 1 := by
        rw [← lines_document, lines, length_pieces]
      have hsections := length_le_length_linesOf (s :: ss)
      have hcount := List.count_le_length (a := '\n') (l := document (s :: ss))
      rw [List.length_cons] at hsections
      omega
    exact marks_matchesFrom ss [] atLineStart_nil hmany

lemma allHeadings_document (ss : List Section) :
    (allHeadings (document ss)).map (fun h => (h.level, h.clean, h.line)) =
      (placed 1 ss).map fun p => (p.1.level, p.1.title, p.2) := by
  have hclean : (fun m : Nat × List Char × Nat => (m.1, cleanText (trim m.2.1), m.2.2)) ∘
      (fun p : Section × Nat => (p.1.level, p.1.title, p.2)) =
      fun p => (p.1.level, p.1.title, p.2) := by
    funext p
    simp [p.1.trim_title, p.1.cleanText_title]
  have hmarks := congrArg
    (List.map fun m : Nat × List Char × Nat => (m.1, cleanText (trim m.2.1), m.2.2)) (marks_document ss)
  rw [List.map_map, List.map_map, hclean] at hmarks
  rw [← hmarks, allHeadings, withoutCode_document, matchesIn_underline_document (Or.inl rfl),
    matchesIn_underline_document (Or.inr rfl)]
  simp only [List.map_nil, List.append_nil, List.map_map]
  rfl

/-- They are in order from the beginning. -/
lemma sortedHeadings_document (ss : List Section) :
    sortedHeadings (document ss) = allHeadings (document ss) := by
  have hsorted : ((allHeadings (document ss)).map fun h => (h.level, h.clean, h.line)).Pairwise
      fun a b => a.2.2 ≤ b.2.2 := by
    rw [allHeadings_document, List.pairwise_map]
    exact pairwise_placed 1 ss
  refine List.mergeSort_of_pairwise ((List.pairwise_map.mp hsorted).imp fun hle => ?_)
  exact decide_eq_true hle

/-- A document that was written in sections gives back one element for each section, in order: its kind
tells the level, its name is the title, and it starts on the line where the heading was written. -/
theorem document_outline (path : String) (ss : List Section) :
    (elements (some path) (document ss)).elements.map
        (fun e => (e.kind.label, e.name, e.location.lineStart)) =
      (placed 1 ss).map (fun p => (s!"h{p.1.level}", String.ofList p.1.title, (p.2 : Int))) ∧
    ∀ p ∈ placed 1 ss, (lines (document ss))[p.2 - 1]? = some p.1.heading := by
  constructor
  · have hheadings := congrArg (List.map fun m : Nat × List Char × Nat =>
      ((headingKind m.1).label, String.ofList m.2.1, (m.2.2 : Int))) (allHeadings_document ss)
    rw [List.map_map, List.map_map] at hheadings
    rw [map_elements, sortedHeadings_document]
    refine hheadings.trans (List.map_congr_left fun p _ => ?_)
    simp [label_headingKind p.1.one_le_level p.1.level_le_six]
  · intro p hp
    match ss with
    | [] => cases hp
    | s :: ss =>
      rw [lines_document]
      exact getElem?_of_mem_placed [] hp

/-- Sections of which the first is closed two lines below its heading, and the second has no body. -/
def closedLate : List Section :=
  [⟨1, "A b".toList, ["".toList, "  ## ".toList, "".toList], by decide, by decide, by decide,
      by decide, by decide, by decide, by decide⟩,
    ⟨3, "C1".toList, [], by decide, by decide, by decide, by decide, by decide, by decide, by simp⟩,
    ⟨2, "D".toList, ["==x".toList, " #".toList], by decide, by decide, by decide, by decide, by decide,
      by decide, by decide⟩]

theorem closedLate_outline :
    (elements (some "d.md") (document closedLate)).elements.map
        (fun e => (e.kind.label, e.name, e.location.lineStart)) =
      [("h1", "A b", 1), ("h3", "C1", 5), ("h2", "D", 6)] ∧
    (lines (document closedLate))[4]? = some "### C1".toList := by
  obtain ⟨helements, hheadings⟩ := document_outline "d.md" closedLate
  refine ⟨helements.trans (by decide +kernel), ?_⟩
  exact hheadings ((placed 1 closedLate)[1]) (List.getElem_mem _)

end CodeAtlas.Outline
