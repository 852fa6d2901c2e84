import CodeAtlas.Outline.Element
import CodeAtlas.Proofs.Patterns
import Mathlib.Data.List.TakeWhile

/-!
# How headings are read

A marked heading is read as its signs, blanks, a title, and blanks and signs that close it; what closes
it may go on over several lines, but it stops at the end of a line. A heading with an underline is read
only above a line that consists of signs and blanks. Code and markup are read only where their signs
are. Every heading of a document becomes an element.
-/

namespace CodeAtlas.Outline

open CodeAtlas.Text CodeAtlas.Text.Pattern

/-! ### Marked headings -/

/-- What closes a heading: blanks and number signs. -/
def isClosing (c : Char) : Bool :=
  isBlank c || isNumberSign c

/-- The parts of a text that is read as a marked heading. -/
structure IsMark (front text rest : List Char) (gs : Groups)
    (signs blank title closing : List Char) : Prop where
  text_eq : text = signs ++ (blank ++ (title ++ closing))
  groups_eq : gs = [⟨2, title ++ (closing ++ rest), title.length⟩, ⟨1, text ++ rest, signs.length⟩]
  lineStart : AtLineStart front
  lineEnd : AtLineEnd rest
  all_signs : ∀ c ∈ signs, isNumberSign c = true
  signs_ne_nil : signs ≠ []
  signs_le_six : signs.length ≤ 6
  all_blank : ∀ c ∈ blank, isBlank c = true
  blank_ne_nil : blank ≠ []
  all_inLine : ∀ c ∈ title, inLine c = true
  title_ne_nil : title ≠ []
  all_closing : ∀ c ∈ closing, isClosing c = true

lemma isClosing_of_reads {front text rest : List Char} {gs : Groups}
    (h : (opt (all [blanks, many1 isNumberSign, blanks])).Reads front text rest gs) :
    (∀ c ∈ text, isClosing c = true) ∧ gs = [] := by
  simp only [all, Reads, blanks, many, many1] at h
  rcases h with ⟨_, _, _, _, rfl, rfl, ⟨⟨hleft, _⟩, rfl⟩, _, _, _, _, rfl, rfl, ⟨⟨hsigns, _⟩, rfl⟩,
    ⟨hright, _⟩, rfl⟩ | ⟨rfl, rfl⟩
  · refine ⟨fun c hc => ?_, rfl⟩
    rw [List.mem_append, List.mem_append] at hc
    rw [isClosing, Bool.or_eq_true]
    rcases hc with hc | hc | hc
    · exact Or.inl (hleft c hc)
    · exact Or.inr (hsigns c hc)
    · exact Or.inl (hright c hc)
  · exact ⟨List.forall_mem_nil _, rfl⟩

lemma isMark_of_reads {front text rest : List Char} {gs : Groups}
    (h : markedPattern.Reads front text rest gs) :
    ∃ signs blank title closing, IsMark front text rest gs signs blank title closing := by
  obtain ⟨_, _, _, _, rfl, rfl, ⟨hstart, rfl, rfl⟩, signs, _, _, _, rfl, rfl, ⟨_, rfl, ⟨hsigns, rfl⟩⟩,
    blank, _, _, _, rfl, rfl, ⟨hblank, rfl⟩, title, _, _, _, rfl, rfl, ⟨_, rfl, ⟨htitle, rfl⟩⟩,
    closing, _, _, _, rfl, rfl, hopt, hend, rfl, rfl⟩ := h
  obtain ⟨hclosing, rfl⟩ := isClosing_of_reads hopt
  refine ⟨signs, blank, title, closing, ?_⟩
  constructor
  · simp
  · simp
  · exact hstart
  · exact hend
  · exact hsigns.1
  · exact List.length_pos_iff.mp hsigns.2.1
  · exact hsigns.2.2 6 rfl
  · exact hblank.1
  · exact List.length_pos_iff.mp hblank.2.1
  · exact htitle.1
  · exact List.length_pos_iff.mp htitle.2.1
  · exact hclosing

namespace IsMark

variable {front text rest : List Char} {gs : Groups} {signs blank title closing : List Char}

lemma exists_cons (h : IsMark front text rest gs signs blank title closing) :
    ∃ tail, text = '#' :: tail := by
  match signs, h with
  | [], h => exact absurd rfl h.signs_ne_nil
  | c :: signs, h =>
    obtain rfl : c = '#' := by simpa [isNumberSign] using h.all_signs c List.mem_cons_self
    exact ⟨_, h.text_eq⟩

/-- The groups of a reading are its signs and its title. -/
lemma groups (h : IsMark front text rest gs signs blank title closing) {m : Match}
    (hm : m.groups = gs) : m.group 1 = signs ∧ m.group 2 = title := by
  have htext := h.text_eq
  constructor <;> simp [Match.group, Match.group?, GroupSpan.text, hm, h.groups_eq, htext]

end IsMark

/-- No line of the text starts with a number sign. -/
def Unmarked (gap : List Char) : Prop :=
  ∀ line ∈ lines gap, line.head? ≠ some '#'

lemma absent_of_unmarked {gap : List Char} (h : Unmarked gap) (front cs : List Char) :
    markedPattern.Absent front gap cs := by
  rintro a b rfl hb ⟨text, rest, gs, htext, hreads⟩
  obtain ⟨signs, blank, title, closing, hmark⟩ := isMark_of_reads hreads
  obtain ⟨tail, rfl⟩ := hmark.exists_cons
  obtain ⟨d, b, rfl⟩ := List.exists_cons_of_ne_nil hb
  obtain rfl : d = '#' := (List.cons.inj htext).1
  obtain ⟨line, hline, hhead⟩ := exists_mem_lines_head (show '#' ≠ '\n' by decide) b
  rcases List.eq_nil_or_concat' a with rfl | ⟨a, e, rfl⟩
  · exact h line hline hhead
  · have hstart := hmark.lineStart
    rw [← List.append_assoc] at hstart
    obtain rfl := atLineStart_concat_iff.mp hstart
    refine h line ?_ hhead
    rw [List.append_assoc, lines]
    exact (pieces_append_cons '\n' a _) ▸ List.mem_append_right _ hline

lemma not_starts_nil (front : List Char) : ¬ markedPattern.Starts front [] := by
  rintro ⟨text, rest, gs, htext, hreads⟩
  obtain ⟨signs, blank, title, closing, hmark⟩ := isMark_of_reads hreads
  obtain ⟨tail, rfl⟩ := hmark.exists_cons
  cases htext

lemma Unmarked.concat {gap : List Char} (h : Unmarked gap) : Unmarked (gap ++ ['\n']) := by
  intro line hline
  rw [lines, pieces_append_cons, List.mem_append] at hline
  rcases hline with hline | hline
  · exact h line hline
  · obtain rfl : line = [] := by simpa [pieces] using hline
    simp

/-! ### Headings with underlines -/

/-- A line of signs, with or without blanks behind them. -/
def isUnderline (sign : Char) (line : List Char) : Bool :=
  line.head? == some sign && (line.dropWhile (· == sign)).all isBlank

lemma isUnderline_append {sign : Char} {signs blank : List Char}
    (hsigns : ∀ c ∈ signs, (c == sign) = true) (hne : signs ≠ [])
    (hblank : ∀ c ∈ blank, isBlank c = true) : isUnderline sign (signs ++ blank) = true := by
  obtain ⟨c, signs, rfl⟩ := List.exists_cons_of_ne_nil hne
  have hhead : c = sign := by simpa using hsigns c List.mem_cons_self
  rw [isUnderline, List.dropWhile_append_of_pos hsigns, Bool.and_eq_true, List.all_eq_true]
  exact ⟨by simp [hhead], fun d hd => hblank d ((List.dropWhile_sublist _).subset hd)⟩

/-- The parts of a text that is read as a heading with an underline. The blanks behind the signs may go on
over several lines. -/
structure IsUnderlined (sign : Char) (front text rest title signs blank : List Char) : Prop where
  text_eq : text = title ++ '\n' :: (signs ++ blank)
  lineStart : AtLineStart front
  lineEnd : AtLineEnd rest
  all_inLine : ∀ c ∈ title, inLine c = true
  title_ne_nil : title ≠ []
  all_signs : ∀ c ∈ signs, (c == sign) = true
  signs_ne_nil : signs ≠ []
  all_blank : ∀ c ∈ blank, isBlank c = true

lemma reads_underline_iff {sign : Char} {front text rest : List Char} :
    (∃ gs, (underlinePattern sign).Reads front text rest gs) ↔
      ∃ title signs blank, IsUnderlined sign front text rest title signs blank := by
  constructor
  · rintro ⟨_, _, _, _, _, rfl, rfl, ⟨hstart, rfl, rfl⟩, title, _, _, _, rfl, rfl, ⟨_, rfl, ⟨htitle, rfl⟩⟩,
      _, _, _, _, rfl, rfl, hfeed, signs, _, _, _, rfl, rfl, ⟨hsigns, rfl⟩, blank, _, _, _, rfl, rfl,
      ⟨hblank, rfl⟩, hend, rfl, rfl⟩
    obtain ⟨rfl, rfl⟩ := reads_lit_iff.mp hfeed
    refine ⟨title, signs, blank, ?_⟩
    constructor
    · simp
    · exact hstart
    · exact hend
    · exact htitle.1
    · exact List.length_pos_iff.mp htitle.2.1
    · exact hsigns.1
    · exact List.length_pos_iff.mp hsigns.2.1
    · exact hblank.1
  · rintro ⟨title, signs, blank, h⟩
    refine ⟨_, [], text, [], _, rfl, rfl, ⟨h.lineStart, rfl, rfl⟩, title, '\n' :: (signs ++ blank), _, _,
      h.text_eq, rfl, ⟨[], rfl, ⟨h.all_inLine, ?_, by simp⟩, rfl⟩, ['\n'], signs ++ blank, [], _, rfl, rfl,
      reads_lit_iff.mpr ⟨rfl, rfl⟩, signs, blank, [], _, rfl, rfl, ⟨⟨h.all_signs, ?_, by simp⟩, rfl⟩, blank,
      [], [], _, by simp, rfl, ⟨⟨h.all_blank, by simp, by simp⟩, rfl⟩, h.lineEnd, rfl, rfl⟩
    · exact List.length_pos_iff.mpr h.title_ne_nil
    · exact List.length_pos_iff.mpr h.signs_ne_nil

/-- The line below such a heading consists of signs and blanks. -/
lemma IsUnderlined.underline {sign : Char} {front text rest title signs blank : List Char}
    (h : IsUnderlined sign front text rest title signs blank) (hsign : sign ≠ '\n') :
    ∃ line, (lines (front ++ (text ++ rest)))[front.count '\n' + 1]? = some line ∧
      isUnderline sign line = true := by
  have hsplit : front ++ (text ++ rest) =
      (front ++ title ++ ['\n']) ++ (signs ++ (blank ++ rest)) := by
    rw [h.text_eq]
    simp
  have htitle : title.count '\n' = 0 := List.count_eq_zero.mpr fun hmem =>
    absurd (h.all_inLine _ hmem) (by decide)
  have hcount : front.count '\n' + 1 = (front ++ title ++ ['\n']).count '\n' := by simp [htitle]
  have hsigns : ∀ c ∈ signs, (c != '\n') = true := fun c hc => by
    rw [beq_iff_eq.mp (h.all_signs c hc), bne_iff_ne]
    exact hsign
  refine ⟨signs ++ (blank ++ rest).takeWhile (· != '\n'), ?_, ?_⟩
  · have hstart : AtLineStart (front ++ title ++ ['\n']) := atLineStart_concat_iff.mpr rfl
    have hline := getElem?_lines hstart (signs ++ (blank ++ rest)) 0
    rw [lines_eq_cons (signs ++ (blank ++ rest)), List.takeWhile_append_of_pos hsigns] at hline
    rw [hsplit, hcount]
    exact hline
  · refine isUnderline_append h.all_signs h.signs_ne_nil fun c hc => ?_
    have hrest : rest.takeWhile (· != '\n') = [] := by
      cases rest with
      | nil => rfl
      | cons d rest => simp [atLineEnd_cons_iff.mp h.lineEnd]
    rw [List.takeWhile_append, hrest, List.append_nil] at hc
    split at hc
    · exact h.all_blank c hc
    · exact h.all_blank c ((List.takeWhile_sublist _).subset hc)

/-- Without such a line there is no heading with an underline. -/
lemma matchesIn_underline {content : List Char} {sign : Char} (hsign : sign ≠ '\n')
    (h : ∀ line ∈ lines content, isUnderline sign line = false) :
    (underlinePattern sign).matchesIn content = [] := by
  refine matchesIn_eq_nil ?_
  rintro a b rfl ⟨text, rest, gs, rfl, hreads⟩
  obtain ⟨title, signs, blank, hread⟩ := reads_underline_iff.mp ⟨gs, hreads⟩
  obtain ⟨line, hline, hunderline⟩ := hread.underline hsign
  rw [h line (List.mem_of_getElem? hline)] at hunderline
  cases hunderline

/-! ### Levels -/

/-- A heading has one of six levels. -/
lemma level_of_mem_allHeadings {content : List Char} {h : Heading} (hh : h ∈ allHeadings content) :
    1 ≤ h.level ∧ h.level ≤ 6 := by
  simp only [allHeadings, List.mem_append, List.mem_map] at hh
  rcases hh with (⟨m, hm, rfl⟩ | ⟨m, _, rfl⟩) | ⟨m, _, rfl⟩
  · obtain ⟨_, _, _, _, _, hreads, hmatch⟩ := isMatch_of_mem_matchesIn hm
    obtain ⟨signs, _, _, _, hmark⟩ := isMark_of_reads hreads
    have hsigns : m.group 1 = signs := (hmark.groups (by rw [hmatch])).1
    rw [headingOf, hsigns]
    exact ⟨List.length_pos_iff.mpr hmark.signs_ne_nil, hmark.signs_le_six⟩
  · simp [headingOf]
  · simp [headingOf]

/-! ### Code and markup -/

/-- Signs that stand before strong or emphasised text, code and links. -/
def isMarkup (c : Char) : Bool :=
  ['`', '*', '['].contains c

lemma codePattern_needs : codePattern.Needs (· == '`') :=
  ((needs_lit (c := '`') (by decide) rfl).all_cons _).alt
    ((needs_lit (c := '`') (by decide) rfl).all_cons _)

lemma inlineMarkup_needs : inlineMarkup.Needs isMarkup :=
  ((needs_lit (c := '*') (by decide) rfl).all_cons _).alt <|
    ((needs_lit (c := '*') (by decide) rfl).all_cons _).alt <|
      ((needs_lit (c := '`') (by decide) rfl).all_cons _).alt
        (((needs_lit (c := '[') (by decide) rfl).all_cons _).all_cons _)

/-! ### Elements -/

lemma length_parentsFrom (index : Nat) (enclosing : List (Int × Nat)) (levels : List Int) :
    (parentsFrom index enclosing levels).length = levels.length := by
  induction levels generalizing index enclosing with
  | nil => rfl
  | cons level levels ih => rw [parentsFrom, List.length_cons, ih, List.length_cons]

/-- Every heading becomes an element. -/
lemma map_headingElements (path : String) (ls : List (List Char)) (all : List Heading)
    {hs : List Heading} {parents : List (Option Nat)} (h : parents.length = hs.length) :
    (headingElements path ls all hs parents).map
        (fun e => (e.kind.label, e.name, e.location.lineStart)) =
      hs.map fun h => ((headingKind h.level).label, String.ofList h.clean, (h.line : Int)) := by
  induction hs generalizing parents with
  | nil => rfl
  | cons heading hs ih =>
    match parents, h with
    | parent :: parents, h =>
      rw [headingElements, List.map_cons, List.map_cons, ih (Nat.succ.inj h)]
      rfl

lemma map_elements (path : String) (content : List Char) :
    (elements (some path) content).elements.map
        (fun e => (e.kind.label, e.name, e.location.lineStart)) =
      (sortedHeadings content).map fun h =>
        ((headingKind h.level).label, String.ofList h.clean, (h.line : Int)) := by
  apply map_headingElements
  rw [parents, length_parentsFrom, List.length_map]

lemma label_headingKind {level : Nat} (hone : 1 ≤ level) (hsix : level ≤ 6) :
    (headingKind level).label = s!"h{level}" := by
  interval_cases level <;> decide +kernel

end CodeAtlas.Outline
