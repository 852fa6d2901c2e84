import CodeAtlas.Outline.Inline
import CodeAtlas.Proofs.Replacing

/-!
# Cleaning undoes markup

A line is written in segments: plain text, strong text, emphasised text, code and links. Cleaning the line
leaves the plain texts and the texts inside the markup.

Stars of neighbours run together, as in `**a***b*` and `*a***b**`, and could be cut in several ways. But
nothing can be read in plain text, and where a segment of markup begins only this segment can be read. So
what is found are the segments, one after the other.
-/

namespace CodeAtlas.Outline

open CodeAtlas.Text CodeAtlas.Text.Pattern

/-! ### Segments -/

/-- A sign that markup is written with. -/
def isSign (c : Char) : Bool :=
  ['*', '`', '[', ']', '(', ')'].contains c

/-- A text without signs. -/
structure Plain where
  text : List Char
  unsigned : text.all (!isSign ·) = true

/-- A text inside markup: without signs, and not empty. -/
structure Inner extends Plain where
  ne_nil : text ≠ []

/-- A piece of a line. -/
inductive Segment where
  | plain (x : Plain)
  | strong (x : Inner)
  | emphasis (x : Inner)
  | code (x : Inner)
  | link (x target : Inner)

/-- How a segment is written. -/
def Segment.written : Segment → List Char
  | plain x => x.text
  | strong x => "**".toList ++ (x.text ++ "**".toList)
  | emphasis x => "*".toList ++ (x.text ++ "*".toList)
  | code x => "`".toList ++ (x.text ++ "`".toList)
  | link x target => "[".toList ++ (x.text ++ "](".toList) ++ (target.text ++ ")".toList)

/-- What a reader sees of a segment. -/
def Segment.shown : Segment → List Char
  | plain x => x.text
  | strong x | emphasis x | code x | link x _ => x.text

lemma Plain.not_mem (x : Plain) {c : Char} (hc : isSign c = true) : c ∉ x.text := by
  intro hmem
  have hnot := List.all_eq_true.mp x.unsigned c hmem
  rw [hc] at hnot
  cases hnot

/-! ### Readings of markup -/

variable {front text rest inner : List Char} {gs : Groups}

/-- Every match with these groups shows the text. -/
def Shows (gs : Groups) (inner : List Char) : Prop :=
  ∀ m : Match, m.groups = gs → visibleText m = inner

lemma shows_singleton (number : Nat) (inner after : List Char) :
    Shows [⟨number, inner ++ after, inner.length⟩] inner := by
  intro m hm
  simp [visibleText, hm, GroupSpan.text]

lemma reads_between_iff {left right : String} {number : Nat} {stop : Char} :
    (between left number stop right).Reads front text rest gs ↔
      ∃ inner, text = left.toList ++ (inner ++ right.toList) ∧ inner ≠ [] ∧ stop ∉ inner ∧
        gs = [⟨number, inner ++ (right.toList ++ rest), inner.length⟩] := by
  constructor
  · rintro ⟨_, _, _, _, rfl, rfl, hleft, inner, _, _, _, rfl, rfl, ⟨_, rfl, ⟨hinner, hone, _⟩, rfl⟩, hright⟩
    obtain ⟨rfl, rfl⟩ := reads_lit_iff.mp hleft
    obtain ⟨rfl, rfl⟩ := reads_lit_iff.mp hright
    refine ⟨inner, rfl, List.length_pos_iff.mp hone, ?_, rfl⟩
    intro hmem
    simpa using hinner stop hmem
  · rintro ⟨inner, rfl, hne, hstop, rfl⟩
    refine ⟨left.toList, inner ++ right.toList, [], _, rfl, rfl, reads_lit_iff.mpr ⟨rfl, rfl⟩, inner,
      right.toList, _, [], rfl, rfl, ⟨[], rfl, ⟨?_, List.length_pos_iff.mpr hne, by simp⟩, rfl⟩,
      reads_lit_iff.mpr ⟨rfl, rfl⟩⟩
    intro c hc
    rw [bne_iff_ne]
    rintro rfl
    exact hstop hc

/-- A text between marks ends where the sign that it is free of comes first. -/
lemma between_unique {left right : String} {number : Nat} {stop : Char} {tail x after : List Char}
    (hright : right.toList = stop :: tail) (hx : stop ∉ x)
    (hcut : left.toList ++ (x ++ right.toList) ++ after = text ++ rest)
    (h : (between left number stop right).Reads front text rest gs) :
    text = left.toList ++ (x ++ right.toList) ∧ Shows gs x := by
  obtain ⟨inner, rfl, _, hstop, rfl⟩ := reads_between_iff.mp h
  have hinner : x ++ stop :: (tail ++ after) = inner ++ stop :: (tail ++ rest) := by
    simpa [hright] using hcut
  obtain ⟨rfl, _⟩ := eq_of_first_cut hx hstop hinner
  exact ⟨rfl, shows_singleton _ _ _⟩

/-- A link is read as its text and its target. -/
lemma reads_link_iff :
    (all [between "[" 4 ']' "](", many1 (· != ')'), lit ")"]).Reads front text rest gs ↔
      ∃ inner target, text = "[".toList ++ (inner ++ "](".toList) ++ (target ++ ")".toList) ∧
        inner ≠ [] ∧ ']' ∉ inner ∧ target ≠ [] ∧ ')' ∉ target ∧
        gs = [⟨4, inner ++ ("](".toList ++ (target ++ ")".toList ++ rest)), inner.length⟩] := by
  constructor
  · rintro ⟨_, _, _, _, rfl, rfl, hlabel, target, _, _, _, rfl, rfl, ⟨⟨htarget, hone, _⟩, rfl⟩, hright⟩
    obtain ⟨inner, rfl, hne, hstop, rfl⟩ := reads_between_iff.mp hlabel
    obtain ⟨rfl, rfl⟩ := reads_lit_iff.mp hright
    refine ⟨inner, target, rfl, hne, hstop, List.length_pos_iff.mp hone, ?_, rfl⟩
    intro hmem
    simpa using htarget ')' hmem
  · rintro ⟨inner, target, rfl, hne, hstop, htarget, hparen, rfl⟩
    refine ⟨_, target ++ ")".toList, _, [], rfl, rfl, reads_between_iff.mpr ⟨inner, rfl, hne, hstop, rfl⟩,
      target, ")".toList, [], [], rfl, rfl, ⟨⟨?_, List.length_pos_iff.mpr htarget, by simp⟩, rfl⟩,
      reads_lit_iff.mpr ⟨rfl, rfl⟩⟩
    intro c hc
    rw [bne_iff_ne]
    rintro rfl
    exact hparen hc

/-- Where markup can be read there is a sign. -/
lemma exists_sign (h : inlineMarkup.Reads front text rest gs) :
    ∃ c tail, text = c :: tail ∧ isSign c = true := by
  rcases h with h | h | h | h
  · obtain ⟨inner, rfl, _⟩ := reads_between_iff.mp h
    exact ⟨'*', _, rfl, rfl⟩
  · obtain ⟨inner, rfl, _⟩ := reads_between_iff.mp h
    exact ⟨'*', _, rfl, rfl⟩
  · obtain ⟨inner, rfl, _⟩ := reads_between_iff.mp h
    exact ⟨'`', _, rfl, rfl⟩
  · obtain ⟨inner, target, rfl, _⟩ := reads_link_iff.mp h
    exact ⟨'[', _, rfl, rfl⟩

lemma Plain.absent (x : Plain) (front cs : List Char) : inlineMarkup.Absent front x.text cs := by
  rintro a b hab hb ⟨text, rest, gs, hcut, hreads⟩
  obtain ⟨c, tail, rfl, hc⟩ := exists_sign hreads
  obtain ⟨d, b, rfl⟩ := List.exists_cons_of_ne_nil hb
  obtain rfl : d = c := (List.cons.inj hcut).1
  exact x.not_mem hc (by simp [hab])

namespace Segment

/-- A segment of markup, which is not plain text. -/
def IsMarked : Segment → Prop
  | plain _ => False
  | _ => True

variable {s : Segment}

lemma written_ne_nil (h : s.IsMarked) : s.written ≠ [] := by
  cases s with
  | plain x => exact h.elim
  | strong x => simp [written]
  | emphasis x => simp [written]
  | code x => simp [written]
  | link x target => simp [written]

/-- A segment of markup can be read. -/
lemma starts (h : s.IsMarked) (front rest : List Char) :
    inlineMarkup.Starts front (s.written ++ rest) := by
  cases s with
  | plain x => exact h.elim
  | strong x =>
    exact ⟨_, rest, _, rfl, Or.inl (reads_between_iff.mpr ⟨x.text, rfl, x.ne_nil, x.not_mem rfl, rfl⟩)⟩
  | emphasis x =>
    exact ⟨_, rest, _, rfl,
      Or.inr (Or.inl (reads_between_iff.mpr ⟨x.text, rfl, x.ne_nil, x.not_mem rfl, rfl⟩))⟩
  | code x =>
    exact ⟨_, rest, _, rfl,
      Or.inr (Or.inr (Or.inl (reads_between_iff.mpr ⟨x.text, rfl, x.ne_nil, x.not_mem rfl, rfl⟩)))⟩
  | link x target =>
    exact ⟨_, rest, _, rfl, Or.inr (Or.inr (Or.inr (reads_link_iff.mpr
      ⟨x.text, target.text, rfl, x.ne_nil, x.not_mem rfl, target.ne_nil, target.not_mem rfl, rfl⟩)))⟩

/-- Where a segment of markup begins, nothing else can be read. -/
lemma only_reading (hs : s.IsMarked) {after : List Char} (hcut : s.written ++ after = text ++ rest)
    (h : inlineMarkup.Reads front text rest gs) : text = s.written ∧ Shows gs s.shown := by
  cases s with
  | plain x => exact hs.elim
  | strong x =>
    rcases h with h | h | h | h
    · exact between_unique rfl (x.not_mem rfl) hcut h
    · obtain ⟨inner, rfl, hne, hstop, _⟩ := reads_between_iff.mp h
      obtain ⟨c, inner, rfl⟩ := List.exists_cons_of_ne_nil hne
      obtain ⟨rfl, _⟩ : '*' = c ∧ _ := by simpa [written] using hcut
      simp at hstop
    · obtain ⟨inner, rfl, _⟩ := reads_between_iff.mp h
      simp [written] at hcut
    · obtain ⟨inner, target, rfl, _⟩ := reads_link_iff.mp h
      simp [written] at hcut
  | emphasis x =>
    rcases h with h | h | h | h
    · obtain ⟨inner, rfl, _⟩ := reads_between_iff.mp h
      obtain ⟨c, cs, hc⟩ := List.exists_cons_of_ne_nil x.ne_nil
      obtain ⟨rfl, _⟩ : c = '*' ∧ _ := by simpa [written, hc] using hcut
      exact absurd (hc ▸ List.mem_cons_self) (x.not_mem (c := '*') rfl)
    · exact between_unique rfl (x.not_mem rfl) hcut h
    · obtain ⟨inner, rfl, _⟩ := reads_between_iff.mp h
      simp [written] at hcut
    · obtain ⟨inner, target, rfl, _⟩ := reads_link_iff.mp h
      simp [written] at hcut
  | code x =>
    rcases h with h | h | h | h
    · obtain ⟨inner, rfl, _⟩ := reads_between_iff.mp h
      simp [written] at hcut
    · obtain ⟨inner, rfl, _⟩ := reads_between_iff.mp h
      simp [written] at hcut
    · exact between_unique rfl (x.not_mem rfl) hcut h
    · obtain ⟨inner, target, rfl, _⟩ := reads_link_iff.mp h
      simp [written] at hcut
  | link x target =>
    rcases h with h | h | h | h
    · obtain ⟨inner, rfl, _⟩ := reads_between_iff.mp h
      simp [written] at hcut
    · obtain ⟨inner, rfl, _⟩ := reads_between_iff.mp h
      simp [written] at hcut
    · obtain ⟨inner, rfl, _⟩ := reads_between_iff.mp h
      simp [written] at hcut
    · obtain ⟨inner, target', rfl, _, hstop, _, hparen, rfl⟩ := reads_link_iff.mp h
      have hlabel : x.text ++ ']' :: '(' :: (target.text ++ ')' :: after) =
          inner ++ ']' :: '(' :: (target' ++ ')' :: rest) := by
        simpa [written] using hcut
      obtain ⟨rfl, htarget⟩ := eq_of_first_cut (x.not_mem rfl) hstop hlabel
      obtain ⟨rfl, _⟩ := eq_of_first_cut (target.not_mem rfl) hparen (List.cons.inj htarget).2
      exact ⟨rfl, shows_singleton _ _ _⟩

/-- Cleaning goes over a segment and leaves what it shows. -/
lemma replaceFrom_cons (s : Segment) (front : List Char) {rest : List Char} {n : Nat}
    (hn : (s.written ++ rest).length < n) :
    ∃ n', rest.length < n' ∧ inlineMarkup.replaceFrom visibleText n front (s.written ++ rest) =
      s.shown ++ inlineMarkup.replaceFrom visibleText n' (front ++ s.written) rest := by
  by_cases hs : s.IsMarked
  · obtain ⟨n, rfl⟩ := Nat.exists_eq_succ_of_ne_zero (Nat.ne_zero_of_lt hn)
    have hpos := List.length_pos_iff.mpr (written_ne_nil hs)
    rw [List.length_append] at hn
    refine ⟨n, by omega, ?_⟩
    apply replaceFrom_of_starts (starts hs front rest) (written_ne_nil hs)
    intro text rest' gs hcut hreads
    exact only_reading hs hcut hreads
  · cases s with
    | plain x =>
      rw [List.length_append] at hn
      exact ⟨n, by omega, replaceFrom_of_absent (x.absent front rest) n⟩
    | strong | emphasis | code | link => exact absurd trivial hs

end Segment

/-- From any place on, cleaning leaves what the segments show. -/
lemma replaceFrom_written (ss : List Segment) (front : List Char) {n : Nat}
    (hn : (ss.flatMap Segment.written).length < n) :
    inlineMarkup.replaceFrom visibleText n front (ss.flatMap Segment.written) =
      ss.flatMap Segment.shown := by
  induction ss generalizing front n with
  | nil =>
    apply replaceFrom_nil
    rintro ⟨text, rest, gs, hcut, hreads⟩
    obtain ⟨c, tail, rfl, _⟩ := exists_sign hreads
    cases hcut
  | cons s ss ih =>
    rw [List.flatMap_cons] at hn
    obtain ⟨n', hn', hstep⟩ := s.replaceFrom_cons front hn
    rw [List.flatMap_cons, List.flatMap_cons, hstep, ih _ hn']

/-- Cleaning a line that was written in segments leaves the plain texts and the texts inside the markup, in
order, without the blanks around them. -/
theorem cleaning_undoes_markup (ss : List Segment) :
    cleanText (ss.flatMap Segment.written) = trim (ss.flatMap Segment.shown) := by
  rw [cleanText, replaceIn_eq, replaceFrom_written ss [] (Nat.lt_succ_self _)]

example : cleanText "**a***b* [c](d)`e` ".toList = "ab ce".toList := by
  decide +kernel

end CodeAtlas.Outline
