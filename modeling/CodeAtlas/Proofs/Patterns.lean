import CodeAtlas.Proofs.Lines
import CodeAtlas.Text.Pattern
import Mathlib.Tactic

/-!
# What patterns read

`Pattern.Reads` says which stretches of a text a pattern can be read in, and leaves open in which order
they are tried. Every match is one of these readings, and where there is a reading there is a match. So
what all readings have in common holds of the match, whichever of them it is.
-/

namespace CodeAtlas.Text

/-- The place between two parts of a text. -/
def Place.between (front rest : List Char) : Place :=
  ⟨front.getLast?, front.length, rest⟩

lemma Place.between_concat (front : List Char) (c : Char) (rest : List Char) :
    Place.between (front ++ [c]) rest = ⟨some c, front.length + 1, rest⟩ := by
  simp [Place.between]

namespace Pattern

/-- The pattern can be read in `text`, which stands between `front` and `rest`, with these groups. -/
def Reads : Pattern → List Char → List Char → List Char → Groups → Prop
  | empty, _, text, _, gs => text = [] ∧ gs = []
  | one p, _, text, _, gs => (∃ c, p c = true ∧ text = [c]) ∧ gs = []
  | seq a b, front, text, rest, gs =>
    ∃ x y ga gb, text = x ++ y ∧ gs = gb ++ ga ∧ a.Reads front x (y ++ rest) ga ∧
      b.Reads (front ++ x) y rest gb
  | alt a b, front, text, rest, gs => a.Reads front text rest gs ∨ b.Reads front text rest gs
  | opt a, front, text, rest, gs => a.Reads front text rest gs ∨ text = [] ∧ gs = []
  | run _ least most p, _, text, _, gs =>
    ((∀ c ∈ text, p c = true) ∧ least ≤ text.length ∧ ∀ n ∈ most, text.length ≤ n) ∧ gs = []
  | group n a, front, text, rest, gs =>
    ∃ ga, gs = ⟨n, text ++ rest, text.length⟩ :: ga ∧ a.Reads front text rest ga
  | lineStart, front, text, _, gs => AtLineStart front ∧ text = [] ∧ gs = []
  | lineEnd, _, text, rest, gs => AtLineEnd rest ∧ text = [] ∧ gs = []
  | edge, front, text, rest, gs => atEdge (.between front rest) = true ∧ text = [] ∧ gs = []

/-! ### Matches and readings -/

section

variable {α : Type} {reluctant : Bool} {p : Char → Bool} {least : Nat} {most : Option Nat} {r : α}

/-- A run stops before a character or goes over it. -/
lemma runOver_cons_eq_some {next : Place → Option α} {before : Option Char} {offset : Nat} {c : Char}
    {cs : List Char} (h : runOver reluctant p next least most before offset (c :: cs) = some r) :
    least = 0 ∧ next ⟨before, offset, c :: cs⟩ = some r ∨
      (most ≠ some 0 ∧ p c = true) ∧
        runOver reluctant p next (least - 1) (most.map (· - 1)) (some c) (offset + 1) cs = some r := by
  simp only [runOver] at h
  grind

lemma isSome_runOver_cons {next : Place → Option α} {before : Option Char} {offset : Nat} {c : Char}
    {cs : List Char}
    (h : least = 0 ∧ (next ⟨before, offset, c :: cs⟩).isSome = true ∨
      (most ≠ some 0 ∧ p c = true) ∧
        (runOver reluctant p next (least - 1) (most.map (· - 1)) (some c) (offset + 1) cs).isSome =
          true) :
    (runOver reluctant p next least most before offset (c :: cs)).isSome = true := by
  simp only [runOver]
  grind

lemma reads_of_runOver {next : Place → Option α} {front cs : List Char}
    (h : runOver reluctant p next least most front.getLast? front.length cs = some r) :
    ∃ text rest, cs = text ++ rest ∧ Reads (.run reluctant least most p) front text rest [] ∧
      next (.between (front ++ text) rest) = some r := by
  induction cs generalizing front least most with
  | nil =>
    simp only [runOver] at h
    split at h
    · exact ⟨[], [], rfl, by simp_all [Reads], by simpa [Place.between] using h⟩
    · cases h
  | cons c cs ih =>
    rcases runOver_cons_eq_some h with ⟨hleast, hnext⟩ | ⟨⟨hmost, hc⟩, hmore⟩
    · exact ⟨[], c :: cs, rfl, by simp_all [Reads], by simpa [Place.between] using hnext⟩
    · rw [show some c = (front ++ [c]).getLast? by simp,
        show front.length + 1 = (front ++ [c]).length by simp] at hmore
      obtain ⟨text, rest, rfl, ⟨⟨htext, hlength, hlimit⟩, _⟩, hnext⟩ := ih hmore
      refine ⟨c :: text, rest, rfl, ⟨⟨?_, ?_, ?_⟩, rfl⟩, by simpa using hnext⟩
      · simpa [hc] using htext
      · rw [List.length_cons]
        omega
      · intro n hn
        have hle := hlimit (n - 1) (by simp [Option.mem_def.mp hn])
        have hpos : n ≠ 0 := by
          rintro rfl
          exact hmost hn
        rw [List.length_cons]
        omega

lemma isSome_runOver {next : Place → Option α} {front text rest : List Char}
    (h : Reads (.run reluctant least most p) front text rest [])
    (hnext : (next (.between (front ++ text) rest)).isSome = true) :
    (runOver reluctant p next least most front.getLast? front.length (text ++ rest)).isSome =
      true := by
  induction text generalizing front least most with
  | nil =>
    obtain ⟨⟨_, hleast, _⟩, _⟩ := h
    have hzero : least = 0 := by simpa using hleast
    rw [List.append_nil] at hnext
    match rest with
    | [] =>
      rw [List.nil_append, runOver, if_pos hzero]
      exact hnext
    | c :: rest => exact isSome_runOver_cons (Or.inl ⟨hzero, hnext⟩)
  | cons c text ih =>
    obtain ⟨⟨htext, hleast, hmost⟩, _⟩ := h
    rw [List.forall_mem_cons] at htext
    refine isSome_runOver_cons (Or.inr ⟨⟨?_, htext.1⟩, ?_⟩)
    · intro hzero
      simpa using hmost 0 hzero
    · rw [show some c = (front ++ [c]).getLast? by simp,
        show front.length + 1 = (front ++ [c]).length by simp]
      refine ih ⟨⟨htext.2, ?_, ?_⟩, rfl⟩ (by simpa using hnext)
      · rw [List.length_cons] at hleast
        omega
      · intro n hn
        obtain ⟨m, hm, rfl⟩ := Option.mem_map.mp hn
        have hle := hmost m hm
        rw [List.length_cons] at hle
        omega

/-- What a match goes on with is a reading. -/
theorem reads_of_matching {q : Pattern} {front cs : List Char} {g : Groups}
    {next : Place → Groups → Option α} (h : q.matching (.between front cs) g next = some r) :
    ∃ text rest gs, cs = text ++ rest ∧ q.Reads front text rest gs ∧
      next (.between (front ++ text) rest) (gs ++ g) = some r := by
  induction q generalizing front cs g next with
  | empty => exact ⟨[], cs, [], rfl, ⟨rfl, rfl⟩, by simpa [matching] using h⟩
  | one p =>
    match cs with
    | [] => cases h
    | c :: cs =>
      simp only [matching, Place.between] at h
      split at h
      · rename_i hc
        refine ⟨[c], cs, [], rfl, ⟨⟨c, hc, rfl⟩, rfl⟩, ?_⟩
        rwa [Place.between_concat]
      · cases h
  | seq a b iha ihb =>
    obtain ⟨x, rest, ga, rfl, ha, h⟩ := iha h
    obtain ⟨y, rest, gb, rfl, hb, h⟩ := ihb h
    refine ⟨x ++ y, rest, gb ++ ga, ?_, ⟨x, y, ga, gb, rfl, rfl, ha, hb⟩, ?_⟩
    · rw [List.append_assoc]
    · rwa [← List.append_assoc, List.append_assoc gb]
  | alt a b iha ihb =>
    simp only [matching] at h
    split at h
    · rename_i ha
      rw [h] at ha
      obtain ⟨text, rest, gs, hcs, hreads, h⟩ := iha ha
      exact ⟨text, rest, gs, hcs, Or.inl hreads, h⟩
    · obtain ⟨text, rest, gs, hcs, hreads, h⟩ := ihb h
      exact ⟨text, rest, gs, hcs, Or.inr hreads, h⟩
  | opt a iha =>
    simp only [matching] at h
    split at h
    · rename_i ha
      rw [h] at ha
      obtain ⟨text, rest, gs, hcs, hreads, h⟩ := iha ha
      exact ⟨text, rest, gs, hcs, Or.inl hreads, h⟩
    · exact ⟨[], cs, [], rfl, Or.inr ⟨rfl, rfl⟩, by simpa using h⟩
  | run reluctant least most p =>
    obtain ⟨text, rest, hcs, hreads, h⟩ := reads_of_runOver h
    exact ⟨text, rest, [], hcs, hreads, h⟩
  | group n a iha =>
    obtain ⟨text, rest, gs, rfl, hreads, h⟩ := iha h
    refine ⟨text, rest, _, rfl, ⟨gs, rfl, hreads⟩, ?_⟩
    simpa [Place.between] using h
  | lineStart =>
    simp only [matching] at h
    split at h
    · rename_i hstart
      rw [Bool.or_eq_true, decide_eq_true_eq, decide_eq_true_eq] at hstart
      exact ⟨[], cs, [], rfl, ⟨hstart, rfl, rfl⟩, by simpa using h⟩
    · cases h
  | lineEnd =>
    simp only [matching] at h
    split at h
    · rename_i hend
      rw [Bool.or_eq_true, decide_eq_true_eq, decide_eq_true_eq] at hend
      exact ⟨[], cs, [], rfl, ⟨hend, rfl, rfl⟩, by simpa using h⟩
    · cases h
  | edge =>
    simp only [matching] at h
    split at h
    · rename_i hedge
      exact ⟨[], cs, [], rfl, ⟨hedge, rfl, rfl⟩, by simpa using h⟩
    · cases h

/-- A reading that is accepted leads to a match. -/
theorem isSome_matching {q : Pattern} {front text rest : List Char} {gs g : Groups}
    {next : Place → Groups → Option α} (h : q.Reads front text rest gs)
    (hnext : (next (.between (front ++ text) rest) (gs ++ g)).isSome = true) :
    (q.matching (.between front (text ++ rest)) g next).isSome = true := by
  induction q generalizing front text rest gs g next with
  | empty =>
    obtain ⟨rfl, rfl⟩ := h
    simpa [matching] using hnext
  | one p =>
    obtain ⟨⟨c, hc, rfl⟩, rfl⟩ := h
    rw [Place.between_concat] at hnext
    simpa [matching, Place.between, hc] using hnext
  | seq a b iha ihb =>
    obtain ⟨x, y, ga, gb, rfl, rfl, ha, hb⟩ := h
    rw [List.append_assoc]
    refine iha ha (ihb hb ?_)
    rwa [List.append_assoc, ← List.append_assoc gb]
  | alt a b iha ihb =>
    simp only [matching]
    split
    · rfl
    · rename_i hnone
      rcases h with h | h
      · have hsome := iha h hnext
        rw [hnone] at hsome
        cases hsome
      · exact ihb h hnext
  | opt a iha =>
    simp only [matching]
    split
    · rfl
    · rename_i hnone
      rcases h with h | ⟨rfl, rfl⟩
      · have hsome := iha h hnext
        rw [hnone] at hsome
        cases hsome
      · simpa using hnext
  | run reluctant least most p =>
    have hgs : gs = [] := h.2
    subst hgs
    exact isSome_runOver h hnext
  | group n a iha =>
    obtain ⟨ga, rfl, ha⟩ := h
    refine iha ha ?_
    simpa [Place.between] using hnext
  | lineStart =>
    obtain ⟨hstart, rfl, rfl⟩ := h
    rw [matching, if_pos]
    · simpa using hnext
    · rw [Bool.or_eq_true, decide_eq_true_eq, decide_eq_true_eq]
      exact hstart
  | lineEnd =>
    obtain ⟨hend, rfl, rfl⟩ := h
    rw [matching, if_pos]
    · simpa using hnext
    · rw [Bool.or_eq_true, decide_eq_true_eq, decide_eq_true_eq]
      exact hend
  | edge =>
    obtain ⟨hedge, rfl, rfl⟩ := h
    simpa [matching, hedge] using hnext

end

/-! ### Searching -/

variable {p : Pattern} {front gap cs : List Char}

/-- The pattern can be read behind `front`, from the beginning of `cs` on. -/
def Starts (p : Pattern) (front cs : List Char) : Prop :=
  ∃ text rest gs, cs = text ++ rest ∧ p.Reads front text rest gs

/-- The match of a reading, and the place behind it. -/
def readingMatch (front text rest : List Char) (gs : Groups) : Match × Place :=
  (⟨front.length, (front ++ text).length, gs⟩, .between (front ++ text) rest)

lemma reads_of_matchAt? {found : Match × Place} (h : p.matchAt? (.between front cs) = some found) :
    ∃ text rest gs, cs = text ++ rest ∧ p.Reads front text rest gs ∧
      found = readingMatch front text rest gs := by
  obtain ⟨text, rest, gs, hcs, hreads, hsome⟩ := reads_of_matching h
  rw [List.append_nil] at hsome
  exact ⟨text, rest, gs, hcs, hreads, (Option.some.inj hsome).symm⟩

lemma matchAt?_of_starts (h : p.Starts front cs) :
    ∃ text rest gs, cs = text ++ rest ∧ p.Reads front text rest gs ∧
      p.matchAt? (.between front cs) = some (readingMatch front text rest gs) := by
  obtain ⟨text, rest, gs, rfl, hreads⟩ := h
  obtain ⟨found, hfound⟩ : ∃ found, p.matchAt? (.between front (text ++ rest)) = some found :=
    Option.isSome_iff_exists.mp (isSome_matching hreads rfl)
  obtain ⟨text', rest', gs', hcs, hreads', rfl⟩ := reads_of_matchAt? hfound
  exact ⟨text', rest', gs', hcs, hreads', hfound⟩

lemma matchAt?_eq_none (h : ¬ p.Starts front cs) : p.matchAt? (.between front cs) = none := by
  rw [Option.eq_none_iff_forall_ne_some]
  intro found hfound
  obtain ⟨text, rest, gs, hcs, hreads, _⟩ := reads_of_matching hfound
  exact h ⟨text, rest, gs, hcs, hreads⟩

/-- The pattern can be read nowhere in `gap`, which stands between `front` and `cs`. -/
def Absent (p : Pattern) (front gap cs : List Char) : Prop :=
  ∀ a b, gap = a ++ b → b ≠ [] → ¬ p.Starts (front ++ a) (b ++ cs)

lemma Absent.tail {c : Char} (h : p.Absent front (c :: gap) cs) :
    p.Absent (front ++ [c]) gap cs := by
  rintro a b rfl hb
  rw [List.append_assoc]
  exact h (c :: a) b rfl hb

/-- A search goes over what cannot be read. -/
lemma searchFrom?_of_absent (h : p.Absent front gap cs) :
    p.searchFrom? front.getLast? front.length (gap ++ cs) =
      p.searchFrom? (front ++ gap).getLast? (front ++ gap).length cs := by
  induction gap generalizing front with
  | nil => simp
  | cons c gap ih =>
    have hnone : p.matchAt? ⟨front.getLast?, front.length, c :: (gap ++ cs)⟩ = none :=
      matchAt?_eq_none (by simpa using h [] (c :: gap) rfl (List.cons_ne_nil c gap))
    rw [List.cons_append, searchFrom?, hnone]
    simpa using ih h.tail

lemma searchFrom?_of_matchAt? {found : Match × Place}
    (h : p.matchAt? (.between front cs) = some found) :
    p.searchFrom? front.getLast? front.length cs = some found := by
  match cs with
  | [] => exact h
  | c :: cs =>
    have hfound : p.matchAt? ⟨front.getLast?, front.length, c :: cs⟩ = some found := h
    rw [searchFrom?, hfound]

lemma searchFrom?_eq_none (h : ∀ a b, cs = a ++ b → ¬ p.Starts (front ++ a) b) :
    p.searchFrom? front.getLast? front.length cs = none := by
  have hgap : p.Absent front cs [] := fun a b hcs _ => by
    rw [List.append_nil]
    exact h a b hcs
  rw [← List.append_nil cs, searchFrom?_of_absent hgap]
  exact matchAt?_eq_none (h cs [] (List.append_nil cs).symm)

/-- What a search finds is a reading behind a gap. -/
lemma reads_of_searchFrom? {found : Match × Place}
    (h : p.searchFrom? front.getLast? front.length cs = some found) :
    ∃ gap text rest gs, cs = gap ++ (text ++ rest) ∧ p.Reads (front ++ gap) text rest gs ∧
      found = readingMatch (front ++ gap) text rest gs := by
  induction cs generalizing front with
  | nil =>
    obtain ⟨text, rest, gs, hcs, hreads, hfound⟩ := reads_of_matchAt? h
    exact ⟨[], text, rest, gs, hcs, by simpa using hreads, by simpa using hfound⟩
  | cons c cs ih =>
    rw [searchFrom?] at h
    split at h
    · rename_i found' hmatch
      cases h
      obtain ⟨text, rest, gs, hcs, hreads, hfound⟩ := reads_of_matchAt? hmatch
      exact ⟨[], text, rest, gs, hcs, by simpa using hreads, by simpa using hfound⟩
    · rw [show some c = (front ++ [c]).getLast? by simp,
        show front.length + 1 = (front ++ [c]).length by simp] at h
      obtain ⟨gap, text, rest, gs, rfl, hreads, hfound⟩ := ih h
      exact ⟨c :: gap, text, rest, gs, rfl, by simpa using hreads, by simpa using hfound⟩

/-! ### All matches -/

/-- A match is that of a reading of a stretch of a text. -/
def IsMatch (p : Pattern) (cs : List Char) (m : Match) : Prop :=
  ∃ before text rest gs, cs = before ++ (text ++ rest) ∧ p.Reads before text rest gs ∧
    m = ⟨before.length, (before ++ text).length, gs⟩

/-- The first match is a reading; the others are found further on in the same text. -/
lemma mem_matchesFrom_succ {n : Nat} {m : Match}
    (h : m ∈ p.matchesFrom (n + 1) (.between front cs)) :
    p.IsMatch (front ++ cs) m ∨
      ∃ front' cs', front' ++ cs' = front ++ cs ∧ m ∈ p.matchesFrom n (.between front' cs') := by
  rw [matchesFrom] at h
  split at h
  · cases h
  · rename_i hsearch
    obtain ⟨gap, text, rest, gs, rfl, hreads, hfound⟩ := reads_of_searchFrom? hsearch
    obtain ⟨rfl, rfl⟩ := Prod.mk.inj hfound
    have hfirst : p.IsMatch (front ++ (gap ++ (text ++ rest)))
        ⟨(front ++ gap).length, (front ++ gap ++ text).length, gs⟩ :=
      ⟨front ++ gap, text, rest, gs, by simp, hreads, rfl⟩
    split at h
    · rcases List.mem_cons.mp h with rfl | h
      · exact Or.inl hfirst
      · exact Or.inr ⟨front ++ gap ++ text, rest, by simp, h⟩
    · -- Behind an empty match one character is left out.
      match rest, h with
      | [], h =>
        rw [List.mem_singleton.mp h]
        exact Or.inl hfirst
      | c :: rest, h =>
        rcases List.mem_cons.mp h with rfl | h
        · exact Or.inl hfirst
        · refine Or.inr ⟨front ++ gap ++ text ++ [c], rest, by simp, ?_⟩
          rw [Place.between_concat]
          exact h

theorem isMatch_of_mem_matchesFrom {n : Nat} {m : Match}
    (h : m ∈ p.matchesFrom n (.between front cs)) : p.IsMatch (front ++ cs) m := by
  induction n generalizing front cs with
  | zero => cases h
  | succ n ih =>
    rcases mem_matchesFrom_succ h with hfirst | ⟨front', cs', htext, hlater⟩
    · exact hfirst
    · exact htext ▸ ih hlater

lemma isMatch_of_mem_matchesIn {m : Match} (h : m ∈ p.matchesIn cs) : p.IsMatch cs m := by
  have hfrom : m ∈ p.matchesFrom (cs.length + 1) (.between [] cs) := h
  exact isMatch_of_mem_matchesFrom hfrom

lemma matchesFrom_of_absent (h : p.Absent front gap cs) (n : Nat) :
    p.matchesFrom n (.between front (gap ++ cs)) = p.matchesFrom n (.between (front ++ gap) cs) := by
  match n with
  | 0 => rfl
  | n + 1 =>
    rw [matchesFrom, matchesFrom, Place.between, Place.between]
    simp only [searchFrom?_of_absent h]

lemma matchesFrom_eq_nil (h : ∀ a b, cs = a ++ b → ¬ p.Starts (front ++ a) b) (n : Nat) :
    p.matchesFrom n (.between front cs) = [] := by
  match n with
  | 0 => rfl
  | n + 1 =>
    rw [matchesFrom, Place.between]
    simp only [searchFrom?_eq_none h]

/-- Where the pattern can be read, and only in texts that are not empty, the next match is there. -/
lemma matchesFrom_succ (h : p.Starts front cs) (n : Nat)
    (hne : ∀ text rest gs, cs = text ++ rest → p.Reads front text rest gs → text ≠ []) :
    ∃ text rest gs, cs = text ++ rest ∧ p.Reads front text rest gs ∧
      p.matchesFrom (n + 1) (.between front cs) =
        ⟨front.length, (front ++ text).length, gs⟩ ::
          p.matchesFrom n (.between (front ++ text) rest) := by
  obtain ⟨text, rest, gs, hcs, hreads, hmatch⟩ := matchAt?_of_starts h
  have hlt : front.length < (front ++ text).length := by
    have hpos := List.length_pos_iff.mpr (hne text rest gs hcs hreads)
    rw [List.length_append]
    omega
  refine ⟨text, rest, gs, hcs, hreads, ?_⟩
  rw [matchesFrom, Place.between]
  simp only [searchFrom?_of_matchAt? hmatch, readingMatch, if_pos hlt]

lemma matchesIn_eq_nil (h : ∀ a b, cs = a ++ b → ¬ p.Starts a b) : p.matchesIn cs = [] := by
  have hnone : p.matchesFrom (cs.length + 1) (.between [] cs) = [] := matchesFrom_eq_nil h _
  exact hnone

/-- Every reading of the pattern holds a character of a class. -/
def Needs (p : Pattern) (q : Char → Bool) : Prop :=
  ∀ front text rest gs, p.Reads front text rest gs → ∃ c ∈ text, q c = true

/-- Without such a character the text stays as it is. -/
lemma Needs.replaceIn_eq {q : Char → Bool} (h : p.Needs q) (f : Match → List Char)
    (hcs : ∀ c ∈ cs, q c = false) : p.replaceIn f cs = cs := by
  have hnone : p.matchesIn cs = [] := by
    refine matchesIn_eq_nil ?_
    rintro a b rfl ⟨text, rest, gs, rfl, hreads⟩
    obtain ⟨c, hc, hq⟩ := h _ _ _ _ hreads
    rw [hcs c (by simp [hc])] at hq
    cases hq
  rw [replaceIn, hnone, substitute]

/-- A run does not go over a character that is not in its class. -/
lemma exists_of_stop {q : Char → Bool} {run rest before after : List Char} {x : Char}
    (h : run ++ rest = before ++ x :: after) (hrun : ∀ c ∈ run, q c = true) (hx : q x = false) :
    ∃ u, before = run ++ u ∧ rest = u ++ x :: after := by
  rcases List.append_eq_append_iff.mp h with ⟨u, hbefore, hrest⟩ | ⟨u, rfl, hrest⟩
  · exact ⟨u, hbefore, hrest⟩
  · match u with
    | [] => exact ⟨[], by simp, by simpa using hrest.symm⟩
    | c :: u =>
      obtain ⟨rfl, _⟩ := List.cons.inj hrest
      rw [hrun x (by simp)] at hx
      cases hx

/-! ### Sequences and fixed texts -/

lemma reads_all_cons {ps : List Pattern} {text rest : List Char} {gs : Groups} :
    (all (p :: ps)).Reads front text rest gs ↔ (seq p (all ps)).Reads front text rest gs := by
  match ps with
  | [] => simp [all, Reads]
  | q :: ps => rfl

lemma reads_lit_iff {s : String} {text rest : List Char} {gs : Groups} :
    (lit s).Reads front text rest gs ↔ text = s.toList ∧ gs = [] := by
  unfold lit
  generalize s.toList = cs
  induction cs generalizing front text gs with
  | nil => rfl
  | cons c cs ih =>
    rw [List.map_cons, reads_all_cons]
    simp only [Reads, ih, beq_iff_eq]
    constructor
    · rintro ⟨x, y, ga, gb, rfl, rfl, ⟨⟨d, rfl, rfl⟩, rfl⟩, rfl, rfl⟩
      exact ⟨rfl, rfl⟩
    · rintro ⟨rfl, rfl⟩
      exact ⟨[c], cs, [], [], rfl, rfl, ⟨⟨c, rfl, rfl⟩, rfl⟩, rfl, rfl⟩

lemma needs_lit {q : Char → Bool} {s : String} {c : Char} (hc : c ∈ s.toList) (hq : q c = true) :
    (lit s).Needs q := by
  intro front text rest gs h
  obtain ⟨rfl, _⟩ := reads_lit_iff.mp h
  exact ⟨c, hc, hq⟩

lemma Needs.alt {q : Char → Bool} {a b : Pattern} (ha : a.Needs q) (hb : b.Needs q) :
    (alt a b).Needs q := by
  rintro front text rest gs (h | h)
  · exact ha front text rest gs h
  · exact hb front text rest gs h

lemma Needs.all_cons {q : Char → Bool} (h : p.Needs q) (ps : List Pattern) :
    (all (p :: ps)).Needs q := by
  intro front text rest gs hreads
  obtain ⟨x, y, ga, gb, rfl, _, hx, _⟩ := reads_all_cons.mp hreads
  obtain ⟨c, hc, hq⟩ := h _ _ _ _ hx
  exact ⟨c, List.mem_append_left y hc, hq⟩

end Pattern

end CodeAtlas.Text
