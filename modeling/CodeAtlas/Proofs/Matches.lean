import CodeAtlas.Proofs.Patterns

/-!
# Where matches stand

The matches of a text stand one after the other. So what is left when they are cut out is the text with
its characters in their order, and each of them has a place that it comes from, at or behind the place
where it is found.

Which readings become matches is up to the search: a reading is passed over only if a match that starts
before it reaches beyond its start.
-/

namespace CodeAtlas.Text.Pattern

variable {p : Pattern} {front gap cs : List Char}

/-! ### The order of matches -/

/-- Matches stand one after the other between two positions. -/
def Spaced : Nat → List Match → Nat → Prop
  | lo, [], hi => lo ≤ hi
  | lo, m :: ms, hi => lo ≤ m.start ∧ m.start ≤ m.stop ∧ Spaced m.stop ms hi

lemma Spaced.mono {lo lo' hi : Nat} {ms : List Match} (h : Spaced lo ms hi) (hle : lo' ≤ lo) :
    Spaced lo' ms hi := by
  cases ms with
  | nil => exact hle.trans h
  | cons m ms => exact ⟨hle.trans h.1, h.2⟩

lemma Spaced.le {lo hi : Nat} {ms : List Match} (h : Spaced lo ms hi) : lo ≤ hi := by
  induction ms generalizing lo with
  | nil => exact h
  | cons m ms ih => exact h.1.trans (h.2.1.trans (ih h.2.2))

lemma Spaced.start_le {lo hi : Nat} {ms : List Match} (h : Spaced lo ms hi) {m : Match}
    (hm : m ∈ ms) : lo ≤ m.start := by
  induction ms generalizing lo with
  | nil => cases hm
  | cons m' ms ih =>
    rcases List.mem_cons.mp hm with rfl | hm
    · exact h.1
    · exact h.1.trans (h.2.1.trans (ih h.2.2 hm))

/-- Each match ends before the next one starts. -/
lemma Spaced.pairwise {lo hi : Nat} {ms : List Match} (h : Spaced lo ms hi) :
    ms.Pairwise fun m m' => m.stop ≤ m'.start := by
  induction ms generalizing lo with
  | nil => exact List.Pairwise.nil
  | cons m ms ih => exact List.pairwise_cons.mpr ⟨fun _ hm => h.2.2.start_le hm, ih h.2.2⟩

lemma spaced_matchesFrom (n : Nat) (front cs : List Char) :
    Spaced front.length (p.matchesFrom n (.between front cs)) (front ++ cs).length := by
  induction n generalizing front cs with
  | zero => simp [matchesFrom, Spaced]
  | succ n ih =>
    rw [matchesFrom]
    split
    · simp [Spaced]
    · rename_i hsearch
      obtain ⟨gap, text, rest, gs, rfl, _, hfound⟩ := reads_of_searchFrom? hsearch
      obtain ⟨rfl, rfl⟩ := Prod.mk.inj hfound
      have hnext := ih (front ++ gap ++ text) rest
      rw [show (front ++ gap ++ text ++ rest) = front ++ (gap ++ (text ++ rest)) by simp] at hnext
      split
      · exact ⟨by simp, by simp, hnext⟩
      · -- Behind an empty match one character is left out.
        cases rest with
        | nil => exact ⟨by simp, by simp, by simp [Spaced]⟩
        | cons c rest =>
          have hlater := ih (front ++ gap ++ text ++ [c]) rest
          rw [Place.between_concat, show front ++ gap ++ text ++ [c] ++ rest =
            front ++ (gap ++ (text ++ c :: rest)) by simp] at hlater
          exact ⟨by simp, by simp, hlater.mono (by simp)⟩

lemma spaced_matchesIn (cs : List Char) : Spaced 0 (p.matchesIn cs) cs.length := by
  have hfrom := spaced_matchesFrom (p := p) (cs.length + 1) [] cs
  exact hfrom

/-! ### Cutting out matches -/

/-- The position in a text of a position in what is left of it when matches are cut out; `offset` is
where the text starts. -/
def sourceFrom : Nat → List Match → Nat → Nat
  | offset, [], i => offset + i
  | offset, m :: ms, i =>
    if offset + i < m.start then offset + i else sourceFrom m.stop ms (i - (m.start - offset))

variable {lo hi i : Nat} {m : Match} {ms : List Match}

/-- Nothing moves to the right. -/
lemma le_sourceFrom (h : Spaced lo ms hi) (i : Nat) : lo + i ≤ sourceFrom lo ms i := by
  induction ms generalizing lo i with
  | nil => exact le_rfl
  | cons m ms ih =>
    rw [sourceFrom]
    split
    · exact le_rfl
    · have hnext := ih h.2.2 (i - (m.start - lo))
      have hstart := h.1
      have hstop := h.2.1
      omega

/-- Behind a match that is not empty everything moves. -/
lemma lt_sourceFrom (h : Spaced lo (m :: ms) hi) (hm : m.start < m.stop) (hi : m.start ≤ lo + i) :
    lo + i < sourceFrom lo (m :: ms) i := by
  rw [sourceFrom, if_neg (not_lt.mpr hi)]
  have hnext := le_sourceFrom h.2.2 (i - (m.start - lo))
  have hstart := h.1
  omega

/-- What is left is found at its place in the text. -/
lemma getElem?_substitute (h : Spaced lo ms (lo + cs.length)) (i : Nat) :
    (substitute (fun _ => []) lo ms cs)[i]? = cs[sourceFrom lo ms i - lo]? := by
  induction ms generalizing lo cs i with
  | nil => simp [substitute, sourceFrom]
  | cons m ms ih =>
    obtain ⟨hstart, hstop, hlater⟩ := h
    have hle := hlater.le
    have hlength : (cs.take (m.start - lo)).length = m.start - lo := by
      rw [List.length_take]
      omega
    have hrest : m.stop + (cs.drop (m.stop - lo)).length = lo + cs.length := by
      rw [List.length_drop]
      omega
    rw [substitute, sourceFrom, List.append_nil]
    split
    · rw [List.getElem?_append_left (by omega), List.getElem?_take_of_lt (by omega)]
      congr 1
      omega
    · have hsource := le_sourceFrom hlater (i - (m.start - lo))
      rw [List.getElem?_append_right (by omega), hlength, ih (hrest ▸ hlater), List.getElem?_drop]
      congr 1
      omega

/-! ### Which readings become matches -/

/-- No reading that starts in `gap` goes beyond its end; `gap` stands between `front` and `cs`. -/
def Unreached (p : Pattern) (front gap cs : List Char) : Prop :=
  ∀ a b text rest gs, gap = a ++ b → b ≠ [] → b ++ cs = text ++ rest →
    p.Reads (front ++ a) text rest gs → text <+: b

lemma Unreached.right {a b : List Char} (h : p.Unreached front (a ++ b) cs) :
    p.Unreached (front ++ a) b cs := by
  rintro x y text rest gs rfl hy hcut hreads
  rw [List.append_assoc] at hreads
  exact h (a ++ x) y text rest gs (List.append_assoc a x y).symm hy hcut hreads

/-- Where a pattern can be read there is a match, unless another match that starts before takes up the
place. -/
lemma exists_mem_matchesFrom {n : Nat} (hn : (gap ++ cs).length < n)
    (hne : ∀ front text rest gs, p.Reads front text rest gs → text ≠ [])
    (hstart : p.Starts (front ++ gap) cs) (hgap : p.Unreached front gap cs) :
    ∃ m ∈ p.matchesFrom n (.between front (gap ++ cs)), m.start = (front ++ gap).length := by
  induction hlength : gap.length using Nat.strong_induction_on generalizing gap front n with
  | _ k ih =>
    subst hlength
    by_cases hhere : p.Starts front (gap ++ cs)
    · obtain ⟨n, rfl⟩ := Nat.exists_eq_succ_of_ne_zero (Nat.ne_zero_of_lt hn)
      obtain ⟨text, rest, gs, hcut, hreads, hmatches⟩ :=
        matchesFrom_succ hhere n fun text rest gs _ => hne _ _ _ _
      rw [hmatches]
      by_cases hnil : gap = []
      · subst hnil
        exact ⟨_, List.mem_cons_self, by simp⟩
      · -- The match that is found ends in the gap, and the search goes on behind it.
        obtain ⟨later, rfl⟩ := hgap [] gap text rest gs rfl hnil hcut (by simpa using hreads)
        rw [List.append_assoc] at hcut
        obtain rfl := List.append_cancel_left hcut
        have hpos := List.length_pos_iff.mpr (hne _ _ _ _ hreads)
        rw [← List.append_assoc] at hstart
        have hless : (later ++ cs).length < n := by
          simp only [List.length_append] at hn ⊢
          omega
        obtain ⟨m, hm, hfound⟩ :=
          ih later.length (by simp; omega) hless hstart hgap.right rfl
        exact ⟨m, List.mem_cons_of_mem _ hm, by simpa using hfound⟩
    · cases gap with
      | nil => exact absurd (by simpa using hstart) hhere
      | cons c gap =>
        have habsent : p.Absent front [c] (gap ++ cs) := by
          intro a b hab hb
          obtain ⟨rfl, rfl⟩ : a = [] ∧ b = [c] := by
            cases a with
            | nil => exact ⟨rfl, by simpa using hab.symm⟩
            | cons d a => simp_all
          simpa using hhere
        have hnext : p.matchesFrom n (.between front (c :: gap ++ cs)) =
            p.matchesFrom n (.between (front ++ [c]) (gap ++ cs)) := matchesFrom_of_absent habsent n
        have hright : p.Unreached (front ++ [c]) gap cs := hgap.right (a := [c])
        have hless : (gap ++ cs).length < n := by
          simp only [List.cons_append, List.length_cons] at hn
          omega
        rw [hnext]
        obtain ⟨m, hm, hfound⟩ := ih gap.length (by simp) hless (by simpa using hstart) hright rfl
        exact ⟨m, hm, by simpa using hfound⟩

lemma exists_mem_matchesIn (hne : ∀ front text rest gs, p.Reads front text rest gs → text ≠ [])
    (hstart : p.Starts gap cs) (hgap : p.Unreached [] gap cs) :
    ∃ m ∈ p.matchesIn (gap ++ cs), m.start = gap.length := by
  have hfrom : p.Starts ([] ++ gap) cs := hstart
  exact exists_mem_matchesFrom (Nat.lt_succ_self _) hne hfrom hgap

end CodeAtlas.Text.Pattern
