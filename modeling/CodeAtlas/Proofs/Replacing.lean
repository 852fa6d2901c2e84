import CodeAtlas.Proofs.Matches

/-!
# What replacing leaves of a text

Replacing goes through a text from left to right. It copies what cannot be read, and where there is only
one reading it puts the new text in its place. A pattern that looks at nothing before it finds the same in
a text wherever the text stands, so what replacing leaves does not depend on that either.
-/

namespace CodeAtlas.Text.Pattern

variable {p : Pattern} {f : Match → List Char} {front gap cs : List Char}

/-- What replacing leaves of a text that stands behind `front`, if it makes at most `n` replacements. -/
def replaceFrom (p : Pattern) (f : Match → List Char) (n : Nat) (front cs : List Char) : List Char :=
  substitute f front.length (p.matchesFrom n (.between front cs)) cs

lemma replaceIn_eq (p : Pattern) (f : Match → List Char) (cs : List Char) :
    p.replaceIn f cs = p.replaceFrom f (cs.length + 1) [] cs := rfl

/-! ### One step -/

/-- What stands before all matches is copied. -/
lemma substitute_append {lo hi : Nat} {ms : List Match} (h : Spaced (lo + gap.length) ms hi) :
    substitute f lo ms (gap ++ cs) = gap ++ substitute f (lo + gap.length) ms cs := by
  cases ms with
  | nil => rfl
  | cons m ms =>
    have hstart := h.1
    have hstop := h.2.1
    have htake : (gap ++ cs).take (m.start - lo) = gap ++ cs.take (m.start - (lo + gap.length)) := by
      rw [List.take_append, List.take_of_length_le (by omega), Nat.sub_sub]
    have hdrop : (gap ++ cs).drop (m.stop - lo) = cs.drop (m.stop - (lo + gap.length)) := by
      rw [List.drop_append, List.drop_of_length_le (by omega), List.nil_append, Nat.sub_sub]
    simp only [substitute, htake, hdrop, List.append_assoc]

lemma replaceFrom_of_absent (h : p.Absent front gap cs) (n : Nat) :
    p.replaceFrom f n front (gap ++ cs) = gap ++ p.replaceFrom f n (front ++ gap) cs := by
  have hspaced := spaced_matchesFrom (p := p) n (front ++ gap) cs
  rw [List.length_append] at hspaced
  rw [replaceFrom, replaceFrom, matchesFrom_of_absent h, List.length_append]
  exact substitute_append hspaced

/-- Where all readings are of the same text and show the same, that is put in their place. -/
lemma replaceFrom_of_starts {text rest shown : List Char} (h : p.Starts front (text ++ rest))
    (hne : text ≠ [])
    (honly : ∀ text' rest' gs, text ++ rest = text' ++ rest' → p.Reads front text' rest' gs →
      text' = text ∧ ∀ m : Match, m.groups = gs → f m = shown) (n : Nat) :
    p.replaceFrom f (n + 1) front (text ++ rest) =
      shown ++ p.replaceFrom f n (front ++ text) rest := by
  obtain ⟨text', rest', gs, hcut, hreads, hmatches⟩ := matchesFrom_succ h n fun text' rest' gs hcut hreads =>
    (honly text' rest' gs hcut hreads).1 ▸ hne
  obtain ⟨rfl, hshown⟩ := honly text' rest' gs hcut hreads
  obtain rfl := List.append_cancel_left hcut
  rw [replaceFrom, hmatches, substitute, hshown _ rfl]
  simp [replaceFrom]

lemma replaceFrom_nil (h : ¬ p.Starts front []) (n : Nat) : p.replaceFrom f n front [] = [] := by
  have hnone : p.matchesFrom n (.between front []) = [] := by
    refine matchesFrom_eq_nil ?_ n
    intro a b hab
    obtain ⟨rfl, rfl⟩ := List.append_eq_nil_iff.mp hab.symm
    simpa using h
  rw [replaceFrom, hnone, substitute]

/-! ### Where the text stands -/

/-- A pattern that looks at nothing before the place where it is read. -/
def LooksAhead : Pattern → Prop
  | seq a b | alt a b => a.LooksAhead ∧ b.LooksAhead
  | opt a | group _ a => a.LooksAhead
  | lineStart | edge => False
  | empty | one _ | run _ _ _ _ | lineEnd => True

/-- Two places with the same text behind them; they are as far from `lo` as from `lo'`. -/
structure Parallel (lo lo' : Nat) (s s' : Place) : Prop where
  rest : s.rest = s'.rest
  offset : s.offset + lo' = s'.offset + lo

/-- Two matches of the same length with the same groups. -/
structure ParallelMatch (lo lo' : Nat) (m m' : Match) : Prop where
  start : m.start + lo' = m'.start + lo
  stop : m.stop + lo' = m'.stop + lo
  groups : m.groups = m'.groups

section

variable {α β : Type} {r : α → β → Prop} {lo lo' : Nat}

lemma matching_alt (a b : Pattern) (s : Place) (g : Groups) (next : Place → Groups → Option α) :
    (alt a b).matching s g next = (a.matching s g next).or (b.matching s g next) := by
  rw [matching]
  cases a.matching s g next <;> rfl

lemma matching_opt (a : Pattern) (s : Place) (g : Groups) (next : Place → Groups → Option α) :
    (opt a).matching s g next = (a.matching s g next).or (next s g) := by
  rw [matching]
  cases a.matching s g next <;> rfl

/-- A run stops before a character, or goes over it; which of the two is tried first depends on whether it
is reluctant. -/
lemma runOver_cons (reluctant : Bool) (q : Char → Bool) (next : Place → Option α) (least : Nat)
    (most : Option Nat) (before : Option Char) (offset : Nat) (c : Char) (cs : List Char) :
    runOver reluctant q next least most before offset (c :: cs) =
      let stop := if least = 0 then next ⟨before, offset, c :: cs⟩ else none
      let more := runOver reluctant q next (least - 1) (most.map (· - 1)) (some c) (offset + 1) cs
      if most = some 0 || !q c then stop else if reluctant then stop.or more else more.or stop := by
  rw [runOver]
  grind

lemma searchFrom?_cons (p : Pattern) (before : Option Char) (offset : Nat) (c : Char) (cs : List Char) :
    p.searchFrom? before offset (c :: cs) =
      (p.matchAt? ⟨before, offset, c :: cs⟩).or (p.searchFrom? (some c) (offset + 1) cs) := by
  rw [searchFrom?]
  cases p.matchAt? ⟨before, offset, c :: cs⟩ <;> rfl

lemma rel_or {x y : Option α} {x' y' : Option β} (hx : Option.Rel r x x') (hy : Option.Rel r y y') :
    Option.Rel r (x.or y) (x'.or y') := by
  cases hx with
  | none => exact hy
  | some h => exact .some h

lemma runOver_rel {reluctant : Bool} {q : Char → Bool} {next : Place → Option α}
    {next' : Place → Option β}
    (hnext : ∀ t t', Parallel lo lo' t t' → Option.Rel r (next t) (next' t'))
    {least : Nat} {most : Option Nat} {before before' : Option Char} {offset offset' : Nat}
    (hoffset : offset + lo' = offset' + lo) (cs : List Char) :
    Option.Rel r (runOver reluctant q next least most before offset cs)
      (runOver reluctant q next' least most before' offset' cs) := by
  induction cs generalizing least most before before' offset offset' with
  | nil =>
    simp only [runOver]
    split
    · exact hnext _ _ ⟨rfl, hoffset⟩
    · exact .none
  | cons c cs ih =>
    have hstop : Option.Rel r (if least = 0 then next ⟨before, offset, c :: cs⟩ else none)
        (if least = 0 then next' ⟨before', offset', c :: cs⟩ else none) := by
      split
      · exact hnext _ _ ⟨rfl, hoffset⟩
      · exact .none
    have hmore : Option.Rel r
        (runOver reluctant q next (least - 1) (most.map (· - 1)) (some c) (offset + 1) cs)
        (runOver reluctant q next' (least - 1) (most.map (· - 1)) (some c) (offset' + 1) cs) :=
      ih (by omega)
    rw [runOver_cons, runOver_cons]
    dsimp only
    split
    · exact hstop
    · split
      · exact rel_or hstop hmore
      · exact rel_or hmore hstop

/-- Matching goes the same way at parallel places. -/
theorem matching_rel {q : Pattern} (hq : q.LooksAhead) {next : Place → Groups → Option α}
    {next' : Place → Groups → Option β}
    (hnext : ∀ t t' g, Parallel lo lo' t t' → Option.Rel r (next t g) (next' t' g))
    {s s' : Place} (hs : Parallel lo lo' s s') (g : Groups) :
    Option.Rel r (q.matching s g next) (q.matching s' g next') := by
  induction q generalizing s s' g next next' with
  | empty => exact hnext s s' g hs
  | one p =>
    simp only [matching, hs.rest]
    cases hrest : s'.rest with
    | nil => exact .none
    | cons c cs =>
      simp only
      split
      · have hoffset := hs.offset
        exact hnext _ _ g ⟨rfl, by simp only; omega⟩
      · exact .none
  | seq a b iha ihb => exact iha hq.1 (fun t t' g ht => ihb hq.2 hnext ht g) hs g
  | alt a b iha ihb =>
    rw [matching_alt, matching_alt]
    exact rel_or (iha hq.1 hnext hs g) (ihb hq.2 hnext hs g)
  | opt a iha =>
    rw [matching_opt, matching_opt]
    exact rel_or (iha hq hnext hs g) (hnext s s' g hs)
  | run reluctant least most p =>
    simp only [matching, hs.rest]
    exact runOver_rel (fun t t' ht => hnext t t' g ht) hs.offset _
  | group n a iha =>
    refine iha hq (fun t t' g ht => ?_) hs g
    have hlength : t.offset - s.offset = t'.offset - s'.offset := by
      have hhere := hs.offset
      have hthere := ht.offset
      omega
    rw [hs.rest, hlength]
    exact hnext t t' _ ht
  | lineStart => exact hq.elim
  | lineEnd =>
    simp only [matching, hs.rest]
    split
    · exact hnext s s' g hs
    · exact .none
  | edge => exact hq.elim

end

variable {lo lo' : Nat}

/-- What a search finds at parallel places. -/
def ParallelFound (lo lo' : Nat) (found found' : Match × Place) : Prop :=
  ParallelMatch lo lo' found.1 found'.1 ∧ Parallel lo lo' found.2 found'.2

lemma matchAt?_rel (hp : p.LooksAhead) {s s' : Place} (hs : Parallel lo lo' s s') :
    Option.Rel (ParallelFound lo lo') (p.matchAt? s) (p.matchAt? s') :=
  matching_rel hp (fun _ _ _ ht => .some ⟨⟨hs.offset, ht.offset, rfl⟩, ht⟩) hs []

lemma searchFrom?_rel (hp : p.LooksAhead) {before before' : Option Char} {offset offset' : Nat}
    (hoffset : offset + lo' = offset' + lo) (cs : List Char) :
    Option.Rel (ParallelFound lo lo') (p.searchFrom? before offset cs)
      (p.searchFrom? before' offset' cs) := by
  induction cs generalizing before before' offset offset' with
  | nil => exact matchAt?_rel hp (s := ⟨before, offset, []⟩) ⟨rfl, hoffset⟩
  | cons c cs ih =>
    have hs : Parallel lo lo' ⟨before, offset, c :: cs⟩ ⟨before', offset', c :: cs⟩ := ⟨rfl, hoffset⟩
    rw [searchFrom?_cons, searchFrom?_cons]
    exact rel_or (matchAt?_rel hp hs) (ih (by omega))

/-- Behind another text a search finds the same, if it finds something. -/
lemma searchFrom?_cases (hp : p.LooksAhead) (front front' cs : List Char) :
    p.searchFrom? front.getLast? front.length cs = none ∧
        p.searchFrom? front'.getLast? front'.length cs = none ∨
      ∃ gap text rest gs, cs = gap ++ (text ++ rest) ∧ p.Reads (front ++ gap) text rest gs ∧
        p.searchFrom? front.getLast? front.length cs = some (readingMatch (front ++ gap) text rest gs) ∧
        p.searchFrom? front'.getLast? front'.length cs =
          some (readingMatch (front' ++ gap) text rest gs) := by
  have hsearch : Option.Rel (ParallelFound front.length front'.length)
      (p.searchFrom? front.getLast? front.length cs)
      (p.searchFrom? front'.getLast? front'.length cs) :=
    searchFrom?_rel hp (Nat.add_comm front.length front'.length) cs
  cases hfound : p.searchFrom? front.getLast? front.length cs <;>
    cases hfound' : p.searchFrom? front'.getLast? front'.length cs <;> rw [hfound, hfound'] at hsearch
  case none.none => exact Or.inl ⟨rfl, rfl⟩
  case none.some => cases hsearch
  case some.none => cases hsearch
  case some.some =>
    obtain ⟨gap, text, rest, gs, hcs, hreads, rfl⟩ := reads_of_searchFrom? hfound
    obtain ⟨gap', text', rest', gs', hcs', _, rfl⟩ := reads_of_searchFrom? hfound'
    cases hsearch with
    | some hparallel =>
      obtain ⟨hmatch, hplace⟩ := hparallel
      obtain rfl : rest = rest' := hplace.rest
      obtain rfl : gs = gs' := hmatch.groups
      have hstart : (front ++ gap).length + front'.length = (front' ++ gap').length + front.length :=
        hmatch.start
      obtain ⟨rfl, htext⟩ := List.append_inj (hcs.symm.trans hcs') (by simp at hstart; omega)
      obtain rfl := List.append_cancel_right htext
      exact Or.inr ⟨gap, text, rest, gs, hcs, hreads, rfl, rfl⟩

/-- What replacing leaves, by what the search finds. -/
lemma replaceFrom_of_search {text rest : List Char} {gs : Groups}
    (h : p.searchFrom? front.getLast? front.length (gap ++ (text ++ rest)) =
      some (readingMatch (front ++ gap) text rest gs)) (hne : text ≠ []) (n : Nat) :
    p.replaceFrom f (n + 1) front (gap ++ (text ++ rest)) =
      gap ++ (f ⟨(front ++ gap).length, (front ++ gap ++ text).length, gs⟩ ++
        p.replaceFrom f n (front ++ gap ++ text) rest) := by
  have hlt : (front ++ gap).length < (front ++ gap ++ text).length := by
    have hpos := List.length_pos_iff.mpr hne
    simp only [List.length_append]
    omega
  have hmatches : p.matchesFrom (n + 1) (.between front (gap ++ (text ++ rest))) =
      ⟨(front ++ gap).length, (front ++ gap ++ text).length, gs⟩ ::
        p.matchesFrom n (.between (front ++ gap ++ text) rest) := by
    rw [matchesFrom, Place.between]
    simp only [h, readingMatch, if_pos hlt]
  have hgap : (gap ++ (text ++ rest)).take ((front ++ gap).length - front.length) = gap := by simp
  have hrest : (gap ++ (text ++ rest)).drop ((front ++ gap ++ text).length - front.length) = rest := by
    have hlength : (front ++ (gap ++ text)).length - front.length = (gap ++ text).length := by simp
    rw [← List.append_assoc, List.append_assoc front, hlength, List.drop_left]
  rw [replaceFrom, hmatches, substitute, hgap, hrest, List.append_assoc, replaceFrom]

/-- What replacing leaves of a text does not depend on where the text stands. -/
theorem replaceFrom_congr (hp : p.LooksAhead)
    (hne : ∀ front text rest gs, p.Reads front text rest gs → text ≠ [])
    (hf : ∀ m m' : Match, m.groups = m'.groups → f m = f m') {n n' : Nat} (hn : cs.length < n)
    (hn' : cs.length < n') (front front' : List Char) :
    p.replaceFrom f n front cs = p.replaceFrom f n' front' cs := by
  induction n generalizing n' front front' cs with
  | zero => omega
  | succ n ih =>
    obtain ⟨n', rfl⟩ := Nat.exists_eq_succ_of_ne_zero (Nat.ne_zero_of_lt hn')
    rcases searchFrom?_cases hp front front' cs with
      ⟨hnone, hnone'⟩ | ⟨gap, text, rest, gs, rfl, hreads, hfound, hfound'⟩
    · simp [replaceFrom, matchesFrom, Place.between, hnone, hnone', substitute]
    · have htext := hne _ _ _ _ hreads
      have hpos := List.length_pos_iff.mpr htext
      simp only [List.length_append] at hn hn'
      have hlater : p.replaceFrom f n (front ++ gap ++ text) rest =
          p.replaceFrom f n' (front' ++ gap ++ text) rest := ih (by omega) (by omega) _ _
      have hhere : f ⟨(front ++ gap).length, (front ++ gap ++ text).length, gs⟩ =
          f ⟨(front' ++ gap).length, (front' ++ gap ++ text).length, gs⟩ := hf _ _ rfl
      rw [replaceFrom_of_search hfound htext, replaceFrom_of_search hfound' htext, hlater, hhere]

end CodeAtlas.Text.Pattern
