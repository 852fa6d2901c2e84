import CodeAtlas.Text.Search
import Mathlib.Tactic

/-!
# Lines of a text

A text is cut into lines at its line feeds. Cutting undoes joining, and joining undoes cutting. The number
of a line is the number of line feeds before it.
-/

namespace CodeAtlas.Text

variable {sep c : Char} {cs : List Char}

/-! ### Pieces -/

lemma pieces_cons_of_ne (h : c ≠ sep) : pieces sep (c :: cs) = consPiece c (pieces sep cs) := by
  rw [pieces, if_neg h]
  cases pieces sep cs <;> rfl

lemma consPiece_ne_nil (c : Char) (ps : List (List Char)) : consPiece c ps ≠ [] := by
  cases ps <;> exact List.cons_ne_nil _ _

lemma pieces_ne_nil (sep : Char) (cs : List Char) : pieces sep cs ≠ [] := by
  match cs with
  | [] => exact List.cons_ne_nil _ _
  | c :: cs =>
    by_cases h : c = sep
    · rw [pieces, if_pos h]
      exact List.cons_ne_nil _ _
    · rw [pieces_cons_of_ne h]
      exact consPiece_ne_nil c _

/-- A text has one piece more than separators. -/
lemma length_pieces (sep : Char) (cs : List Char) : (pieces sep cs).length = cs.count sep + 1 := by
  induction cs with
  | nil => rfl
  | cons c cs ih =>
    by_cases hc : c = sep
    · simp [pieces, hc, ih]
    · have hlength : ∀ ps ≠ [], (consPiece c ps).length = ps.length := by
        rintro (_ | ⟨p, ps⟩) hps
        · exact absurd rfl hps
        · rfl
      rw [pieces_cons_of_ne hc, hlength _ (pieces_ne_nil sep cs), ih, List.count_cons_of_ne hc]

lemma pieces_of_not_mem (h : sep ∉ cs) : pieces sep cs = [cs] := by
  induction cs with
  | nil => rfl
  | cons c cs ih =>
    rw [List.mem_cons, not_or] at h
    rw [pieces_cons_of_ne (Ne.symm h.1), ih h.2]
    rfl

/-- The pieces on both sides of a separator. -/
lemma pieces_append_cons (sep : Char) (a b : List Char) :
    pieces sep (a ++ sep :: b) = pieces sep a ++ pieces sep b := by
  induction a with
  | nil => simp [pieces]
  | cons c a ih =>
    rw [List.cons_append]
    by_cases h : c = sep
    · rw [pieces, pieces, if_pos h, if_pos h, ih]
      rfl
    · rw [pieces_cons_of_ne h, pieces_cons_of_ne h, ih]
      match hps : pieces sep a with
      | [] => exact absurd hps (pieces_ne_nil sep a)
      | p :: ps => rfl

/-- The first separator cuts a text in one way. -/
lemma eq_of_first_cut {c : Char} {a a' b b' : List Char} (ha : c ∉ a) (ha' : c ∉ a')
    (h : a ++ c :: b = a' ++ c :: b') : a = a' ∧ b = b' := by
  rcases List.append_eq_append_iff.mp h with ⟨between, rfl, hrest⟩ | ⟨between, rfl, hrest⟩
  · match between with
    | [] => simpa using hrest
    | d :: between =>
      obtain ⟨rfl, _⟩ := List.cons.inj hrest
      simp at ha'
  · match between with
    | [] => simpa using hrest.symm
    | d :: between =>
      obtain ⟨rfl, _⟩ := List.cons.inj hrest
      simp at ha

/-! ### Lines -/

/-- Lines that are written below another one. -/
def below (ls : List (List Char)) : List Char :=
  ls.flatMap fun l => '\n' :: l

lemma below_append (ls ms : List (List Char)) : below (ls ++ ms) = below ls ++ below ms :=
  List.flatMap_append

lemma unlines_cons (l : List Char) (ls : List (List Char)) : unlines (l :: ls) = l ++ below ls := by
  induction ls generalizing l with
  | nil => simp [unlines, join, below]
  | cons m ls ih =>
    have hstep : unlines (l :: m :: ls) = l ++ '\n' :: unlines (m :: ls) := by
      simp [unlines, join, List.intercalate_cons_cons]
    rw [hstep, ih]
    rfl

lemma lines_append_below {ls : List (List Char)} (h : ∀ l ∈ ls, '\n' ∉ l) (a : List Char) :
    lines (a ++ below ls) = lines a ++ ls := by
  induction ls generalizing a with
  | nil => simp [below]
  | cons l ls ih =>
    rw [List.forall_mem_cons] at h
    have hstep : a ++ below (l :: ls) = (a ++ '\n' :: l) ++ below ls := by simp [below]
    have hline : lines (a ++ '\n' :: l) = lines a ++ [l] := by
      rw [lines, pieces_append_cons, pieces_of_not_mem h.1]
      rfl
    rw [hstep, ih h.2, hline, List.append_assoc]
    rfl

/-- Cutting undoes joining. -/
lemma lines_unlines {l : List Char} {ls : List (List Char)} (h : ∀ m ∈ l :: ls, '\n' ∉ m) :
    lines (unlines (l :: ls)) = l :: ls := by
  rw [List.forall_mem_cons] at h
  rw [unlines_cons, lines_append_below h.2, lines, pieces_of_not_mem h.1]
  rfl

/-- The first line starts with the first character. -/
lemma exists_mem_lines_head (hc : c ≠ '\n') (cs : List Char) :
    ∃ line ∈ lines (c :: cs), line.head? = some c := by
  rw [lines, pieces_cons_of_ne hc]
  match pieces '\n' cs with
  | [] => exact ⟨[c], List.mem_cons_self, rfl⟩
  | p :: ps => exact ⟨c :: p, List.mem_cons_self, rfl⟩

lemma count_below {ls : List (List Char)} (h : ∀ l ∈ ls, '\n' ∉ l) :
    (below ls).count '\n' = ls.length := by
  induction ls with
  | nil => rfl
  | cons l ls ih =>
    rw [List.forall_mem_cons] at h
    have hstep : below (l :: ls) = '\n' :: (l ++ below ls) := rfl
    rw [hstep, List.count_cons_self, List.count_append, List.count_eq_zero.mpr h.1, ih h.2]
    simp

lemma mem_unlines {ls : List (List Char)} (h : c ∈ unlines ls) : c = '\n' ∨ ∃ l ∈ ls, c ∈ l := by
  match ls with
  | [] => cases h
  | l :: ls =>
    rw [unlines_cons, List.mem_append, below, List.mem_flatMap] at h
    rcases h with h | ⟨m, hm, h⟩
    · exact Or.inr ⟨l, List.mem_cons_self, h⟩
    · rcases List.mem_cons.mp h with rfl | h
      · exact Or.inl rfl
      · exact Or.inr ⟨m, List.mem_cons_of_mem l hm, h⟩

/-! ### Beginnings and ends of lines -/

/-- The place behind the text is the beginning of a line. -/
def AtLineStart (front : List Char) : Prop :=
  front.getLast? = none ∨ front.getLast? = some '\n'

/-- The place before the text is the end of a line. -/
def AtLineEnd (rest : List Char) : Prop :=
  rest.head? = none ∨ rest.head? = some '\n'

lemma atLineStart_nil : AtLineStart [] := Or.inl rfl

lemma atLineEnd_nil : AtLineEnd [] := Or.inl rfl

lemma atLineStart_concat_iff : AtLineStart (cs ++ [c]) ↔ c = '\n' := by
  simp [AtLineStart]

lemma atLineEnd_cons_iff : AtLineEnd (c :: cs) ↔ c = '\n' := by
  simp [AtLineEnd]

lemma atLineEnd_append {a b : List Char} (ha : AtLineEnd a) (hb : AtLineEnd b) :
    AtLineEnd (a ++ b) := by
  cases a with
  | nil => exact hb
  | cons c a => exact ha

lemma AtLineEnd.left {a b : List Char} (h : AtLineEnd (a ++ b)) : AtLineEnd a := by
  cases a with
  | nil => exact atLineEnd_nil
  | cons c a => exact h

lemma atLineEnd_below (ls : List (List Char)) : AtLineEnd (below ls) := by
  cases ls with
  | nil => exact atLineEnd_nil
  | cons l ls => exact Or.inr rfl

/-! ### Lines by their numbers -/

@[simp] lemma lines_lineFeed_cons (cs : List Char) : lines ('\n' :: cs) = [] :: lines cs := rfl

lemma lines_cons_of_ne (h : c ≠ '\n') : lines (c :: cs) = consPiece c (lines cs) :=
  pieces_cons_of_ne h

/-- The first line ends at the first line feed. -/
lemma lines_eq_cons (cs : List Char) :
    lines cs = cs.takeWhile (· != '\n') :: (lines cs).tail := by
  induction cs with
  | nil => rfl
  | cons c cs ih =>
    by_cases hc : c = '\n'
    · simp [hc]
    · rw [lines_cons_of_ne hc, ih]
      simp [consPiece, hc]

/-- Joining undoes cutting. -/
lemma unlines_lines (cs : List Char) : unlines (lines cs) = cs := by
  induction cs with
  | nil => rfl
  | cons c cs ih =>
    rw [lines_eq_cons cs, unlines_cons] at ih
    by_cases hc : c = '\n'
    · rw [hc, lines_lineFeed_cons, lines_eq_cons cs, unlines_cons, below, List.flatMap_cons,
        List.nil_append, List.cons_append, ← below, ih]
    · rw [lines_cons_of_ne hc, lines_eq_cons cs, consPiece, unlines_cons, List.cons_append, ih]

/-- Behind the beginning of a line stand the lines of what follows. -/
lemma drop_lines {front : List Char} (h : AtLineStart front) (rest : List Char) :
    (lines (front ++ rest)).drop (front.count '\n') = lines rest := by
  rcases List.eq_nil_or_concat' front with rfl | ⟨front, c, rfl⟩
  · rfl
  · obtain rfl := atLineStart_concat_iff.mp h
    have hlength : (front ++ ['\n']).count '\n' = (pieces '\n' front).length := by
      rw [length_pieces]
      simp
    rw [List.append_assoc, List.singleton_append, lines, pieces_append_cons, hlength, List.drop_left]
    rfl

lemma getElem?_lines {front : List Char} (h : AtLineStart front) (rest : List Char) (k : Nat) :
    (lines (front ++ rest))[front.count '\n' + k]? = (lines rest)[k]? := by
  rw [← List.getElem?_drop, drop_lines h]

/-- The second line stands between the first line feed and the end of a line. -/
lemma exists_of_getElem?_one {line : List Char} (h : (lines cs)[1]? = some line) :
    ∃ rest, AtLineEnd rest ∧ cs = (cs.takeWhile (· != '\n') ++ '\n' :: line) ++ rest := by
  rw [lines_eq_cons, List.getElem?_cons_succ] at h
  cases htail : (lines cs).tail with
  | nil => simp [htail] at h
  | cons second more =>
    rw [htail] at h
    cases h
    refine ⟨below more, atLineEnd_below more, ?_⟩
    have hcs := unlines_lines cs
    rw [lines_eq_cons, htail, unlines_cons] at hcs
    simpa [below] using hcs.symm

/-- Beginnings of different lines have different numbers of line feeds before them. -/
lemma eq_of_count_lineFeed {a b a' b' : List Char} (htext : a ++ b = a' ++ b') (ha : AtLineStart a)
    (ha' : AtLineStart a') (hcount : a.count '\n' = a'.count '\n') : a = a' := by
  have hnil : ∀ {u v : List Char}, AtLineStart (u ++ v) → (u ++ v).count '\n' = u.count '\n' →
      v = [] := by
    intro u v hstart hsame
    rcases List.eq_nil_or_concat' v with rfl | ⟨v, c, rfl⟩
    · rfl
    · rw [← List.append_assoc] at hstart
      obtain rfl := atLineStart_concat_iff.mp hstart
      simp at hsame
  rcases List.append_eq_append_iff.mp htext with ⟨v, rfl, _⟩ | ⟨v, rfl, _⟩
  · rw [hnil ha' hcount.symm, List.append_nil]
  · rw [hnil ha hcount, List.append_nil]

end CodeAtlas.Text
