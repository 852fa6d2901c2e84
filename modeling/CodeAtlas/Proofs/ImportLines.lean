import CodeAtlas.Proofs.Characters
import CodeAtlas.Proofs.Layout
import CodeAtlas.Proofs.Lines
import CodeAtlas.Proofs.Readers
import CodeAtlas.Proofs.Sections

/-!
# Words and tokens on a line

A line without carriage returns inside is read twice: by the lexer, which finds tokens in it, and as a
row of words between blanks. Where a keyword stands first on its line, the words behind it say which
tokens follow: a name is spelled by the beginning of the next word, and the names of a module make up a
word that has nothing but names and dots in it.
-/

namespace CodeAtlas

namespace Text

/-! ### Words -/

lemma wordsFrom_append {w : List Char} (h : ∀ c ∈ w, isBlank c = false) (word cs : List Char) :
    wordsFrom word (w ++ cs) = wordsFrom (word ++ w) cs := by
  induction w generalizing word with
  | nil => simp
  | cons c w ih =>
    rw [List.forall_mem_cons] at h
    rw [List.cons_append, wordsFrom, if_neg (by simp [h.1]), ih h.2]
    simp

/-- Blanks in front do not matter. -/
lemma words_append_of_blank {a : List Char} (h : ∀ c ∈ a, isBlank c = true) (cs : List Char) :
    words (a ++ cs) = words cs := by
  induction a with
  | nil => rfl
  | cons c a ih =>
    rw [List.forall_mem_cons] at h
    rw [List.cons_append, words, wordsFrom, if_pos h.1]
    exact ih h.2

/-- A word goes on to the next blank. -/
lemma words_append {w b : List Char} (hw : w ≠ []) (hsolid : ∀ c ∈ w, isBlank c = false)
    (hb : ∀ c ∈ b.head?, isBlank c = true) : words (w ++ b) = w :: words b := by
  have hempty : ¬ w.isEmpty = true := by simpa using hw
  rw [words, wordsFrom_append hsolid, List.nil_append]
  cases b with
  | nil => simp [wordsFrom, words, hw]
  | cons c b =>
    have hc : isBlank c = true := hb c rfl
    rw [wordsFrom, if_pos hc, if_neg hempty, words, wordsFrom, if_pos hc]
    rfl

/-- Nor do blanks at the end. -/
lemma words_append_blanks {b : List Char} (hb : ∀ c ∈ b, isBlank c = true) (cs : List Char) :
    words (cs ++ b) = words cs := by
  have hfrom : ∀ word, wordsFrom word (cs ++ b) = wordsFrom word cs := by
    induction cs with
    | nil =>
      intro word
      cases b with
      | nil => rfl
      | cons c b =>
        rw [List.forall_mem_cons] at hb
        have hrest : wordsFrom [] b = [] := by
          have hblank := words_append_of_blank hb.2 []
          rwa [List.append_nil] at hblank
        simp [wordsFrom, hb.1, hrest]
    | cons c cs ih =>
      intro word
      rw [List.cons_append, wordsFrom, wordsFrom, ih, ih]
  exact hfrom []

/-- The words of a line whose first word has a space behind it. -/
lemma words_append_rdropWhile {w rest : List Char} (hw : w ≠ []) (hsolid : ∀ c ∈ w, isBlank c = false)
    (hspace : [' '] <+: rest.rdropWhile isBlank) :
    words (w ++ rest.rdropWhile isBlank) = w :: words rest := by
  obtain ⟨more, hmore⟩ := hspace
  have hblank : ∀ c ∈ (rest.rdropWhile isBlank).head?, isBlank c = true := by
    rw [← hmore]
    rintro _ ⟨⟩
    rfl
  have hrest : words (rest.rdropWhile isBlank ++ rest.rtakeWhile isBlank) =
      words (rest.rdropWhile isBlank) := words_append_blanks (fun c => List.mem_rtakeWhile_imp) _
  rw [List.rdropWhile_append_rtakeWhile] at hrest
  rw [words_append hw hsolid hblank, hrest]

lemma eq_false_of_head?_dropWhile {p : Char → Bool} {cs : List Char} {c : Char}
    (h : c ∈ (cs.dropWhile p).head?) : p c = false := by
  have hnot := List.head?_dropWhile_not p cs
  rw [Option.mem_def.mp h] at hnot
  exact hnot

lemma exists_of_words_eq_cons {cs w : List Char} {ws : List (List Char)} (h : words cs = w :: ws) :
    ∃ a b, cs = a ++ (w ++ b) ∧ (∀ c ∈ a, isBlank c = true) ∧ w ≠ [] ∧
      (∀ c ∈ w, isBlank c = false) ∧ (∀ c ∈ b.head?, isBlank c = true) ∧ words b = ws := by
  have hblank : ∀ c ∈ cs.takeWhile isBlank, isBlank c = true := fun c => List.mem_takeWhile_imp
  have hcs : cs.takeWhile isBlank ++ cs.dropWhile isBlank = cs := List.takeWhile_append_dropWhile
  rw [← hcs, words_append_of_blank hblank] at h
  cases hrest : cs.dropWhile isBlank with
  | nil =>
    rw [hrest] at h
    cases h
  | cons c rest =>
    have hc : isBlank c = false := eq_false_of_head?_dropWhile (by rw [hrest]; rfl)
    have hword : c :: rest = (c :: rest.takeWhile (!isBlank ·)) ++ rest.dropWhile (!isBlank ·) := by
      rw [List.cons_append, List.takeWhile_append_dropWhile]
    have hsolid : ∀ d ∈ c :: rest.takeWhile (!isBlank ·), isBlank d = false := by
      rw [List.forall_mem_cons]
      exact ⟨hc, fun d hd => by simpa using List.mem_takeWhile_imp hd⟩
    have hbehind : ∀ d ∈ (rest.dropWhile (!isBlank ·)).head?, isBlank d = true :=
      fun d hd => by simpa using eq_false_of_head?_dropWhile hd
    rw [hrest, hword, words_append (by simp) hsolid hbehind] at h
    obtain ⟨rfl, rfl⟩ := List.cons.inj h
    refine ⟨cs.takeWhile isBlank, rest.dropWhile (!isBlank ·), ?_, hblank, by simp, hsolid, hbehind, rfl⟩
    rw [← hword, ← hrest, hcs]

end Text

namespace Script

open CodeAtlas.Text

/-! ### Lines of positions -/

/-- The number of bytes of a text. -/
def width (cs : List Char) : Nat :=
  (cs.map byteWidth).sum

lemma width_append (a b : List Char) : width (a ++ b) = width a + width b := by
  simp [width]

lemma byteWidth_pos (c : Char) : 0 < byteWidth c :=
  c.utf8Size_pos

/-- Beginnings of a text with as many bytes are the same. -/
lemma eq_of_width {a b a' b' : List Char} (htext : a ++ b = a' ++ b') (h : width a = width a') :
    a = a' := by
  have hnil : ∀ v : List Char, width v = 0 → v = [] := by
    intro v hv
    cases v with
    | nil => rfl
    | cons c v =>
      have hc := byteWidth_pos c
      simp only [width, List.map_cons, List.sum_cons] at hv
      omega
  rcases List.append_eq_append_iff.mp htext with ⟨v, rfl, _⟩ | ⟨v, rfl, _⟩
  · rw [width_append] at h
    rw [hnil v (by omega), List.append_nil]
  · rw [width_append] at h
    rw [hnil v (by omega), List.append_nil]

lemma Position.over_of_not_mem {cs : List Char} (h : '\n' ∉ cs) (p : Position) :
    p.over cs = ⟨p.line, p.column + width cs⟩ := by
  induction cs generalizing p with
  | nil => simp [width]
  | cons c cs ih =>
    rw [List.mem_cons, not_or] at h
    rw [Position.over_cons, ih h.2, Position.after, if_neg (Ne.symm h.1)]
    simp [width, Nat.add_assoc]

lemma Position.over_line (cs : List Char) (p : Position) :
    (p.over cs).line = p.line + cs.count '\n' := by
  induction cs generalizing p with
  | nil => simp
  | cons c cs ih =>
    rw [Position.over_cons, ih, Position.after]
    split
    · rename_i hc
      simp [hc]
      omega
    · rename_i hc
      simp [hc]

lemma Position.over_lineStart {front : List Char} (h : AtLineStart front) :
    (⟨1, 0⟩ : Position).over front = ⟨1 + front.count '\n', 0⟩ := by
  rcases List.eq_nil_or_concat' front with rfl | ⟨front, c, rfl⟩
  · rfl
  · obtain rfl := atLineStart_concat_iff.mp h
    rw [Position.over_append, Position.over_cons, Position.after, if_pos rfl, Position.over_nil,
      Position.over_line, List.count_append]
    rfl

/-- What stands on the same line before the end of a text. -/
lemma exists_lineStart (cs : List Char) :
    ∃ front tail, cs = front ++ tail ∧ AtLineStart front ∧ '\n' ∉ tail := by
  induction cs using List.reverseRecOn with
  | nil => exact ⟨[], [], rfl, atLineStart_nil, by simp⟩
  | append_singleton cs c ih =>
    by_cases hc : c = '\n'
    · exact ⟨cs ++ [c], [], by simp, atLineStart_concat_iff.mpr hc, by simp⟩
    · obtain ⟨front, tail, rfl, hstart, htail⟩ := ih
      exact ⟨front, tail ++ [c], by simp, hstart, by simp [htail, Ne.symm hc]⟩

/-- The line of a position in a text. -/
lemma exists_line_over (before behind : List Char) :
    ∃ tail, (lines (before ++ behind))[((⟨1, 0⟩ : Position).over before).line - 1]? =
        some (tail ++ behind.takeWhile (· != '\n')) ∧
      ((⟨1, 0⟩ : Position).over before).column = width tail := by
  obtain ⟨front, tail, rfl, hstart, htail⟩ := exists_lineStart before
  refine ⟨tail, ?_, ?_⟩
  · have hline : ((⟨1, 0⟩ : Position).over (front ++ tail)).line - 1 = front.count '\n' + 0 := by
      rw [Position.over_line, List.count_append, List.count_eq_zero_of_not_mem htail]
      simp
    have hsolid : ∀ c ∈ tail, (c != '\n') = true := by
      intro c hc
      simpa using fun h : c = '\n' => htail (h ▸ hc)
    rw [hline, List.append_assoc, getElem?_lines hstart, lines_eq_cons, List.getElem?_cons_zero,
      List.takeWhile_append_of_pos hsolid]
  · rw [Position.over_append, Position.over_lineStart hstart, Position.over_of_not_mem htail]
    simp

/-! ### Line ends -/

/-- Carriage returns stand only in front of line feeds. -/
def EndsLines (cs : List Char) : Prop :=
  ∀ a b, cs = a ++ '\r' :: b → b.head? = some '\n'

lemma endsLines_of_not_mem {cs : List Char} (h : '\r' ∉ cs) : EndsLines cs := by
  rintro a b rfl
  simp at h

lemma EndsLines.tail {c : Char} {cs : List Char} (h : EndsLines (c :: cs)) : EndsLines cs := by
  intro a b hcs
  exact h (c :: a) b (by rw [hcs, List.cons_append])

/-- Lines stay what they are when line ends are unified, but for carriage returns at their ends. -/
lemma line_unifyLineEnds {cs : List Char} (h : EndsLines cs) (i : Nat) :
    (lines cs)[i]?.getD [] = (lines (unifyLineEnds cs))[i]?.getD [] ∨
      (lines cs)[i]?.getD [] = (lines (unifyLineEnds cs))[i]?.getD [] ++ ['\r'] := by
  fun_induction unifyLineEnds cs generalizing i with
  | case1 => rcases i with _ | _ | i <;> simp [lines, pieces]
  | case2 => exact .inl rfl
  | case3 => cases h [] [] rfl
  | case4 cs ih =>
    cases i with
    | zero => exact .inr rfl
    | succ i => exact ih h.tail.tail i
  | case5 cs _ hnot ih =>
    obtain ⟨rest, rfl⟩ := List.head?_eq_some_iff.mp (h [] cs rfl)
    exact absurd rfl (hnot rest)
  | case6 c cs _ _ _ _ ih =>
    by_cases hc : c = '\n'
    · subst hc
      cases i with
      | zero => exact .inl rfl
      | succ i => exact ih h.tail i
    · rw [lines_cons_of_ne hc, lines_cons_of_ne hc]
      have hrest := ih h.tail i
      rw [lines_eq_cons cs, lines_eq_cons (unifyLineEnds cs)] at hrest ⊢
      cases i with
      | zero => simpa [consPiece] using hrest
      | succ i => exact hrest

/-- Blanks in front of a word and at the end do not show. -/
lemma trim_append_word {a word b : List Char} (ha : ∀ c ∈ a, isBlank c = true) (hword : word ≠ [])
    (hsolid : ∀ c ∈ word, isBlank c = false) :
    trim (a ++ (word ++ b)) = word ++ b.rdropWhile isBlank := by
  have hfront : (word ++ b).dropWhile isBlank = word ++ b := by
    refine dropWhile_eq_self fun c hc => ?_
    rw [List.head?_append_of_ne_nil word hword] at hc
    exact hsolid c (List.mem_of_head? hc)
  have hback : word.reverse.dropWhile isBlank = word.reverse := by
    refine dropWhile_eq_self fun c hc => ?_
    exact hsolid c (List.mem_reverse.mp (List.mem_of_head? hc))
  rw [Outline.trim_eq, List.dropWhile_append_of_pos ha, hfront, List.rdropWhile, List.reverse_append,
    List.dropWhile_append]
  split
  · rename_i hempty
    rw [hback, List.reverse_reverse, List.rdropWhile, List.isEmpty_iff.mp hempty]
    simp
  · rw [List.reverse_append, List.reverse_reverse]
    rfl

/-- The line of a word that stands first on it, without the blanks around it. -/
lemma trim_line {text before word behind : List Char} (hends : EndsLines text)
    (htext : unifyLineEnds text = before ++ (word ++ behind)) (hword : word ≠ [])
    (hsolid : ∀ c ∈ word, isBlank c = false)
    (hfirst : ((⟨1, 0⟩ : Position).over before).column = width
      (((lines text)[((⟨1, 0⟩ : Position).over before).line - 1]?.getD []).takeWhile isBlank)) :
    trim ((lines text)[((⟨1, 0⟩ : Position).over before).line - 1]?.getD []) =
      word ++ (behind.takeWhile (· != '\n')).rdropWhile isBlank := by
  obtain ⟨tail, hline, hcolumn⟩ := exists_line_over before (word ++ behind)
  have hinline : ∀ c ∈ word, (c != '\n') = true := by
    intro c hc
    rw [bne_iff_ne]
    rintro rfl
    cases hsolid _ hc
  rw [List.takeWhile_append_of_pos hinline] at hline
  rw [hcolumn] at hfirst
  -- The line of the text itself may have a carriage return at its end.
  obtain ⟨rest, hrest, hend⟩ : ∃ rest, (lines text)[((⟨1, 0⟩ : Position).over before).line - 1]?.getD [] =
      tail ++ (word ++ rest) ∧ rest.rdropWhile isBlank =
        (behind.takeWhile (· != '\n')).rdropWhile isBlank := by
    have hunified := line_unifyLineEnds hends (((⟨1, 0⟩ : Position).over before).line - 1)
    rw [htext, hline, Option.getD_some] at hunified
    rcases hunified with h | h
    · exact ⟨_, h, rfl⟩
    · refine ⟨behind.takeWhile (· != '\n') ++ ['\r'], by rw [h]; simp, ?_⟩
      exact List.rdropWhile_concat_pos _ _ _ rfl
  have htail : ∀ c ∈ tail, isBlank c = true := by
    have hblanks : tail = (tail ++ (word ++ rest)).takeWhile isBlank := by
      rw [hrest] at hfirst
      exact eq_of_width List.takeWhile_append_dropWhile.symm hfirst
    rw [hblanks]
    exact fun c => List.mem_takeWhile_imp
  rw [hrest, trim_append_word htail hword hsolid, hend]

/-! ### Tokens on a line -/

lemma isBlank_of_isSpacing {c : Char} (h : isSpacing c = true) : isBlank c = true := by
  simp only [isSpacing, Bool.or_eq_true, beq_iff_eq] at h
  rcases h with (rfl | rfl) | rfl <;> rfl

/-- Where a word stands behind blanks on a line, no gap can end elsewhere. -/
lemma eq_of_gap {gap cs a rest : List Char} {y c : Char} (hgap : IsGap gap)
    (h : gap ++ y :: cs = a ++ c :: rest) (hy : isBlank y = false)
    (ha : ∀ d ∈ a, isBlank d = true ∧ d ≠ '\n') (hc : isBlank c = false) (hc' : c ≠ '#' ∧ c ≠ '\\') :
    gap = a ∧ y :: cs = c :: rest := by
  induction gap generalizing a with
  | nil =>
    cases a with
    | nil => exact ⟨rfl, h⟩
    | cons d a =>
      obtain ⟨rfl, _⟩ := List.cons.inj h
      rw [(ha y List.mem_cons_self).1] at hy
      cases hy
  | cons x gap ih =>
    by_cases hx : isSpacing x = true
    · rw [IsGap, List.dropWhile_cons_of_pos hx] at hgap
      cases a with
      | nil =>
        obtain ⟨rfl, _⟩ := List.cons.inj h
        rw [isBlank_of_isSpacing hx] at hc
        cases hc
      | cons d a =>
        obtain ⟨rfl, htail⟩ := List.cons.inj h
        obtain ⟨rfl, heq⟩ := ih hgap htail fun d hd => ha d (List.mem_cons_of_mem _ hd)
        exact ⟨rfl, heq⟩
    · rw [IsGap, List.dropWhile_cons_of_neg hx] at hgap
      have hkind : x = '\n' ∨ x = '#' ∨ x = '\\' := hgap x rfl
      cases a with
      | nil =>
        obtain ⟨rfl, _⟩ := List.cons.inj h
        rcases hkind with rfl | hkind | hkind
        · cases hc
        · exact absurd hkind hc'.1
        · exact absurd hkind hc'.2
      | cons d a =>
        obtain ⟨rfl, _⟩ := List.cons.inj h
        obtain ⟨hblank, hne⟩ := ha x List.mem_cons_self
        rcases hkind with rfl | rfl | rfl
        · exact absurd rfl hne
        · cases hblank
        · cases hblank

lemma continuesName_of_isName {cs : List Char} (h : isName cs = true) :
    ∀ c ∈ cs, continuesName c = true := by
  have hpart : ∀ c, isNamePart c = true → continuesName c = true := by
    intro c hc
    unfold isNamePart at hc
    unfold continuesName
    split at hc
    · rw [hc, Bool.true_or]
    · simp [not_lt.mp ‹_›]
  have hstart : ∀ c, isNameStart c = true → continuesName c = true := by
    intro c hc
    unfold isNameStart at hc
    unfold continuesName Char.isAlphanum
    split at hc
    · rcases Bool.or_eq_true_iff.mp hc with hc | hc <;> simp [hc]
    · simp [not_lt.mp ‹_›]
  cases cs with
  | nil => simp
  | cons c cs =>
    rw [isName, Bool.and_eq_true, List.all_eq_true] at h
    rw [List.forall_mem_cons]
    exact ⟨hstart c h.1, fun d hd => hpart d (h.2 d hd)⟩

/-- A name that starts inside a word ends inside it. -/
lemma takeWhile_name {v b : List Char} (hb : ∀ c ∈ b.head?, isBlank c = true)
    (h : isName ((v ++ b).takeWhile continuesName) = true) :
    (v ++ b).takeWhile continuesName = v.takeWhile continuesName := by
  rw [List.takeWhile_append] at h ⊢
  split
  · rename_i hall
    rw [if_pos hall] at h
    have hnone : b.takeWhile continuesName = [] := by
      cases b with
      | nil => rfl
      | cons c b =>
        by_cases hc : continuesName c = true
        · rw [List.takeWhile_cons_of_pos hc] at h
          have hsolid := isBlank_of_isName h c (by simp)
          rw [hb c rfl] at hsolid
          cases hsolid
        · exact List.takeWhile_cons_of_neg hc
    rw [hnone, List.append_nil, (List.takeWhile_prefix continuesName).eq_of_length hall]
  · rfl

lemma isName_of_ofSpelling? {run : List Char} {identifier : Identifier}
    (h : Identifier.ofSpelling? run = some identifier) : isName run = true := by
  unfold Identifier.ofSpelling? at h
  split at h
  · assumption
  · cases h

lemma text_of_ofSpelling? {run : List Char} {identifier : Identifier}
    (h : Identifier.ofSpelling? run = some identifier) : identifier.text.toList = compose run := by
  unfold Identifier.ofSpelling? at h
  split at h
  · split at h
    · cases h
      exact String.toList_ofList
    · cases h
  · cases h

lemma exists_head_of_name {cs : List Char} {spelling : String} {identifier : Identifier} {n : Nat}
    (h : scanLexeme cs = some (.name spelling identifier, n)) : ∃ y ∈ cs.head?, isBlank y = false := by
  obtain ⟨_, hidentifier, _, _⟩ := name_of_scanLexeme h
  have hrun := isName_of_ofSpelling? hidentifier
  cases cs with
  | nil => cases hrun
  | cons y cs =>
    refine ⟨y, rfl, isBlank_of_isName hrun y ?_⟩
    by_cases hy : continuesName y = true
    · simp [List.takeWhile_cons_of_pos hy]
    · rw [List.takeWhile_cons_of_neg hy] at hrun
      cases hrun

/-- No operator starts with a blank or like a name. -/
lemma head_of_operator {o : List Char} (h : o ∈ operators) :
    ∃ c ∈ o.head?, isBlank c = false ∧ continuesName c = false := by
  have hall : operators.all (·.head?.any fun c => !isBlank c && !continuesName c) = true := by decide
  obtain ⟨c, hc, hkind⟩ := (Option.any_eq_true _ _).mp (List.all_eq_true.mp hall o h)
  exact ⟨c, hc, by simpa using hkind⟩

section Behind

variable {p : Position} {a v b : List Char} {t : Token} {ts : List Token}

/-- A token that is read behind blanks on a line is read off the word that stands there. -/
lemma scanLexeme_of_laid (hlaid : Laid p (a ++ (v ++ b)) (t :: ts)) (hlayout : t.lexeme.isLayout = false)
    (ht : ∀ cs n, scanLexeme cs = some (t.lexeme, n) → ∃ y ∈ cs.head?, isBlank y = false)
    (ha : ∀ d ∈ a, isBlank d = true ∧ d ≠ '\n')
    (hv : ∃ c ∈ v.head?, isBlank c = false ∧ c ≠ '#' ∧ c ≠ '\\') :
    ∃ n q, scanLexeme (v ++ b) = some (t.lexeme, n) ∧ Laid q ((v ++ b).drop n) ts := by
  obtain ⟨gap, cs, n, htext, hgap, _, hlexeme, hrest⟩ := laid_cons_iff.mp hlaid
  have hscan : scanLexeme cs = some (t.lexeme, n) := hlexeme.resolve_left (by simp [hlayout])
  obtain ⟨y, hy, hsolid⟩ := ht cs n hscan
  obtain ⟨cs', rfl⟩ := List.head?_eq_some_iff.mp hy
  obtain ⟨c, hc, hcsolid, hmarks⟩ := hv
  obtain ⟨v', rfl⟩ := List.head?_eq_some_iff.mp hc
  obtain ⟨_, hcs⟩ := eq_of_gap hgap htext.symm hsolid ha hcsolid hmarks
  rw [hcs] at hscan hrest
  exact ⟨n, _, hscan, hrest⟩

/-- A name that is read where a word starts is written at the beginning of the word. -/
lemma name_of_laid {spelling : String} {identifier : Identifier}
    (hlaid : Laid p (a ++ (v ++ b)) (t :: ts)) (ht : t.lexeme = .name spelling identifier)
    (ha : ∀ d ∈ a, isBlank d = true ∧ d ≠ '\n')
    (hv : ∃ c ∈ v.head?, isBlank c = false ∧ c ≠ '#' ∧ c ≠ '\\') (hb : ∀ d ∈ b.head?, isBlank d = true) :
    spelling = String.ofList (v.takeWhile continuesName) ∧
      Identifier.ofSpelling? (v.takeWhile continuesName) = some identifier ∧
      keywords.contains spelling = false ∧ ∃ q, Laid q (v.dropWhile continuesName ++ b) ts := by
  obtain ⟨n, q, hscan, hrest⟩ := scanLexeme_of_laid hlaid (by rw [ht]; rfl)
    (fun cs n h => exists_head_of_name (by rwa [ht] at h)) ha hv
  rw [ht] at hscan
  obtain ⟨hspelling, hidentifier, hkeyword, rfl⟩ := name_of_scanLexeme hscan
  have hword := takeWhile_name hb (isName_of_ofSpelling? hidentifier)
  have hsplit : v ++ b = v.takeWhile continuesName ++ (v.dropWhile continuesName ++ b) := by
    rw [← List.append_assoc, List.takeWhile_append_dropWhile]
  rw [hword] at hspelling hidentifier hrest
  rw [hsplit, List.drop_left] at hrest
  exact ⟨hspelling, hidentifier, hkeyword, q, hrest⟩

/-! ### Names of modules on a line -/

lemma exists_head_of_isPrefix {w cs : List Char} {c : Char} (h : c :: w <+: cs) (hc : isBlank c = false) :
    ∃ y ∈ cs.head?, isBlank y = false := by
  obtain ⟨rest, rfl⟩ := h
  exact ⟨c, rfl, hc⟩

/-- Name characters and dots neither are blank nor start gaps. -/
lemma isSolid_of_namePart {c : Char} (h : isBlank c = false ∧ (continuesName c = true ∨ c = '.')) :
    isBlank c = false ∧ c ≠ '#' ∧ c ≠ '\\' := by
  refine ⟨h.1, ?_, ?_⟩
  · rintro rfl
    exact absurd h.2 (by decide)
  · rintro rfl
    exact absurd h.2 (by decide)

/-- The first part of a module's name, and those behind it. -/
lemma composed_of_pieces (hv : ∀ c ∈ v, continuesName c = true ∨ c = '.')
    (h : ∀ u ∈ pieces '.' v, compose u = u) :
    compose (v.takeWhile continuesName) = v.takeWhile continuesName ∧
      ∀ u ∈ pieces '.' (v.dropWhile continuesName), compose u = u := by
  have hrun : '.' ∉ v.takeWhile continuesName := fun hmem =>
    absurd (List.mem_takeWhile_imp hmem) (by decide)
  have hsplit : v.takeWhile continuesName ++ v.dropWhile continuesName = v :=
    List.takeWhile_append_dropWhile
  rw [← hsplit] at h
  cases hrest : v.dropWhile continuesName with
  | nil =>
    rw [hrest, List.append_nil, pieces_of_not_mem hrun] at h
    exact ⟨h _ List.mem_cons_self, by decide⟩
  | cons c rest =>
    have hc : continuesName c = false := eq_false_of_head?_dropWhile (by rw [hrest]; rfl)
    have hmem : c ∈ v := (List.dropWhile_suffix continuesName).subset (by rw [hrest]; simp)
    obtain rfl : c = '.' := (hv c hmem).resolve_left (by simp [hc])
    rw [hrest, pieces_append_cons, pieces_of_not_mem hrun, List.singleton_append] at h
    rw [List.forall_mem_cons] at h
    refine ⟨h.1, ?_⟩
    rw [pieces, if_pos rfl, List.forall_mem_cons]
    exact ⟨by decide, h.2⟩

/-- Where a word starts with a character that starts no word, no keyword is read. -/
lemma not_keyword_of_laid {w : String} {c : Char} (hlaid : Laid p ((c :: v) ++ b) (t :: ts))
    (ht : t.lexeme = .keyword w) (hw : ∃ x xs, w.toList = x :: xs ∧ isBlank x = false)
    (hc : isBlank c = false ∧ c ≠ '#' ∧ c ≠ '\\') (hcontinues : continuesName c = false) : False := by
  obtain ⟨x, xs, hx, hsolid⟩ := hw
  have hstart : ∀ cs n, scanLexeme cs = some (t.lexeme, n) → ∃ y ∈ cs.head?, isBlank y = false := by
    intro cs n hscan
    rw [ht] at hscan
    have hrun := (keyword_of_scanLexeme hscan).1
    exact exists_head_of_isPrefix (hx ▸ hrun ▸ List.takeWhile_prefix _) hsolid
  obtain ⟨n, q, hscan, _⟩ := scanLexeme_of_laid (a := []) (v := c :: v) hlaid (by rw [ht]; rfl) hstart
    (by simp) ⟨c, rfl, hc⟩
  rw [ht] at hscan
  have hrun := (keyword_of_scanLexeme hscan).1
  rw [List.cons_append, List.takeWhile_cons_of_neg (by simp [hcontinues]), hx] at hrun
  cases hrun

/-- An operator that is read where a word starts is written there. -/
lemma op_of_laid {symbol : String} (hlaid : Laid p (a ++ (v ++ b)) (t :: ts)) (ht : t.lexeme = .op symbol)
    (ha : ∀ d ∈ a, isBlank d = true ∧ d ≠ '\n')
    (hv : ∃ c ∈ v.head?, isBlank c = false ∧ c ≠ '#' ∧ c ≠ '\\') :
    (∃ c ∈ v.head?, c ∈ symbol.toList.head? ∧ continuesName c = false) ∧
      ∃ q, Laid q ((v ++ b).drop symbol.toList.length) ts := by
  have hstart : ∀ cs n, scanLexeme cs = some (t.lexeme, n) → ∃ y ∈ cs.head?, isBlank y = false := by
    intro cs n hscan
    rw [ht] at hscan
    obtain ⟨hsymbol, hprefix, _⟩ := op_of_scanLexeme hscan
    obtain ⟨c, hc, hsolid, _⟩ := head_of_operator hsymbol
    obtain ⟨more, hmore⟩ := List.head?_eq_some_iff.mp hc
    exact exists_head_of_isPrefix (hmore ▸ hprefix) hsolid
  obtain ⟨n, q, hscan, hrest⟩ := scanLexeme_of_laid hlaid (by rw [ht]; rfl) hstart ha hv
  rw [ht] at hscan
  obtain ⟨hsymbol, hprefix, rfl⟩ := op_of_scanLexeme hscan
  obtain ⟨c, hc, _, hcontinues⟩ := head_of_operator hsymbol
  obtain ⟨more, hmore⟩ := List.head?_eq_some_iff.mp hc
  obtain ⟨c', hc', _⟩ := hv
  obtain ⟨v', rfl⟩ := List.head?_eq_some_iff.mp hc'
  rw [hmore, List.cons_append, List.cons_prefix_cons] at hprefix
  obtain ⟨rfl, _⟩ := hprefix
  exact ⟨⟨c, rfl, hc, hcontinues⟩, q, hrest⟩

lemma dot_of_laid (hlaid : Laid p (a ++ (v ++ b)) (t :: ts)) (ht : t.lexeme = .op ".")
    (ha : ∀ d ∈ a, isBlank d = true ∧ d ≠ '\n')
    (hv : ∃ c ∈ v.head?, isBlank c = false ∧ c ≠ '#' ∧ c ≠ '\\') :
    ∃ v' q, v = '.' :: v' ∧ Laid q (v' ++ b) ts := by
  obtain ⟨⟨c, hc, hdot, _⟩, q, hrest⟩ := op_of_laid hlaid ht ha hv
  obtain ⟨v', rfl⟩ := List.head?_eq_some_iff.mp hc
  obtain rfl : '.' = c := Option.some.inj hdot
  exact ⟨v', q, rfl, hrest⟩

lemma exists_cons_of_import {w : List Char} (h : w.takeWhile continuesName = "import".toList) :
    ∃ w', w = 'i' :: w' := by
  obtain ⟨w', hw'⟩ := List.takeWhile_prefix continuesName (l := w)
  exact ⟨"mport".toList ++ w', by rw [← hw', h]; rfl⟩

/-- The names of a module that go on inside a word, up to the keyword behind it, make up the rest of
the word. -/
lemma goesOn_of_laid {ls : List Lexeme} {ids : List Identifier} (hgoes : GoesOn ls ids)
    {used : List Token} {k : Token} {rest : List Token} {blanks w d : List Char}
    (hls : used.map (·.lexeme) = ls) (hk : k.lexeme = .keyword "import")
    (hlaid : Laid p (v ++ (blanks ++ (w ++ d))) (used ++ k :: rest))
    (hv : ∀ c ∈ v, isBlank c = false ∧ (continuesName c = true ∨ c = '.'))
    (hhead : ∀ c ∈ v.head?, continuesName c = false) (hcomposed : ∀ u ∈ pieces '.' v, compose u = u)
    (hblanks : blanks ≠ [] ∧ ∀ c ∈ blanks, isBlank c = true ∧ c ≠ '\n')
    (hw : w.takeWhile continuesName = "import".toList) (hd : ∀ c ∈ d.head?, isBlank c = true) :
    v = ids.flatMap fun i => '.' :: i.text.toList := by
  obtain ⟨w', rfl⟩ := exists_cons_of_import hw
  have hi : ∃ c ∈ ('i' :: w').head?, isBlank c = false ∧ c ≠ '#' ∧ c ≠ '\\' := ⟨'i', rfl, by decide⟩
  have hbehind : ∀ c ∈ (blanks ++ ('i' :: w' ++ d)).head?, isBlank c = true := by
    intro c hc
    rw [List.head?_append_of_ne_nil _ hblanks.1] at hc
    exact (hblanks.2 c (List.mem_of_head? hc)).1
  induction hgoes generalizing used v p with
  | nil =>
    obtain rfl := List.map_eq_nil_iff.mp hls
    cases v with
    | nil => rfl
    | cons c v =>
      have hc := isSolid_of_namePart (hv c List.mem_cons_self)
      exact (not_keyword_of_laid hlaid hk ⟨'i', "mport".toList, by decide⟩ hc (hhead c rfl)).elim
  | @cons spelling identifier ls ids hgoes ih =>
    obtain ⟨t, _, rfl, ht, hls⟩ := List.map_eq_cons_iff.mp hls
    obtain ⟨u, used, rfl, hu, hls⟩ := List.map_eq_cons_iff.mp hls
    cases v with
    | nil =>
      -- The dot is not read off the keyword.
      obtain ⟨v', _, hword, _⟩ := dot_of_laid (a := blanks) hlaid ht hblanks.2 hi
      exact absurd (List.cons.inj hword).1 (by decide)
    | cons c v =>
      obtain ⟨v', q, hword, hlaid⟩ := dot_of_laid (a := []) (v := c :: v) hlaid ht (by simp)
        ⟨c, rfl, isSolid_of_namePart (hv c List.mem_cons_self)⟩
      obtain ⟨rfl, rfl⟩ := List.cons.inj hword
      have hv' := fun c hc => hv c (List.mem_cons_of_mem _ hc)
      cases v with
      | nil =>
        -- Nor is the name behind the dot.
        obtain ⟨hspelling, _, hkeyword, _⟩ := name_of_laid (a := blanks) hlaid hu hblanks.2 hi hd
        rw [hw, String.ofList_toList] at hspelling
        rw [hspelling] at hkeyword
        exact absurd hkeyword (by decide)
      | cons c v =>
        obtain ⟨_, hidentifier, _, q, hrest⟩ := name_of_laid (a := []) (v := c :: v) hlaid hu
          (by simp) ⟨c, rfl, isSolid_of_namePart (hv' c List.mem_cons_self)⟩ hbehind
        obtain ⟨hrun, hmore⟩ := composed_of_pieces (v := c :: v)
          (fun c hc => (hv' c hc).2) (List.forall_mem_cons.mp hcomposed).2
        have hmore := ih hls (fun c hc => hv' c ((List.dropWhile_suffix _).subset hc))
          (fun c hc => eq_false_of_head?_dropWhile hc) hmore hrest
        rw [List.flatMap_cons, ← hmore, text_of_ofSpelling? hidentifier, hrun, List.cons_append,
          List.takeWhile_append_dropWhile]

end Behind

/-! ### Lines that start with a keyword -/

/-- A keyword that is read off a text stands where its position says, and the tokens behind it lie in
the text behind it. -/
lemma exists_keyword_of_lex {text : List Char} {tokens ts : List Token} {t : Token} {w : String}
    (hlex : lex text = some tokens) (hts : t :: ts <:+ tokens) (ht : t.lexeme = .keyword w) :
    ∃ before behind p, unifyLineEnds text = before ++ (w.toList ++ behind) ∧
      t.span.start = (⟨1, 0⟩ : Position).over before ∧ Laid p behind ts := by
  obtain ⟨front, rest, htext, hlaid⟩ := (laid_of_lex hlex).suffix hts
  obtain ⟨gap, cs, n, rfl, _, hstart, hlexeme, hrest⟩ := laid_cons_iff.mp hlaid
  rw [ht] at hlexeme
  obtain ⟨hw, rfl⟩ := keyword_of_scanLexeme (hlexeme.resolve_left Bool.false_ne_true)
  obtain ⟨behind, rfl⟩ : w.toList <+: cs := hw ▸ List.takeWhile_prefix _
  rw [← hw, List.drop_left] at hrest
  refine ⟨front ++ gap, behind, _, ?_, ?_, hrest⟩
  · rw [htext, List.append_assoc]
  · rw [hstart, Position.over_append]

/-- The first word of what stands on a line. -/
lemma exists_word_behind {behind v : List Char} {ws : List (List Char)}
    (h : words (behind.takeWhile (· != '\n')) = v :: ws) :
    ∃ a b, behind = a ++ (v ++ b) ∧ (∀ c ∈ a, isBlank c = true ∧ c ≠ '\n') ∧
      (∀ c ∈ v, isBlank c = false) ∧ (∀ c ∈ b.head?, isBlank c = true) ∧
      words (b.takeWhile (· != '\n')) = ws := by
  obtain ⟨a, b, hline, ha, _, hv, hb, hws⟩ := exists_of_words_eq_cons h
  have hinline : ∀ c ∈ a ++ (v ++ b), (c != '\n') = true := by
    rw [← hline]
    exact fun c => List.mem_takeWhile_imp
  have hfeed : ∀ c ∈ (behind.dropWhile (· != '\n')).head?, c = '\n' := fun c hc => by
    simpa using eq_false_of_head?_dropWhile hc
  refine ⟨a, b ++ behind.dropWhile (· != '\n'), ?_, ?_, hv, ?_, ?_⟩
  · rw [← List.append_assoc v, ← List.append_assoc a, ← hline, List.takeWhile_append_dropWhile]
  · exact fun c hc => ⟨ha c hc, by simpa using hinline c (by simp [hc])⟩
  · intro c hc
    cases b with
    | nil => rw [hfeed c hc]; rfl
    | cons d b => exact hb c hc
  · rw [List.takeWhile_append_of_pos fun c hc => hinline c (by simp [hc]), ← hws]
    cases hrest : behind.dropWhile (· != '\n') with
    | nil => simp
    | cons c rest => simp [hfeed c (by rw [hrest]; rfl)]

end Script

end CodeAtlas
