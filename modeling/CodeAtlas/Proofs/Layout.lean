import CodeAtlas.Script.Lexer
import Mathlib.Tactic

/-!
# How tokens lie in a text

Between two tokens there is a gap: blanks, then possibly a comment, a line end or a joined line. The
lexer leaves nothing else out, so that its tokens and the gaps between them make up the text, and every
token starts where its position says.
-/

namespace CodeAtlas.Script

open CodeAtlas.Text

/-! ### Positions -/

/-- The position behind a text that starts at `p`. -/
def Position.over (p : Position) (cs : List Char) : Position :=
  cs.foldl Position.after p

@[simp] lemma Position.over_nil (p : Position) : p.over [] = p := rfl

@[simp] lemma Position.over_cons (p : Position) (c : Char) (cs : List Char) :
    p.over (c :: cs) = (p.after c).over cs := rfl

lemma Position.over_append (p : Position) (a b : List Char) : p.over (a ++ b) = (p.over a).over b :=
  List.foldl_append

lemma Cursor.skip_eq (n : Nat) (k : Cursor) :
    k.skip n = ⟨k.position.over (k.rest.take n), k.rest.drop n⟩ := by
  induction n generalizing k with
  | zero => simp [Cursor.skip]
  | succ n ih =>
    obtain ⟨p, rest⟩ := k
    cases rest with
    | nil => simp [Cursor.skip]
    | cons c cs => simp [Cursor.skip, ih]

/-! ### Gaps -/

/-- The blanks between tokens. -/
def isSpacing (c : Char) : Bool :=
  c == ' ' || c == '\t' || c == '\x0c'

/-- What may stand between two tokens. Behind the blanks, only a comment, a line end or a joined line can
keep the next token away. -/
def IsGap (cs : List Char) : Prop :=
  ∀ c ∈ (cs.dropWhile isSpacing).head?, c = '\n' ∨ c = '#' ∨ c = '\\'

lemma isGap_nil : IsGap [] := by
  simp [IsGap]

lemma IsGap.cons_spacing {c : Char} {cs : List Char} (hc : isSpacing c = true) (h : IsGap cs) :
    IsGap (c :: cs) := by
  rwa [IsGap, List.dropWhile_cons_of_pos hc]

lemma isGap_cons {c : Char} (hc : c = '\n' ∨ c = '#' ∨ c = '\\') (cs : List Char) :
    IsGap (c :: cs) := by
  have hspacing : isSpacing c = false := by
    rcases hc with rfl | rfl | rfl <;> rfl
  rw [IsGap, List.dropWhile_cons_of_neg (by simp [hspacing])]
  simpa using hc

lemma IsGap.append {a b : List Char} (ha : IsGap a) (hb : IsGap b) : IsGap (a ++ b) := by
  induction a with
  | nil => exact hb
  | cons c cs ih =>
    by_cases hc : isSpacing c = true
    · rw [IsGap, List.dropWhile_cons_of_pos hc] at ha
      exact .cons_spacing hc (ih ha)
    · rw [IsGap, List.dropWhile_cons_of_neg hc] at ha
      exact isGap_cons (ha c rfl) (cs ++ b)

/-! ### Tokens in a text -/

/-- The tokens lie in a text that starts at `p`, with gaps in front of them. -/
inductive Laid : Position → List Char → List Token → Prop where
  | nil (p : Position) (cs : List Char) : Laid p cs []
  | cons {p : Position} {gap cs : List Char} {n : Nat} {t : Token} {ts : List Token} :
    IsGap gap → t.span.start = p.over gap →
    (t.lexeme.isLayout = true ∨ scanLexeme cs = some (t.lexeme, n)) →
    Laid (p.over (gap ++ cs.take n)) (cs.drop n) ts → Laid p (gap ++ cs) (t :: ts)

lemma laid_cons_iff {p : Position} {text : List Char} {t : Token} {ts : List Token} :
    Laid p text (t :: ts) ↔ ∃ gap cs n, text = gap ++ cs ∧ IsGap gap ∧ t.span.start = p.over gap ∧
      (t.lexeme.isLayout = true ∨ scanLexeme cs = some (t.lexeme, n)) ∧
      Laid (p.over (gap ++ cs.take n)) (cs.drop n) ts := by
  constructor
  · intro h
    cases h with
    | cons hgap hstart hlexeme hrest => exact ⟨_, _, _, rfl, hgap, hstart, hlexeme, hrest⟩
  · rintro ⟨gap, cs, n, rfl, hgap, hstart, hlexeme, hrest⟩
    exact .cons hgap hstart hlexeme hrest

/-- A gap in front does not matter. -/
lemma Laid.skip {p : Position} {gap cs : List Char} {ts : List Token} (hgap : IsGap gap)
    (h : Laid (p.over gap) cs ts) : Laid p (gap ++ cs) ts := by
  cases h with
  | nil => exact .nil p _
  | @cons _ gap' cs' n t ts hgap' hstart hlexeme hrest =>
    rw [← List.append_assoc]
    refine .cons (hgap.append hgap') ?_ hlexeme ?_
    · rw [hstart, Position.over_append]
    · rwa [List.append_assoc, Position.over_append]

/-- Tokens at the end lie in an end of the text. -/
lemma Laid.suffix {p : Position} {cs : List Char} {tokens ts : List Token} (h : Laid p cs tokens)
    (hts : ts <:+ tokens) : ∃ front rest, cs = front ++ rest ∧ Laid (p.over front) rest ts := by
  induction h with
  | nil p cs =>
    rw [List.suffix_nil.mp hts]
    exact ⟨[], cs, rfl, .nil _ _⟩
  | @cons p gap cs n t more hgap hstart hlexeme hrest ih =>
    rcases List.suffix_cons_iff.mp hts with rfl | hts
    · exact ⟨[], gap ++ cs, rfl, .cons hgap hstart hlexeme hrest⟩
    · obtain ⟨front, rest, hcs, hlaid⟩ := ih hts
      refine ⟨gap ++ cs.take n ++ front, rest, ?_, ?_⟩
      · rw [List.append_assoc, List.append_assoc, ← hcs, List.take_append_drop]
      · rwa [Position.over_append]

/-! ### The lexer -/

/-- The lexer comes from one state to another: the tokens that it adds lie in front of whatever lies
behind them. -/
def Advances (s s' : LexState) : Prop :=
  ∃ new, s'.tokens = new.reverse ++ s.tokens ∧ ∀ ts,
    Laid s'.cursor.position s'.cursor.rest ts → Laid s.cursor.position s.cursor.rest (new ++ ts)

lemma Advances.trans {s₁ s₂ s₃ : LexState} (h : Advances s₁ s₂) (h' : Advances s₂ s₃) :
    Advances s₁ s₃ := by
  obtain ⟨new, htokens, hlaid⟩ := h
  obtain ⟨new', htokens', hlaid'⟩ := h'
  refine ⟨new ++ new', ?_, fun ts hts => ?_⟩
  · rw [htokens', htokens, List.reverse_append, List.append_assoc]
  · rw [List.append_assoc]
    exact hlaid _ (hlaid' _ hts)

/-- Only the cursor and the tokens matter. -/
lemma advances_of_eq {s s' : LexState} (hcursor : s'.cursor = s.cursor) (htokens : s'.tokens = s.tokens) :
    Advances s s' := by
  refine ⟨[], htokens, fun ts hts => ?_⟩
  rwa [hcursor] at hts

lemma advances_skip {s s' : LexState} {n : Nat} (hgap : IsGap (s.cursor.rest.take n))
    (hcursor : s'.cursor = s.cursor.skip n) (htokens : s'.tokens = s.tokens) : Advances s s' := by
  refine ⟨[], htokens, fun ts hts => ?_⟩
  rw [hcursor, Cursor.skip_eq] at hts
  rw [← List.take_append_drop n s.cursor.rest]
  exact hts.skip hgap

lemma advances_emit (s : LexState) {lexeme : Lexeme} {n : Nat}
    (h : lexeme.isLayout = true ∨ scanLexeme s.cursor.rest = some (lexeme, n)) :
    Advances s (s.emit lexeme n) := by
  refine ⟨[⟨lexeme, ⟨s.cursor.position, (s.cursor.skip n).position⟩⟩], rfl, fun ts hts => ?_⟩
  rw [LexState.emit, Cursor.skip_eq] at hts
  exact .cons isGap_nil rfl h hts

lemma advances_closeBlocks {width narrow : Nat} {indents : List (Nat × Nat)} {s s' : LexState}
    (h : closeBlocks width narrow indents s = some s') : Advances s s' := by
  induction indents generalizing s with
  | nil => cases h
  | cons i outer ih =>
    unfold closeBlocks at h
    split at h
    · split at h
      · cases h
        exact advances_of_eq rfl rfl
      · cases h
    · split at h
      · exact (advances_emit s (.inl rfl)).trans (ih h)
      · cases h

lemma advances_enterLine {width narrow : Nat} {s s' : LexState}
    (h : enterLine width narrow s = some s') : Advances s s' := by
  unfold enterLine at h
  split at h
  · cases h
  · split at h
    · split at h
      · cases h
      · split at h
        · cases h
        · cases h
          exact (advances_of_eq rfl rfl).trans (advances_emit _ (.inl rfl))
    · exact advances_closeBlocks h

lemma advances_finishLines {s s' : LexState} (h : finishLines s = some s') : Advances s s' := by
  unfold finishLines at h
  split at h
  · obtain ⟨s₁, hclose, rfl⟩ := Option.map_eq_some_iff.mp h
    exact (advances_closeBlocks hclose).trans (advances_emit s₁ (.inl rfl))
  · cases h

lemma advances_trackBrackets {symbol : String} {s s' : LexState}
    (h : trackBrackets symbol s = some s') : Advances s s' := by
  have heq : s'.cursor = s.cursor ∧ s'.tokens = s.tokens := by
    unfold trackBrackets at h
    split at h
    · split at h
      · split at h
        · cases h
        · cases h
          exact ⟨rfl, rfl⟩
      · split at h
        · split at h
          · split at h
            · cases h
              exact ⟨rfl, rfl⟩
            · cases h
          · cases h
        · cases h
          exact ⟨rfl, rfl⟩
    · cases h
      exact ⟨rfl, rfl⟩
  exact advances_of_eq heq.1 heq.2

/-- An indentation is a gap. -/
lemma isGap_of_measureIndentation {i j : Indentation} {cs : List Char}
    (h : measureIndentation i cs = some j) : ∃ n, j.length = i.length + n ∧ IsGap (cs.take n) := by
  fun_induction measureIndentation i cs with
  | case1 i cs ih =>
    obtain ⟨n, hlength, hgap⟩ := ih h
    exact ⟨n + 1, by simp only [hlength]; omega, .cons_spacing rfl hgap⟩
  | case2 i cs ih =>
    obtain ⟨n, hlength, hgap⟩ := ih h
    exact ⟨n + 1, by simp only [hlength]; omega, .cons_spacing rfl hgap⟩
  | case3 i cs ih =>
    obtain ⟨n, hlength, hgap⟩ := ih h
    exact ⟨n + 1, by simp only [hlength]; omega, .cons_spacing rfl hgap⟩
  | case4 => cases h
  | case5 i cs hcs first ih =>
    obtain ⟨n, hlength, _⟩ := ih h
    exact ⟨n + 2, by simp only [hlength]; omega, isGap_cons (by simp) _⟩
  | case6 => cases h
  | case7 =>
    cases h
    exact ⟨0, rfl, isGap_nil⟩

lemma isGap_take_cons {c : Char} {cs : List Char} (hc : c = '\n' ∨ c = '#' ∨ c = '\\') (n : Nat) :
    IsGap ((c :: cs).take n) := by
  cases n with
  | zero => exact isGap_nil
  | succ n => exact isGap_cons hc _

/-- A step at the start of a line. -/
lemma advances_lexStep_of_lineStart {s s' : LexState} {done : Bool} (hstart : s.lineStart = true)
    (h : lexStep s = some (done, s')) : Advances s s' := by
  rw [lexStep, if_pos hstart] at h
  obtain ⟨i, hindent, h⟩ := Option.bind_eq_some_iff.mp h
  obtain ⟨n, hlength, hgap⟩ := isGap_of_measureIndentation hindent
  rw [show i.length = n by simpa using hlength] at h
  have hfirst : Advances s { s with cursor := s.cursor.skip n, lineStart := false } :=
    advances_skip hgap rfl rfl
  refine hfirst.trans ?_
  dsimp only at h
  split at h
  · obtain ⟨s₁, hfinish, heq⟩ := Option.map_eq_some_iff.mp h
    cases heq
    exact advances_finishLines hfinish
  · rename_i c cs hrest
    split at h
    · cases h
      exact advances_skip (n := 1) (by rw [hrest]; exact isGap_take_cons (by simp [*]) 1) rfl rfl
    · split at h
      · cases h
        exact advances_skip (by rw [hrest]; exact isGap_take_cons (by simp [*]) _) rfl rfl
      · split at h
        · obtain ⟨s₁, henter, heq⟩ := Option.map_eq_some_iff.mp h
          cases heq
          exact advances_enterLine henter
        · cases h
          exact advances_of_eq rfl rfl

/-- A step inside a line. -/
lemma advances_lexStep_of_not_lineStart {s s' : LexState} {done : Bool} (hstart : s.lineStart = false)
    (h : lexStep s = some (done, s')) : Advances s s' := by
  rw [lexStep, if_neg (by simp [hstart])] at h
  split at h
  · obtain ⟨s₁, hfinish, heq⟩ := Option.map_eq_some_iff.mp h
    cases heq
    exact advances_finishLines hfinish
  · rename_i c cs hrest
    split at h
    · rename_i hspacing
      cases h
      refine advances_skip (n := 1) ?_ rfl rfl
      rw [hrest]
      exact .cons_spacing (by simpa [isSpacing, or_assoc] using hspacing) isGap_nil
    · split at h
      · cases h
        exact advances_skip (by rw [hrest]; exact isGap_take_cons (by simp [*]) _) rfl rfl
      · split at h
        · cases h
          split
          · exact (advances_emit s (.inl rfl)).trans (advances_of_eq rfl rfl)
          · exact advances_skip (n := 1) (by rw [hrest]; exact isGap_take_cons (by simp [*]) 1) rfl rfl
        · split at h
          · split at h
            · cases h
              exact advances_skip (n := 2) (by rw [hrest]; exact isGap_take_cons (by simp [*]) 2) rfl rfl
            · cases h
          · obtain ⟨⟨lexeme, length⟩, hscan, h⟩ := Option.bind_eq_some_iff.mp h
            have hemit := advances_emit s (.inr hscan)
            dsimp only at h
            split at h
            · obtain ⟨s₁, htrack, heq⟩ := Option.map_eq_some_iff.mp h
              cases heq
              exact hemit.trans (advances_trackBrackets htrack)
            · cases h
              exact hemit

lemma advances_lexStep {s s' : LexState} {done : Bool} (h : lexStep s = some (done, s')) :
    Advances s s' := by
  cases hstart : s.lineStart with
  | true => exact advances_lexStep_of_lineStart hstart h
  | false => exact advances_lexStep_of_not_lineStart hstart h

lemma advances_lexLoop {fuel : Nat} {s s' : LexState} (h : lexLoop fuel s = some s') :
    Advances s s' := by
  induction fuel generalizing s with
  | zero => cases h
  | succ fuel ih =>
    unfold lexLoop at h
    split at h
    · cases h
    · cases h
      exact advances_lexStep ‹_›
    · exact (advances_lexStep ‹_›).trans (ih h)

/-- The tokens of a text lie in it. -/
theorem laid_of_lex {source : List Char} {tokens : List Token} (h : lex source = some tokens) :
    Laid ⟨1, 0⟩ (unifyLineEnds source) tokens := by
  unfold lex at h
  split at h
  · cases h
  · obtain ⟨s, hloop, rfl⟩ := Option.map_eq_some_iff.mp h
    obtain ⟨new, htokens, hlaid⟩ := advances_lexLoop hloop
    rw [htokens, List.append_nil, List.reverse_reverse, ← List.append_nil new]
    exact hlaid [] (.nil _ _)

/-! ### Single tokens -/

section Single

variable {cs : List Char} {n : Nat}

/-- What a token can be: a number, a string, a word or an operator. -/
lemma scanLexeme_cases {l : Lexeme} (h : scanLexeme cs = some (l, n)) :
    (∃ text, l = .number text) ∨ (∃ s, l = .string s) ∨
    (wordLexeme (cs.takeWhile continuesName) = some l ∧ n = (cs.takeWhile continuesName).length) ∨
    ∃ o ∈ operators, o <+: cs ∧ l = .op (String.ofList o) ∧ n = o.length := by
  unfold scanLexeme at h
  split at h
  · cases h
  · dsimp only at h
    split at h
    · obtain ⟨⟨text, _⟩, _, heq⟩ := Option.map_eq_some_iff.mp h
      cases heq
      exact .inl ⟨_, rfl⟩
    · split at h
      · obtain ⟨⟨body, _⟩, _, h⟩ := Option.bind_eq_some_iff.mp h
        obtain ⟨s, _, heq⟩ := Option.map_eq_some_iff.mp h
        cases heq
        exact .inr (.inl ⟨_, rfl⟩)
      · split at h
        · split at h
          · obtain ⟨⟨body, _⟩, _, heq⟩ := Option.map_eq_some_iff.mp h
            cases heq
            exact .inr (.inl ⟨_, rfl⟩)
          · obtain ⟨l', hword, heq⟩ := Option.map_eq_some_iff.mp h
            cases heq
            exact .inr (.inr (.inl ⟨hword, rfl⟩))
        · obtain ⟨o, hfind, heq⟩ := Option.map_eq_some_iff.mp h
          cases heq
          have hprefix := List.find?_some hfind
          rw [List.isPrefixOf_iff_prefix] at hprefix
          exact .inr (.inr (.inr ⟨o, List.mem_of_find?_eq_some hfind, hprefix, rfl, rfl⟩))

lemma wordLexeme_cases {run : List Char} {l : Lexeme} (h : wordLexeme run = some l) :
    (keywords.contains (String.ofList run) = true ∧ l = .keyword (String.ofList run)) ∨
    (keywords.contains (String.ofList run) = false ∧
      ∃ identifier, Identifier.ofSpelling? run = some identifier ∧
        l = .name (String.ofList run) identifier) := by
  unfold wordLexeme at h
  dsimp only at h
  split at h
  · cases h
    exact .inl ⟨‹_›, rfl⟩
  · obtain ⟨identifier, hspelling, rfl⟩ := Option.map_eq_some_iff.mp h
    exact .inr ⟨Bool.eq_false_iff.mpr ‹_›, identifier, hspelling, rfl⟩

/-- A name is written with a run of characters, which stands for its identifier. -/
lemma name_of_scanLexeme {spelling : String} {identifier : Identifier}
    (h : scanLexeme cs = some (.name spelling identifier, n)) :
    spelling = String.ofList (cs.takeWhile continuesName) ∧
      Identifier.ofSpelling? (cs.takeWhile continuesName) = some identifier ∧
      keywords.contains spelling = false ∧ n = (cs.takeWhile continuesName).length := by
  rcases scanLexeme_cases h with ⟨_, hl⟩ | ⟨_, hl⟩ | ⟨hword, hn⟩ | ⟨_, _, _, hl, _⟩
  · cases hl
  · cases hl
  · rcases wordLexeme_cases hword with ⟨_, hl⟩ | ⟨hkeyword, _, hspelling, hl⟩
    · cases hl
    · cases hl
      exact ⟨rfl, hspelling, hkeyword, hn⟩
  · cases hl

lemma keyword_of_scanLexeme {w : String} (h : scanLexeme cs = some (.keyword w, n)) :
    w.toList = cs.takeWhile continuesName ∧ n = (cs.takeWhile continuesName).length := by
  rcases scanLexeme_cases h with ⟨_, hl⟩ | ⟨_, hl⟩ | ⟨hword, hn⟩ | ⟨_, _, _, hl, _⟩
  · cases hl
  · cases hl
  · rcases wordLexeme_cases hword with ⟨_, hl⟩ | ⟨_, _, _, hl⟩
    · cases hl
      exact ⟨String.toList_ofList, hn⟩
    · cases hl
  · cases hl

/-- An operator is written with its own characters. -/
lemma op_of_scanLexeme {symbol : String} (h : scanLexeme cs = some (.op symbol, n)) :
    symbol.toList ∈ operators ∧ symbol.toList <+: cs ∧ n = symbol.toList.length := by
  rcases scanLexeme_cases h with ⟨_, hl⟩ | ⟨_, hl⟩ | ⟨hword, _⟩ | ⟨o, ho, hprefix, hl, hn⟩
  · cases hl
  · cases hl
  · rcases wordLexeme_cases hword with ⟨_, hl⟩ | ⟨_, _, _, hl⟩
    · cases hl
    · cases hl
  · cases hl
    rw [String.toList_ofList]
    exact ⟨ho, hprefix, hn⟩

end Single

end CodeAtlas.Script
