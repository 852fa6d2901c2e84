import CodeAtlas.Proofs.Headings
import CodeAtlas.Proofs.Matches

/-!
# On which line a heading stands

Headings are found in the document without its code, and their lines are counted in the whole document.
The two positions are the same as long as no code was cut out before. So the line of a marked heading is
right if all its signs stand before the code of the document. Code before the signs moves the position to
the left, possibly onto an earlier line, and code between them hides some of the signs.
-/

namespace CodeAtlas.Outline

open CodeAtlas.Text CodeAtlas.Text.Pattern

/-! ### Lines and positions -/

lemma lineAt_le (content : List Char) (position : Nat) :
    lineAt content position ≤ (lines content).length := by
  have hcount : (content.take position).count '\n' ≤ content.count '\n' :=
    (List.take_sublist position content).count_le '\n'
  rw [lines, length_pieces, lineAt]
  omega

/-- Every heading stands on a line of the document. -/
lemma line_of_mem_allHeadings {content : List Char} {h : Heading} (hh : h ∈ allHeadings content) :
    1 ≤ h.line ∧ h.line ≤ (lines content).length := by
  have hline : h.line = lineAt content h.start := by
    simp only [allHeadings, List.mem_append, List.mem_map] at hh
    rcases hh with (⟨m, _, rfl⟩ | ⟨m, _, rfl⟩) | ⟨m, _, rfl⟩ <;> rfl
  rw [hline]
  exact ⟨Nat.le_add_left 1 _, lineAt_le content _⟩

/-- How many number signs follow on each other from a position on. -/
def signsAt (text : List Char) (position : Nat) : Nat :=
  ((text.drop position).takeWhile isNumberSign).length

/-- A position at the beginning of a line has the signs of that line behind it. -/
lemma signsAt_eq_iff {content : List Char} {position : Nat}
    (h : AtLineStart (content.take position)) (k : Nat) :
    (∃ line, (lines content)[lineAt content position - 1]? = some line ∧
      (line.takeWhile isNumberSign).length = k) ↔ signsAt content position = k := by
  have hline : (lines content)[lineAt content position - 1]? =
      some ((content.drop position).takeWhile (· != '\n')) := by
    have hfirst := getElem?_lines h (content.drop position) 0
    rw [List.take_append_drop, lines_eq_cons (content.drop position)] at hfirst
    exact hfirst
  have hsigns : ((content.drop position).takeWhile (· != '\n')).takeWhile isNumberSign =
      (content.drop position).takeWhile isNumberSign := by
    rw [List.takeWhile_takeWhile]
    congr 1
    funext c
    by_cases hc : c = '#' <;> simp [isNumberSign, hc]
  rw [hline]
  simp [hsigns, signsAt]

/-! ### Code -/

lemma exists_backtick {front text rest : List Char} {gs : Groups}
    (h : codePattern.Reads front text rest gs) : ∃ tail, text = '`' :: tail := by
  rcases h with h | h <;> obtain ⟨x, y, _, _, rfl, _, hx, _⟩ := reads_all_cons.mp h <;>
    obtain ⟨rfl, _⟩ := reads_lit_iff.mp hx
  · exact ⟨_, rfl⟩
  · exact ⟨_, rfl⟩

/-- A document has no code, or it is as it was up to its first code. -/
lemma exists_first_code (content : List Char) :
    codePattern.matchesIn content = [] ∧ withoutCode content = content ∨
      ∃ m ms plain tail rest, codePattern.matchesIn content = m :: ms ∧ m.start = plain.length ∧
        m.start < m.stop ∧ content = plain ++ '`' :: tail ∧ withoutCode content = plain ++ rest := by
  cases hcode : codePattern.matchesIn content with
  | nil =>
    refine Or.inl ⟨rfl, ?_⟩
    rw [withoutCode, replaceIn, hcode, substitute]
  | cons m ms =>
    have hm : m ∈ codePattern.matchesIn content := hcode ▸ List.mem_cons_self
    obtain ⟨plain, text, rest, gs, hcontent, hreads, rfl⟩ := isMatch_of_mem_matchesIn hm
    obtain ⟨tail, rfl⟩ := exists_backtick hreads
    have hplain : ∃ left, withoutCode content = plain ++ left := by
      rw [withoutCode, replaceIn, hcode, substitute, hcontent, Nat.sub_zero, List.take_left,
        List.append_nil]
      exact ⟨_, rfl⟩
    obtain ⟨left, hleft⟩ := hplain
    exact Or.inr ⟨_, ms, plain, tail ++ rest, left, rfl, rfl, by simp, hcontent, hleft⟩

/-- The position in a document of a position in the document without its code. -/
def source (content : List Char) (position : Nat) : Nat :=
  sourceFrom 0 (codePattern.matchesIn content) position

lemma getElem?_source (content : List Char) (position : Nat) :
    content[source content position]? = (withoutCode content)[position]? := by
  have hspaced := spaced_matchesIn content (p := codePattern)
  rw [← Nat.zero_add content.length] at hspaced
  rw [withoutCode, replaceIn, getElem?_substitute hspaced]
  rfl

lemma le_source (content : List Char) (position : Nat) : position ≤ source content position := by
  have hle := le_sourceFrom (spaced_matchesIn content (p := codePattern)) position
  rwa [Nat.zero_add] at hle

section

variable {content : List Char} {m : Match} {ms : List Match} {position : Nat}

lemma source_of_lt (hcode : codePattern.matchesIn content = m :: ms) (h : position < m.start) :
    source content position = position := by
  rw [source, hcode, sourceFrom, Nat.zero_add, if_pos h]

/-- What stands behind code comes from further on. -/
lemma lt_source (hcode : codePattern.matchesIn content = m :: ms) (hne : m.start < m.stop)
    (h : m.start ≤ position) : position < source content position := by
  have hspaced := spaced_matchesIn content (p := codePattern)
  rw [hcode] at hspaced
  have hlt := lt_sourceFrom hspaced hne (show m.start ≤ 0 + position by omega)
  rw [source, hcode]
  omega

/-- All code stands behind a position if the first does. -/
lemma forall_code_iff (hcode : codePattern.matchesIn content = m :: ms) :
    (∀ m' ∈ codePattern.matchesIn content, position ≤ m'.start) ↔ position ≤ m.start := by
  have hspaced := spaced_matchesIn content (p := codePattern)
  rw [hcode] at hspaced ⊢
  rw [List.forall_mem_cons]
  refine ⟨And.left, fun hle => ⟨hle, fun m' hm' => ?_⟩⟩
  exact hle.trans (hspaced.2.1.trans (hspaced.2.2.start_le hm'))

end

/-! ### Marked headings -/

/-- A marked heading starts a line of the document without code, and its level is the number of its
signs. -/
lemma exists_mark {content : List Char} {h : Heading} (hh : h ∈ allHeadings content)
    (hstyle : h.style = .marked) :
    AtLineStart ((withoutCode content).take h.start) ∧ signsAt (withoutCode content) h.start = h.level ∧
      1 ≤ h.level ∧ h.line = lineAt content h.start := by
  simp only [allHeadings, List.mem_append, List.mem_map] at hh
  rcases hh with (⟨m, hm, rfl⟩ | ⟨m, _, rfl⟩) | ⟨m, _, rfl⟩
  · obtain ⟨before, text, rest, gs, hbare, hreads, hmatch⟩ := isMatch_of_mem_matchesIn hm
    obtain ⟨signs, blank, title, closing, hmark⟩ := isMark_of_reads hreads
    have hsigns : m.group 1 = signs := (hmark.groups (by rw [hmatch])).1
    have hstart : m.start = before.length := by rw [hmatch]
    obtain ⟨b, blank, rfl⟩ := List.exists_cons_of_ne_nil hmark.blank_ne_nil
    have hb : isNumberSign b = false := by
      rw [isNumberSign, beq_eq_false_iff_ne]
      rintro rfl
      exact absurd (hmark.all_blank '#' List.mem_cons_self) (by decide)
    simp only [headingOf, hsigns, hstart, hbare, signsAt, List.take_left, List.drop_left]
    refine ⟨hmark.lineStart, ?_, List.length_pos_iff.mpr hmark.signs_ne_nil, trivial⟩
    rw [hmark.text_eq]
    simp [List.takeWhile_append_of_pos hmark.all_signs, hb]
  · cases hstyle
  · cases hstyle

/-- Before its first code a document has the signs that it has without its code, as far as they do not
stand behind the code. -/
lemma signsAt_plain {plain : List Char} {position : Nat} (h : position ≤ plain.length)
    (tail rest : List Char) :
    signsAt (plain ++ '`' :: tail) position =
      min (signsAt (plain ++ rest) position) (plain.length - position) := by
  have hle := (List.takeWhile_sublist (l := plain.drop position) isNumberSign).length_le
  rw [List.length_drop] at hle
  rw [signsAt, signsAt, List.drop_append_of_le_length h, List.drop_append_of_le_length h,
    List.takeWhile_append, List.takeWhile_append, List.length_drop]
  split
  · simp [isNumberSign]
  · omega

/-- The signs of a marked heading stand at the beginning of the line that is told, and there are no
others. -/
structure Heading.IsPlaced (content : List Char) (h : Heading) : Prop where
  line_eq : lineAt content (source content h.start) = h.line
  lineStart : AtLineStart (content.take (source content h.start))
  signs_eq : ∃ line, (lines content)[h.line - 1]? = some line ∧
    (line.takeWhile isNumberSign).length = h.level

lemma isPlaced_iff {content : List Char} {h : Heading} (hline : h.line = lineAt content h.start) :
    h.IsPlaced content ↔ lineAt content (source content h.start) = lineAt content h.start ∧
      AtLineStart (content.take (source content h.start)) ∧
      signsAt content (source content h.start) = h.level := by
  constructor
  · rintro ⟨hsame, hstart, hsigns⟩
    rw [← hsame] at hsigns
    exact ⟨hsame.trans hline, hstart, (signsAt_eq_iff hstart _).mp hsigns⟩
  · rintro ⟨hsame, hstart, hsigns⟩
    refine ⟨hsame.trans hline.symm, hstart, ?_⟩
    rw [hline, ← hsame]
    exact (signsAt_eq_iff hstart _).mpr hsigns

/-- A position that comes from a later one is not counted on the line that begins there. -/
lemma lineAt_lt_of_lt {content : List Char} {i j : Nat} (hij : i < j) (hj : j ≤ content.length)
    (hstart : AtLineStart (content.take j)) : lineAt content i < lineAt content j := by
  obtain ⟨k, rfl⟩ := Nat.exists_eq_add_of_lt hij
  obtain ⟨c, hc⟩ : ∃ c, content[i + k]? = some c := ⟨_, List.getElem?_eq_getElem (by omega)⟩
  have htake : content.take (i + k + 1) = content.take (i + k) ++ [c] := by
    rw [List.take_add_one, hc]
    rfl
  rw [htake, atLineStart_concat_iff] at hstart
  have hcount : (content.take i).count '\n' ≤ (content.take (i + k)).count '\n' :=
    (List.take_sublist_take_left (Nat.le_add_right i k)).count_le '\n'
  rw [lineAt, lineAt, htake, hstart, List.count_append]
  simp
  omega

lemma getElem?_of_signsAt {text : List Char} {position : Nat} (h : 1 ≤ signsAt text position) :
    text[position]? = some '#' := by
  rw [← List.head?_drop]
  cases hdrop : text.drop position with
  | nil => simp [signsAt, hdrop] at h
  | cons c rest =>
    by_cases hc : c = '#'
    · simp [hc]
    · simp [signsAt, hdrop, isNumberSign, hc] at h

/-- The line that is told is too small by the line feeds that a position has jumped over. -/
lemma lineAt_of_le {content : List Char} {i j : Nat} (h : i ≤ j) :
    lineAt content j = lineAt content i + ((content.take j).drop i).count '\n' := by
  have hsplit := List.take_append_drop i (content.take j)
  rw [List.take_take, min_eq_left h] at hsplit
  have hcount := congrArg (List.count '\n') hsplit
  rw [List.count_append] at hcount
  simp only [lineAt]
  omega

variable {content : List Char} {h : Heading}

/-- On which line a marked heading is said to stand. It is a line of the document. The signs of the
heading come from a position that may be further on, and the line is too small by the line feeds between
the two positions. It is the line that begins with these signs, and with no other, exactly if all code of
the document stands behind them. -/
theorem marked_heading_placed_iff (hh : h ∈ allHeadings content) (hstyle : h.style = .marked) :
    (1 ≤ h.line ∧ h.line ≤ (lines content).length) ∧
    content[source content h.start]? = some '#' ∧
    lineAt content (source content h.start) =
      h.line + ((content.take (source content h.start)).drop h.start).count '\n' ∧
    (h.IsPlaced content ↔
      ∀ m ∈ codePattern.matchesIn content, h.start + h.level ≤ m.start) := by
  obtain ⟨hstart, hsigns, hlevel, hline⟩ := exists_mark hh hstyle
  have hsource : content[source content h.start]? = some '#' := by
    rw [getElem?_source]
    exact getElem?_of_signsAt (hsigns ▸ hlevel)
  refine ⟨line_of_mem_allHeadings hh, hsource, ?_, ?_⟩
  · rw [hline]
    exact lineAt_of_le (le_source content h.start)
  rw [isPlaced_iff hline]
  rcases exists_first_code content with
    ⟨hcode, hbare⟩ | ⟨m, ms, plain, tail, rest, hcode, hm, hne, hcontent, hbare⟩
  · rw [hbare] at hstart hsigns
    have hsame : source content h.start = h.start := by simp [source, hcode, sourceFrom]
    simp [hsame, hcode, hstart, hsigns]
  · rw [forall_code_iff hcode, hm]
    by_cases hlt : h.start < plain.length
    · have htake : (withoutCode content).take h.start = content.take h.start := by
        rw [hbare, hcontent, List.take_append_of_le_length hlt.le, List.take_append_of_le_length hlt.le]
      have hfew : signsAt content h.start = min h.level (plain.length - h.start) := by
        rw [← hsigns, hbare, hcontent]
        exact signsAt_plain hlt.le tail rest
      rw [htake] at hstart
      rw [source_of_lt hcode (hm ▸ hlt), hfew, min_eq_left_iff]
      simp only [hstart, true_and]
      omega
    · -- Code stands before the signs, so that they come from a later line or not from its beginning.
      have hmoved := lt_source hcode hne (hm ▸ not_lt.mp hlt)
      have hinside := (List.getElem?_eq_some_iff.mp hsource).1
      constructor
      · rintro ⟨hsame, hbegin, _⟩
        exact absurd hsame (lineAt_lt_of_lt hmoved hinside.le hbegin).ne'
      · intro hle
        omega

/-- A document with code behind the signs of its first heading and before those of its second. -/
def codeBetween : List Char :=
  "# A `x`\n## B".toList

/-- Both headings are said to stand on the first line. -/
theorem codeBetween_placed :
    ∃ a b, allHeadings codeBetween = [a, b] ∧ (a.style = .marked ∧ b.style = .marked) ∧
      (a.line = 1 ∧ b.line = 1) ∧ a.IsPlaced codeBetween ∧ ¬ b.IsPlaced codeBetween := by
  have hheadings : allHeadings codeBetween = [⟨1, ['A'], ['A'], 1, .marked, 0, 4⟩,
      ⟨2, ['B'], ['B'], 1, .marked, 5, 9⟩] := by
    decide +kernel
  have hcode : ∀ n, (∀ m ∈ codePattern.matchesIn codeBetween, n ≤ m.start) ↔ n ≤ 4 := by
    intro n
    have hstarts : (codePattern.matchesIn codeBetween).map (·.start) = [4] := by decide +kernel
    rw [← List.forall_mem_map (P := (n ≤ ·)), hstarts]
    simp
  have hplaced : ∀ h ∈ allHeadings codeBetween, h.style = .marked →
      (h.IsPlaced codeBetween ↔ h.start + h.level ≤ 4) := by
    intro h hh hstyle
    rw [(marked_heading_placed_iff hh hstyle).2.2.2, hcode]
  rw [hheadings] at hplaced
  refine ⟨_, _, hheadings, ⟨rfl, rfl⟩, ⟨rfl, rfl⟩, ?_, ?_⟩
  · rw [hplaced _ List.mem_cons_self rfl]
    decide
  · rw [hplaced _ (List.mem_cons_of_mem _ List.mem_cons_self) rfl]
    decide

/-- Behind code, a heading is said to stand on a line that is not its own. -/
theorem heading_on_line_of_code :
    ∃ h ∈ allHeadings "`a`\n# A".toList, h.style = .marked ∧
      lines "`a`\n# A".toList = ["`a`".toList, "# A".toList] ∧ h.line = 1 ∧
      ¬ ∃ line, (lines "`a`\n# A".toList)[h.line - 1]? = some line ∧
        (line.takeWhile isNumberSign).length = h.level := by
  have hlines : lines "`a`\n# A".toList = ["`a`".toList, "# A".toList] := by decide +kernel
  refine ⟨⟨1, ['A'], ['A'], 1, .marked, 1, 4⟩, by decide +kernel, rfl, hlines, rfl, ?_⟩
  rintro ⟨line, hline, hsigns⟩
  rw [hlines] at hline
  cases hline
  exact absurd hsigns (by decide)

end CodeAtlas.Outline
