import CodeAtlas.Proofs.Positions

/-!
# Headings that share a line

Headings of one style stand on different lines, and so do headings above equals signs and above hyphens.
But a line with number signs may stand above an underline. It is then told twice, once as a marked heading
and once, with its number signs, as an underlined one. Nothing else makes two headings share a line.
-/

namespace CodeAtlas.Outline

open CodeAtlas.Text CodeAtlas.Text.Pattern

lemma withoutCode_eq_self {content : List Char} (h : '`' ∉ content) :
    withoutCode content = content := by
  refine codePattern_needs.replaceIn_eq _ fun c hc => ?_
  rw [beq_eq_false_iff_ne]
  rintro rfl
  exact h hc

/-! ### Patterns of lines -/

/-- A pattern that is read from the beginning of a line on, and never in an empty text. -/
def IsLinePattern (p : Pattern) : Prop :=
  ∀ front text rest gs, p.Reads front text rest gs → AtLineStart front ∧ text ≠ []

lemma isLinePattern_marked : IsLinePattern markedPattern := by
  intro front text rest gs hreads
  obtain ⟨signs, blank, title, closing, hmark⟩ := isMark_of_reads hreads
  obtain ⟨tail, rfl⟩ := hmark.exists_cons
  exact ⟨hmark.lineStart, List.cons_ne_nil _ _⟩

lemma isLinePattern_underline (sign : Char) : IsLinePattern (underlinePattern sign) := by
  intro front text rest gs hreads
  obtain ⟨title, signs, blank, hread⟩ := reads_underline_iff.mp ⟨gs, hreads⟩
  refine ⟨hread.lineStart, ?_⟩
  rw [hread.text_eq]
  simp

variable {content : List Char} {p : Pattern} {m m' : Match}

lemma IsLinePattern.start_lt_stop (hp : IsLinePattern p) (hm : m ∈ p.matchesIn content) :
    m.start < m.stop := by
  obtain ⟨front, text, rest, gs, _, hreads, rfl⟩ := isMatch_of_mem_matchesIn hm
  have hpos := List.length_pos_iff.mpr (hp _ _ _ _ hreads).2
  simpa using hpos

lemma exists_front_of_mem (hm : m ∈ p.matchesIn content) :
    ∃ front text rest gs, content = front ++ (text ++ rest) ∧ p.Reads front text rest gs ∧
      m.start = front.length ∧ lineAt content m.start = front.count '\n' + 1 := by
  obtain ⟨front, text, rest, gs, hcs, hreads, rfl⟩ := isMatch_of_mem_matchesIn hm
  refine ⟨front, text, rest, gs, hcs, hreads, rfl, ?_⟩
  rw [lineAt, hcs, List.take_left]

/-- Matches on the same line start at the same place. -/
lemma IsLinePattern.start_eq (hp : IsLinePattern p) (hm : m ∈ p.matchesIn content)
    (hm' : m' ∈ p.matchesIn content)
    (hline : lineAt content m.start = lineAt content m'.start) : m.start = m'.start := by
  obtain ⟨a, text, rest, _, hcs, hreads, hstart, hcount⟩ := exists_front_of_mem hm
  obtain ⟨a', text', rest', _, hcs', hreads', hstart', hcount'⟩ := exists_front_of_mem hm'
  have ha := (hp _ _ _ _ hreads).1
  have ha' := (hp _ _ _ _ hreads').1
  rw [hcount, hcount', Nat.add_right_cancel_iff] at hline
  rw [hstart, hstart', eq_of_count_lineFeed (hcs.symm.trans hcs') ha ha' hline]

/-- The matches of one such pattern are on different lines. -/
lemma IsLinePattern.pairwise (hp : IsLinePattern p) (content : List Char) :
    (p.matchesIn content).Pairwise fun m m' => lineAt content m.start ≠ lineAt content m'.start := by
  refine (spaced_matchesIn content).pairwise.imp_of_mem fun hm hm' hle hline => ?_
  have hlt := hp.start_lt_stop hm
  have hsame := hp.start_eq hm hm' hline
  omega

/-! ### Underlines -/

/-- What stands below a match of the pattern is an underline. -/
lemma underline_below {sign : Char} (hsign : sign ≠ '\n')
    (hm : m ∈ (underlinePattern sign).matchesIn content) :
    ∃ line, (lines content)[lineAt content m.start]? = some line ∧ isUnderline sign line = true := by
  obtain ⟨front, text, rest, gs, hcs, hreads, _, hline⟩ := exists_front_of_mem hm
  obtain ⟨title, signs, blank, hread⟩ := reads_underline_iff.mp ⟨gs, hreads⟩
  rw [hline, hcs]
  exact hread.underline hsign

lemma isUnderline_unique {sign sign' : Char} {line : List Char} (h : isUnderline sign line = true)
    (h' : isUnderline sign' line = true) : sign = sign' := by
  rw [isUnderline, Bool.and_eq_true, beq_iff_eq] at h h'
  exact Option.some.inj (h.1.symm.trans h'.1)

/-- A line that begins with a number sign and stands above an underline can be read as a heading. -/
lemma starts_underline {sign : Char} {front cs line : List Char} (hstart : AtLineStart front)
    (hline : (lines ('#' :: cs))[1]? = some line) (hunderline : isUnderline sign line = true) :
    (underlinePattern sign).Starts front ('#' :: cs) := by
  obtain ⟨rest, hrest, htext⟩ := exists_of_getElem?_one hline
  rw [isUnderline, Bool.and_eq_true, beq_iff_eq, List.all_eq_true] at hunderline
  have hread : IsUnderlined sign front (('#' :: cs).takeWhile (· != '\n') ++ '\n' :: line) rest
      (('#' :: cs).takeWhile (· != '\n')) (line.takeWhile (· == sign)) (line.dropWhile (· == sign)) := by
    constructor
    · rw [List.takeWhile_append_dropWhile]
    · exact hstart
    · exact hrest
    · exact fun c hc => List.mem_takeWhile_imp hc
    · simp
    · exact fun c hc => List.mem_takeWhile_imp (p := (· == sign)) hc
    · cases line with
      | nil => simp at hunderline
      | cons c line => simp [Option.some.inj hunderline.1]
    · exact hunderline.2
  obtain ⟨gs, hreads⟩ := reads_underline_iff.mpr ⟨_, _, _, hread⟩
  exact ⟨_, _, gs, htext, hreads⟩

/-- Nothing that is read from an earlier line on reaches a line that begins with a number sign. -/
lemma unreached_underline {sign : Char} (hsign : sign ≠ '#') {gap : List Char} (hgap : AtLineStart gap)
    (cs : List Char) : (underlinePattern sign).Unreached [] gap ('#' :: cs) := by
  rintro a b text rest gs rfl hb hcut hreads
  obtain ⟨title, signs, blank, hread⟩ := reads_underline_iff.mp ⟨gs, hreads⟩
  rcases List.eq_nil_or_concat' b with rfl | ⟨b, c, rfl⟩
  · exact absurd rfl hb
  rw [← List.append_assoc] at hgap
  obtain rfl := atLineStart_concat_iff.mp hgap
  have hnumber : ∀ c ∈ '\n' :: (signs ++ blank), (c != '#') = true := by
    intro c hc
    rw [bne_iff_ne]
    rintro rfl
    rw [List.mem_cons, List.mem_append] at hc
    rcases hc with hc | hc | hc
    · exact absurd hc (by decide)
    · exact hsign (beq_iff_eq.mp (hread.all_signs _ hc)).symm
    · exact absurd (hread.all_blank _ hc) (by decide)
  -- The title ends at the last line feed before the number sign, and the rest before the number sign.
  rw [hread.text_eq, List.append_assoc, List.append_assoc, List.singleton_append] at hcut
  obtain ⟨u, rfl, hu⟩ := exists_of_stop hcut.symm hread.all_inLine (by decide)
  rw [show u ++ '\n' :: '#' :: cs = (u ++ ['\n']) ++ '#' :: cs by simp] at hu
  obtain ⟨v, hv, _⟩ := exists_of_stop hu hnumber (by decide)
  refine ⟨v, ?_⟩
  rw [hread.text_eq, List.append_assoc, List.append_assoc, hv]

/-- It is read as one, too. -/
lemma exists_match_of_underline {sign : Char} (hsign : sign ≠ '#') {front line cs : List Char}
    (hstart : AtLineStart front) (hline : (lines ('#' :: cs))[1]? = some line)
    (hunderline : isUnderline sign line = true) :
    ∃ m ∈ (underlinePattern sign).matchesIn (front ++ '#' :: cs), m.start = front.length := by
  apply exists_mem_matchesIn
  · exact fun _ _ _ _ h => (isLinePattern_underline sign _ _ _ _ h).2
  · exact starts_underline hstart hline hunderline
  · exact unreached_underline hsign hstart cs

/-! ### Headings -/

/-- The line below a heading is an underline. -/
def Heading.aboveUnderline (content : List Char) (h : Heading) : Bool :=
  (lines content)[h.line]?.any fun line => isUnderline '=' line || isUnderline '-' line

variable {h g : Heading}

/-- The headings of each style are on different lines, and so are those with different underlines. -/
lemma pairwise_allHeadings (hcode : '`' ∉ content) :
    (allHeadings content).Pairwise fun a b =>
      a.line = b.line → a.style = .marked ∧ b.style ≠ .marked := by
  have hpass : ∀ {p : Pattern}, IsLinePattern p → ∀ f : Match → Heading,
      (∀ m, (f m).line = lineAt content m.start) → ((p.matchesIn content).map f).Pairwise
        fun a b => a.line = b.line → a.style = .marked ∧ b.style ≠ .marked := by
    intro p hp f hf
    rw [List.pairwise_map]
    refine (hp.pairwise content).imp fun hne hline => ?_
    rw [hf, hf] at hline
    exact absurd hline hne
  rw [allHeadings, withoutCode_eq_self hcode, List.pairwise_append, List.pairwise_append]
  simp only [List.mem_append, List.mem_map]
  refine ⟨⟨hpass isLinePattern_marked _ fun _ => rfl, hpass (isLinePattern_underline '=') _ fun _ => rfl,
    ?_⟩, hpass (isLinePattern_underline '-') _ fun _ => rfl, ?_⟩
  · rintro _ ⟨m, _, rfl⟩ _ ⟨m', _, rfl⟩ _
    exact ⟨rfl, HeadingStyle.noConfusion⟩
  · rintro _ (⟨m, _, rfl⟩ | ⟨m, hm, rfl⟩) _ ⟨m', hm', rfl⟩ hline
    · exact ⟨rfl, HeadingStyle.noConfusion⟩
    · -- The line below would be an underline of both kinds.
      obtain ⟨line, hbelow, hdouble⟩ := underline_below (by decide) hm
      obtain ⟨line', hbelow', hsingle⟩ := underline_below (by decide) hm'
      simp only [headingOf] at hline
      rw [hline, hbelow', Option.some.injEq] at hbelow
      subst hbelow
      exact absurd (isUnderline_unique hdouble hsingle) (by decide)

lemma aboveUnderline_of_style (hcode : '`' ∉ content) (hg : g ∈ allHeadings content)
    (hstyle : g.style ≠ .marked) : g.aboveUnderline content = true := by
  rw [allHeadings, withoutCode_eq_self hcode] at hg
  simp only [List.mem_append, List.mem_map] at hg
  rcases hg with (⟨m, _, rfl⟩ | ⟨m, hm, rfl⟩) | ⟨m, hm, rfl⟩
  · exact absurd rfl hstyle
  · obtain ⟨line, hbelow, hunderline⟩ := underline_below (by decide) hm
    simp [Heading.aboveUnderline, headingOf, hbelow, hunderline]
  · obtain ⟨line, hbelow, hunderline⟩ := underline_below (by decide) hm
    simp [Heading.aboveUnderline, headingOf, hbelow, hunderline]

/-- A marked heading begins with a number sign at the beginning of its line. -/
lemma exists_numberSign (hcode : '`' ∉ content) (hh : h ∈ allHeadings content)
    (hstyle : h.style = .marked) :
    ∃ front cs, content = front ++ '#' :: cs ∧ AtLineStart front ∧ h.line = front.count '\n' + 1 := by
  obtain ⟨hstart, hsigns, hlevel, hline⟩ := exists_mark hh hstyle
  rw [withoutCode_eq_self hcode] at hstart hsigns
  obtain ⟨hlt, hsign⟩ := List.getElem?_eq_some_iff.mp (getElem?_of_signsAt (hsigns ▸ hlevel))
  have hdrop := List.drop_eq_getElem_cons hlt
  rw [hsign] at hdrop
  refine ⟨content.take h.start, content.drop (h.start + 1), ?_, hstart, hline⟩
  rw [← hdrop, List.take_append_drop]

/-- A marked heading above an underline is told a second time. -/
lemma exists_second (hcode : '`' ∉ content) (hh : h ∈ allHeadings content) (hstyle : h.style = .marked)
    (habove : h.aboveUnderline content = true) :
    ∃ g ∈ allHeadings content, g.style ≠ .marked ∧ g.line = h.line := by
  obtain ⟨front, cs, rfl, hstart, hline⟩ := exists_numberSign hcode hh hstyle
  rw [Heading.aboveUnderline, hline, getElem?_lines hstart, Option.any_eq_true] at habove
  obtain ⟨line, hbelow, hunderline⟩ := habove
  have hat : ∀ m : Match, m.start = front.length → lineAt (front ++ '#' :: cs) m.start = h.line := by
    intro m hm
    rw [hm, hline, lineAt, List.take_left]
  rw [allHeadings, withoutCode_eq_self hcode]
  simp only [List.mem_append, List.mem_map]
  rcases Bool.or_eq_true_iff.mp hunderline with hunderline | hunderline
  · obtain ⟨m, hm, hfound⟩ := exists_match_of_underline (by decide) hstart hbelow hunderline
    exact ⟨_, Or.inl (Or.inr ⟨m, hm, rfl⟩), HeadingStyle.noConfusion, hat m hfound⟩
  · obtain ⟨m, hm, hfound⟩ := exists_match_of_underline (by decide) hstart hbelow hunderline
    exact ⟨_, Or.inr ⟨m, hm, rfl⟩, HeadingStyle.noConfusion, hat m hfound⟩

/-- Which headings of a document without code share a line. Two headings do so only if one is marked and
the other is not. The lines of all headings are different exactly if no marked heading stands above an
underline. -/
theorem heading_lines_distinct_iff (hcode : '`' ∉ content) :
    ((allHeadings content).Pairwise fun a b =>
      a.line = b.line → a.style = .marked ∧ b.style ≠ .marked) ∧
    (((allHeadings content).map (·.line)).Nodup ↔
      ∀ h ∈ allHeadings content, h.style = .marked → h.aboveUnderline content = false) := by
  have hpairwise := pairwise_allHeadings hcode
  refine ⟨hpairwise, ?_, ?_⟩
  · intro hnodup h hh hstyle
    rw [← Bool.not_eq_true]
    intro habove
    obtain ⟨g, hg, hother, hline⟩ := exists_second hcode hh hstyle habove
    obtain rfl := List.inj_on_of_nodup_map hnodup hg hh hline
    exact hother hstyle
  · intro hfree
    rw [List.Nodup, List.pairwise_map]
    refine hpairwise.imp_of_mem fun {a b} ha hb hshared hline => ?_
    obtain ⟨hmarked, hother⟩ := hshared hline
    have habove := aboveUnderline_of_style hcode hb hother
    rw [Heading.aboveUnderline, ← hline, ← Heading.aboveUnderline, hfree a ha hmarked] at habove
    cases habove

/-- A document with hyphens below an empty line, where they underline nothing, and below a heading. -/
def ruled : List Char :=
  "# A\n\n---\nB\n---\n## C".toList

/-- Its three headings are on three lines. -/
theorem ruled_lines_distinct :
    (allHeadings ruled).map (fun h => (h.line, h.style)) =
      [(1, .marked), (6, .marked), (4, .underlined)] ∧ ((allHeadings ruled).map (·.line)).Nodup := by
  refine ⟨by decide +kernel, (heading_lines_distinct_iff (by decide +kernel)).2.mpr ?_⟩
  decide +kernel

/-- A line with number signs above an underline is two headings. -/
theorem heading_told_twice :
    (allHeadings "# A\n===".toList).map (fun h => (h.text, h.line, h.style)) =
        [("A".toList, 1, .marked), ("# A".toList, 1, .doubleUnderlined)] ∧
      ¬ ((allHeadings "# A\n===".toList).map (·.line)).Nodup := by
  decide +kernel

end CodeAtlas.Outline
