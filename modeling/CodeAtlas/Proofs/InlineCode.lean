import CodeAtlas.Proofs.Titles

/-!
# Code in headings

Headings are looked for in a document without its code, so what stands between backticks in a heading does
not show in its name. Between two words it leaves two spaces. Where a heading is nothing but code, its line
is blank without it, and the heading takes the next line that is not.
-/

namespace CodeAtlas.Outline

open CodeAtlas.Text CodeAtlas.Text.Pattern

/-! ### Code in a line -/

lemma codePattern_looksAhead : codePattern.LooksAhead := by
  simp [codePattern, LooksAhead, all, lit, few, many1]

/-- Code is taken out of a text wherever the text stands. -/
lemma replaceFrom_code {n : Nat} {cs : List Char} (hn : cs.length < n) (front : List Char) :
    codePattern.replaceFrom (fun _ => []) n front cs = withoutCode cs := by
  rw [withoutCode, replaceIn_eq]
  refine replaceFrom_congr codePattern_looksAhead ?_ (fun _ _ _ => rfl) hn (Nat.lt_succ_self _) front []
  intro front text rest gs hreads
  obtain ⟨tail, rfl⟩ := exists_backtick hreads
  exact List.cons_ne_nil _ _

lemma withoutCode_append {plain : List Char} (h : '`' ∉ plain) (cs : List Char) :
    withoutCode (plain ++ cs) = plain ++ withoutCode cs := by
  have habsent : codePattern.Absent [] plain cs := by
    rintro a b rfl hb ⟨text, rest, gs, hcut, hreads⟩
    obtain ⟨tail, rfl⟩ := exists_backtick hreads
    obtain ⟨c, b, rfl⟩ := List.exists_cons_of_ne_nil hb
    obtain ⟨rfl, _⟩ := List.cons.inj hcut
    exact h (by simp)
  rw [withoutCode, replaceIn_eq, replaceFrom_of_absent habsent, replaceFrom_code (by simp)]

/-- Code in a line has a backtick on either side. -/
lemma reads_codeInLine_iff {front text rest : List Char} {gs : Groups} :
    (all [lit "`", many1 fun c => c != '`' && c != '\n', lit "`"]).Reads front text rest gs ↔
      ∃ code, text = '`' :: (code ++ ['`']) ∧ code ≠ [] ∧ '`' ∉ code ∧ '\n' ∉ code ∧ gs = [] := by
  constructor
  · rintro ⟨_, _, _, _, rfl, rfl, hleft, code, _, _, _, rfl, rfl, ⟨⟨hcode, hone, _⟩, rfl⟩, hright⟩
    obtain ⟨rfl, rfl⟩ := reads_lit_iff.mp hleft
    obtain ⟨rfl, rfl⟩ := reads_lit_iff.mp hright
    refine ⟨code, rfl, List.length_pos_iff.mp hone, ?_, ?_, rfl⟩
    · intro hmem
      simpa using hcode '`' hmem
    · intro hmem
      simpa using hcode '\n' hmem
  · rintro ⟨code, rfl, hne, htick, hfeed, rfl⟩
    refine ⟨['`'], code ++ ['`'], [], [], rfl, rfl, reads_lit_iff.mpr ⟨rfl, rfl⟩, code, ['`'], [], [], rfl,
      rfl, ⟨⟨?_, List.length_pos_iff.mpr hne, by simp⟩, rfl⟩, reads_lit_iff.mpr ⟨rfl, rfl⟩⟩
    intro c hc
    rw [Bool.and_eq_true, bne_iff_ne, bne_iff_ne]
    exact ⟨fun h => htick (h ▸ hc), fun h => hfeed (h ▸ hc)⟩

/-- A piece of code goes, whatever follows. -/
lemma withoutCode_code {code : List Char} (hne : code ≠ []) (htick : '`' ∉ code) (hfeed : '\n' ∉ code)
    (cs : List Char) : withoutCode ('`' :: (code ++ ['`']) ++ cs) = withoutCode cs := by
  have hstarts : codePattern.Starts [] ('`' :: (code ++ ['`']) ++ cs) :=
    ⟨_, cs, [], rfl, Or.inr (reads_codeInLine_iff.mpr ⟨code, rfl, hne, htick, hfeed, rfl⟩)⟩
  have honly : ∀ text rest gs, '`' :: (code ++ ['`']) ++ cs = text ++ rest →
      codePattern.Reads [] text rest gs → text = '`' :: (code ++ ['`']) := by
    rintro text rest gs hcut (hblock | hline)
    · -- Behind the first backtick there is no other.
      obtain ⟨_, _, _, _, rfl, _, hticks, _⟩ := reads_all_cons.mp hblock
      obtain ⟨rfl, _⟩ := reads_lit_iff.mp hticks
      obtain ⟨c, code, rfl⟩ := List.exists_cons_of_ne_nil hne
      have hhead : c = '`' := (List.cons.inj (List.cons.inj hcut).2).1
      exact absurd (hhead ▸ List.mem_cons_self) htick
    · obtain ⟨code', rfl, _, htick', _⟩ := reads_codeInLine_iff.mp hline
      have htail : code ++ '`' :: cs = code' ++ '`' :: rest := by simpa using hcut
      obtain ⟨rfl, _⟩ := eq_of_first_cut htick htick' htail
      rfl
  rw [withoutCode, replaceIn_eq, replaceFrom_of_starts hstarts (List.cons_ne_nil _ _)
    (fun text rest gs hcut hreads => ⟨honly text rest gs hcut hreads, fun _ _ => rfl⟩), List.nil_append,
    replaceFrom_code (by simp; omega)]

/-! ### Headings with code -/

/-- A word of letters and digits. -/
structure Word where
  chars : List Char
  ne_nil : chars ≠ []
  alphanumeric : chars.all (fun c => isWord c && c != '_') = true

namespace Word

variable (w : Word)

/-- The word as code. -/
def asCode : List Char :=
  '`' :: (w.chars ++ ['`'])

lemma isTitleChar_of_mem {c : Char} (h : c ∈ w.chars) : isTitleChar c = true := by
  rw [isTitleChar, Bool.or_eq_true]
  exact Or.inr (List.all_eq_true.mp w.alphanumeric c h)

lemma not_mem {c : Char} (hc : (isWord c && c != '_') = false) : c ∉ w.chars := by
  intro hmem
  rw [List.all_eq_true.mp w.alphanumeric c hmem] at hc
  cases hc

lemma withoutCode_asCode (cs : List Char) : withoutCode (w.asCode ++ cs) = withoutCode cs :=
  withoutCode_code w.ne_nil (w.not_mem (by decide)) (w.not_mem (by decide)) cs

end Word

/-- The level of a heading. -/
abbrev Level := { level : Nat // 1 ≤ level ∧ level ≤ 6 }

/-- A document that begins with a marked heading. -/
def headed (level : Level) (text : List Char) (body : List (List Char)) : List Char :=
  unlines ((List.replicate level '#' ++ ' ' :: text) :: body)

/-- Two words with a gap between them. -/
def gap (u v : Word) : List Char :=
  u.chars ++ ' ' :: ' ' :: v.chars

section Gap

variable (u v : Word)

lemma gap_ne_nil : gap u v ≠ [] := by
  simp [gap]

lemma gap_all_title : (gap u v).all isTitleChar = true := by
  rw [List.all_eq_true]
  intro c hc
  simp only [gap, List.mem_append, List.mem_cons] at hc
  rcases hc with hc | rfl | rfl | hc
  · exact u.isTitleChar_of_mem hc
  · rfl
  · rfl
  · exact v.isTitleChar_of_mem hc

lemma gap_head_ne_space : (gap u v).head? ≠ some ' ' := by
  rw [gap, List.head?_append_of_ne_nil _ u.ne_nil]
  intro hhead
  exact u.not_mem (by decide) (List.mem_of_head? hhead)

lemma gap_last_ne_space : (gap u v).getLast? ≠ some ' ' := by
  rw [gap, List.getLast?_append_of_ne_nil _ (List.cons_ne_nil _ _), List.getLast?_cons_cons,
    ← List.singleton_append, List.getLast?_append_of_ne_nil _ v.ne_nil]
  intro hlast
  exact v.not_mem (by decide) (List.mem_of_getLast? hlast)

lemma isBody_of_mem_nil : ∀ line ∈ ([] : List (List Char)), IsBody line := by
  simp

end Gap

/-- The heading that is left of two words with code between them. -/
def gapped (level : Level) (u v : Word) : Section where
  level := level
  title := gap u v
  body := []
  one_le_level := level.2.1
  level_le_six := level.2.2
  title_ne_nil := gap_ne_nil u v
  all_title := gap_all_title u v
  head_ne_space := gap_head_ne_space u v
  last_ne_space := gap_last_ne_space u v
  isBody := isBody_of_mem_nil

lemma atLineEnd_withoutCode (body : List (List Char)) : AtLineEnd (withoutCode (below body)) := by
  cases body with
  | nil => exact Or.inl (by decide +kernel)
  | cons line body =>
    have hfeed : below (line :: body) = ['\n'] ++ (line ++ below body) := rfl
    rw [hfeed, withoutCode_append (by decide)]
    exact atLineEnd_cons_iff.mpr rfl

lemma withoutCode_gapped (level : Level) (u code v : Word) (body : List (List Char)) :
    withoutCode (headed level (u.chars ++ ' ' :: (code.asCode ++ ' ' :: v.chars)) body) =
      (gapped level u v).heading ++ withoutCode (below body) := by
  have hparts : headed level (u.chars ++ ' ' :: (code.asCode ++ ' ' :: v.chars)) body =
      (List.replicate level '#' ++ ' ' :: (u.chars ++ [' '])) ++
        (code.asCode ++ (' ' :: v.chars ++ below body)) := by
    rw [headed, unlines_cons]
    simp
  have hbefore : '`' ∉ List.replicate level '#' ++ ' ' :: (u.chars ++ [' ']) := by
    simp [List.mem_replicate, u.not_mem (c := '`') (by decide)]
  have hafter : '`' ∉ ' ' :: v.chars := by
    simp [v.not_mem (c := '`') (by decide)]
  rw [hparts, withoutCode_append hbefore, code.withoutCode_asCode, withoutCode_append hafter,
    Section.heading]
  simp [gapped, gap]

lemma withoutCode_bare (level : Level) (code : Word) (body : List (List Char)) :
    withoutCode (headed level code.asCode body) =
      List.replicate level '#' ++ ' ' :: withoutCode (below body) := by
  have hparts : headed level code.asCode body =
      (List.replicate level '#' ++ [' ']) ++ (code.asCode ++ below body) := by
    rw [headed, unlines_cons]
    simp
  have hbefore : '`' ∉ List.replicate level '#' ++ [' '] := by
    simp [List.mem_replicate]
  rw [hparts, withoutCode_append hbefore, code.withoutCode_asCode]
  simp

/-- The first line of a text that is not blank, without the blanks before it. -/
def nextLine (cs : List Char) : List Char :=
  (cs.dropWhile isBlank).takeWhile inLine

/-- A heading without a text of its own takes the next line that is not blank. -/
lemma firstElement_of_solid (path : String) (level : Level) {content rest : List Char}
    (hcontent : withoutCode content = List.replicate level '#' ++ ' ' :: rest)
    (hrest : rest.any (!isBlank ·) = true) :
    firstElement path content =
      some (s!"h{level.1}", String.ofList (cleanText (titleOf (nextLine rest))), 1) := by
  obtain ⟨d, hd, hsolid⟩ := List.any_eq_true.mp hrest
  cases hafter : rest.dropWhile isBlank with
  | nil =>
    rw [List.dropWhile_eq_nil_iff.mp hafter d hd] at hsolid
    cases hsolid
  | cons c after =>
    have hc : isBlank c = false := by
      have hhead := List.head?_dropWhile_not isBlank rest
      rw [hafter] at hhead
      simpa using hhead
    have hline : nextLine rest = c :: after.takeWhile inLine := by
      rw [nextLine, hafter, List.takeWhile_cons_of_pos (inLine_of_solid hc)]
    have hend : AtLineEnd (after.dropWhile inLine) := by
      have hhead := List.head?_dropWhile_not inLine after
      cases hbelow : after.dropWhile inLine with
      | nil => exact atLineEnd_nil
      | cons d below =>
        rw [hbelow] at hhead
        exact atLineEnd_cons_iff.mpr (by simpa [inLine] using hhead)
    have hparts : withoutCode content = List.replicate level '#' ++
        (' ' :: rest.takeWhile isBlank ++
          c :: (after.takeWhile inLine ++ after.dropWhile inLine)) := by
      rw [hcontent, List.takeWhile_append_dropWhile, List.cons_append, ← hafter,
        List.takeWhile_append_dropWhile]
    have hfirst := firstElement_eq path hparts (by simp [isNumberSign]) (by simpa using level.2)
      (List.forall_mem_cons.mpr ⟨rfl, fun c => List.mem_takeWhile_imp⟩) (List.cons_ne_nil _ _) hc
      (fun c => List.mem_takeWhile_imp) hend
    rwa [← hline, List.length_replicate] at hfirst

/-- With nothing but blanks below, no heading has a name. -/
lemma clean_of_blank {level : Level} {content rest : List Char}
    (hcontent : withoutCode content = List.replicate level '#' ++ ' ' :: rest)
    (hrest : rest.all isBlank = true) {h : Heading} (hh : h ∈ allHeadings content) : h.clean = [] := by
  have hsigns : ∀ c ∈ List.replicate level.1 '#', isNumberSign c = true := by
    simp [isNumberSign]
  have hblank : ∀ c ∈ ' ' :: rest, isBlank c = true :=
    List.forall_mem_cons.mpr ⟨rfl, List.all_eq_true.mp hrest⟩
  have hunderline : ∀ sign : Char, isClosing sign = false →
      (underlinePattern sign).matchesIn (withoutCode content) = [] := by
    intro sign hsign
    apply matchesIn_eq_nil
    rintro a b hab ⟨text, rest', gs, rfl, hreads⟩
    obtain ⟨title, signs, blank, hread⟩ := reads_underline_iff.mp ⟨gs, hreads⟩
    obtain ⟨c, signs, rfl⟩ := List.exists_cons_of_ne_nil hread.signs_ne_nil
    obtain rfl : c = sign := by simpa using hread.all_signs c List.mem_cons_self
    have hmem : c ∈ List.replicate level.1 '#' ++ ' ' :: rest := by
      rw [← hcontent, hab, hread.text_eq]
      simp
    rw [isClosing, Bool.or_eq_false_iff] at hsign
    rcases List.mem_append.mp hmem with hc | hc
    · rw [hsigns c hc] at hsign
      cases hsign.2
    · rw [hblank c hc] at hsign
      cases hsign.1
  rw [allHeadings, hunderline '=' (by decide), hunderline '-' (by decide)] at hh
  simp only [List.map_nil, List.append_nil, List.mem_map] at hh
  obtain ⟨m, hm, rfl⟩ := hh
  obtain ⟨front, text, rest', gs, hcut, hreads, hmatch⟩ := isMatch_of_mem_matchesIn hm
  obtain ⟨signs, blank, title, closing, hmark⟩ := isMark_of_reads hreads
  -- The blanks of the heading stand behind the signs, so the title stands among the other blanks.
  have htitle : ∀ c ∈ title, isBlank c = true := by
    obtain ⟨b, blank, rfl⟩ := List.exists_cons_of_ne_nil hmark.blank_ne_nil
    have hb : isNumberSign b = false :=
      isNumberSign_of_isBlank (hmark.all_blank b List.mem_cons_self)
    have hparts : List.replicate level.1 '#' ++ ' ' :: rest =
        (front ++ signs) ++ b :: (blank ++ (title ++ (closing ++ rest'))) := by
      rw [← hcontent, hcut, hmark.text_eq]
      simp
    obtain ⟨u, _, hbehind⟩ := exists_of_stop hparts hsigns hb
    intro c hc
    apply hblank
    rw [hbehind]
    simp [hc]
  have hnone : trim title = [] := trim_append_of_blank htitle []
  rw [headingOf, (hmark.groups (by rw [hmatch])).2, hnone]
  rfl

lemma name_of_blank {level : Level} {content rest : List Char}
    (hcontent : withoutCode content = List.replicate level '#' ++ ' ' :: rest)
    (hrest : rest.all isBlank = true) (path : String) {e : Element}
    (he : e ∈ (elements (some path) content).elements) : e.name = "" := by
  have hmem := List.mem_map_of_mem (f := fun e => (e.kind.label, e.name, e.location.lineStart)) he
  rw [map_elements] at hmem
  obtain ⟨h, hh, heq⟩ := List.mem_map.mp hmem
  have hclean := clean_of_blank hcontent hrest (List.mem_mergeSort.mp hh)
  rw [hclean] at heq
  exact (congrArg (fun t => t.2.1) heq).symm

/-- Code does not show in the name of a heading. Between two words it leaves two spaces. A heading of code
alone takes the next line that is not blank, and if there is none it has no name. -/
theorem code_is_left_out_of_headings (path : String) (level : Level) (code : Word)
    (body : List (List Char)) :
    (∀ u v : Word,
      firstElement path (headed level (u.chars ++ ' ' :: (code.asCode ++ ' ' :: v.chars)) body) =
        some (s!"h{level.1}", String.ofList (u.chars ++ ' ' :: ' ' :: v.chars), 1)) ∧
    ((withoutCode (below body)).any (!isBlank ·) = true →
      firstElement path (headed level code.asCode body) =
        some (s!"h{level.1}",
          String.ofList (cleanText (titleOf (nextLine (withoutCode (below body))))), 1)) ∧
    ((withoutCode (below body)).all isBlank = true →
      ∀ e ∈ (elements (some path) (headed level code.asCode body)).elements, e.name = "") := by
  refine ⟨fun u v => ?_, fun hsolid => ?_, fun hblank e he => ?_⟩
  · exact (gapped level u v).firstElement_eq path (withoutCode_gapped level u code v body)
      (atLineEnd_withoutCode body)
  · exact firstElement_of_solid path level (withoutCode_bare level code body) hsolid
  · exact name_of_blank (withoutCode_bare level code body) hblank path he

theorem code_headings_of_level_two :
    firstElement "d.md" "## a `b1` c\n\nx `y` ##".toList = some ("h2", "a  c", 1) ∧
    firstElement "d.md" "## `b1`\n\nx `y` ##".toList = some ("h2", "x", 1) ∧
    ∀ e ∈ (elements (some "d.md") "## `b1`\n ".toList).elements, e.name = "" := by
  have hwords : ∀ (body : List (List Char)), _ := code_is_left_out_of_headings "d.md"
    ⟨2, by decide⟩ ⟨"b1".toList, by decide, by decide⟩
  obtain ⟨hbetween, halone, _⟩ := hwords [[], "x `y` ##".toList]
  refine ⟨?_, ?_, ?_⟩
  · exact hbetween ⟨['a'], by decide, by decide⟩ ⟨['c'], by decide, by decide⟩
  · refine (halone (by decide +kernel)).trans ?_
    decide +kernel
  · exact (hwords [[' ']]).2.2 (by decide +kernel)

/-- The code of these headings is lost, though a reader sees it. -/
theorem code_is_lost :
    (¬ ∃ e ∈ (elements (some "d.md") "# a `b` c".toList).elements,
      e.location.lineStart = 1 ∧ e.name = "a b c") ∧
    ¬ ∃ e ∈ (elements (some "d.md") "# `b`".toList).elements,
      e.location.lineStart = 1 ∧ e.name = "b" := by
  decide +kernel

end CodeAtlas.Outline
