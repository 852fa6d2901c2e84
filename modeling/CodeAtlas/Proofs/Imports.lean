import CodeAtlas.Index.Script
import CodeAtlas.Proofs.Dependencies
import CodeAtlas.Proofs.ImportLines
import CodeAtlas.Proofs.ScriptIds

/-!
# The modules that a script imports

The dependencies of a script are read off the lines that its imports start on: the second word names a
module. So a line tells of one module only, and what is written right behind the module's name counts as
a part of it. Where imports are written plainly, that is all that can go wrong: the dependencies are the
modules that the imports ask for exactly if nothing is attached to a name, and every module is the first
that some import asks for.
-/

namespace CodeAtlas.Index

open CodeAtlas.Text CodeAtlas.Script

/-! ### What imports ask for -/

/-- The imports on the top level of a script, and where they stand. -/
def topImports (tree : Node) : List (Statement × Span) :=
  tree.children.filterMap fun n =>
    match n.kind with
    | .statement s span => if s.isImport then some (s, span) else none
    | _ => none

/-- The modules that an import asks for: of the name of a whole module the first part, otherwise the
module that names are imported from. -/
def requiredModules : Statement → List String
  | .importModules names => names.map fun a => String.ofList (a.name.toList.takeWhile (· ≠ '.'))
  | .importFrom source _ => source.toList
  | _ => []

lemma mem_topImports {tree : Node} {i : Statement × Span} : i ∈ topImports tree ↔
    ∃ n ∈ tree.children, n.kind = .statement i.1 i.2 ∧ i.1.isImport = true := by
  unfold topImports
  rw [List.mem_filterMap]
  refine exists_congr fun n => and_congr_right fun _ => ?_
  cases n.kind with
  | statement s span =>
    by_cases hs : s.isImport = true
    · obtain ⟨s', span'⟩ := i
      simp only [hs, if_true, Option.some.injEq, Prod.mk.injEq, Kind.statement.injEq]
      constructor
      · rintro ⟨rfl, rfl⟩
        exact ⟨⟨rfl, rfl⟩, hs⟩
      · exact fun h => h.1
    · simp only [hs]
      constructor
      · intro h
        cases h
      · rintro ⟨h, himport⟩
        cases h
        exact absurd himport hs
  | _ => simp

section ModuleText

variable (id : Identifier) (ids : List Identifier)

lemma continuesName_text : ∀ c ∈ id.text.toList, continuesName c = true :=
  continuesName_of_isName id.isName_text

lemma text_ne_nil : id.text.toList ≠ [] := by
  intro h
  have hname := id.isName_text
  rw [h] at hname
  cases hname

/-- Names of modules consist of names and dots. -/
lemma namePart_of_moduleText :
    ∀ c ∈ (moduleText (id :: ids)).toList, continuesName c = true ∨ c = '.' := by
  intro c hc
  rw [toList_moduleText, List.mem_append, List.mem_flatMap] at hc
  rcases hc with hc | ⟨i, _, hc⟩
  · exact .inl (continuesName_text id c hc)
  · rcases List.mem_cons.mp hc with rfl | hc
    · exact .inr rfl
    · exact .inl (continuesName_text i c hc)

lemma takeWhile_moduleText :
    (moduleText (id :: ids)).toList.takeWhile (· ≠ '.') = id.text.toList := by
  have hid : ∀ c ∈ id.text.toList, decide (c ≠ '.') = true := by
    intro c hc
    rw [decide_eq_true_eq]
    rintro rfl
    exact absurd (continuesName_text id _ hc) (by decide)
  rw [toList_moduleText, List.takeWhile_append_of_pos hid]
  cases ids with
  | nil => simp
  | cons i ids => simp

end ModuleText

lemma namePart_of_required {text : List Char} {tree : Node} {i : Statement × Span} {m : String}
    (hparse : parse text = .ok tree) (hi : i ∈ topImports tree) (hm : m ∈ requiredModules i.1) :
    ∀ c ∈ m.toList, continuesName c = true ∨ c = '.' := by
  obtain ⟨n, hn, hkind, himport⟩ := mem_topImports.mp hi
  obtain ⟨_, _, _, _, t, s, s', _, ⟨_, hrun⟩ | ⟨_, hrun⟩⟩ :=
    exists_startsImport hparse hn (by rw [Node.isImport, hkind]; exact himport)
  · obtain ⟨_, _, _, id, ids, as, names, stop, _, _, hkind', hnames⟩ := tokens_of_importModules hrun
    rw [hkind] at hkind'
    obtain ⟨hs, _⟩ := Kind.statement.inj hkind'
    rw [hs, requiredModules, List.mem_map] at hm
    obtain ⟨a, ha, rfl⟩ := hm
    obtain ⟨id', ids', hname⟩ : ∃ id ids, a.name = moduleText (id :: ids) := by
      rcases List.mem_cons.mp ha with rfl | ha
      · exact ⟨id, ids, rfl⟩
      · exact hnames a ha
    intro c hc
    rw [String.toList_ofList, hname] at hc
    exact namePart_of_moduleText id' ids' c ((List.takeWhile_prefix _).subset hc)
  · obtain ⟨source, names, stop, hkind', hsource, _⟩ := tokens_of_importFrom hrun
    rw [hkind] at hkind'
    obtain ⟨hs, _⟩ := Kind.statement.inj hkind'
    rw [hs, requiredModules, Option.mem_toList] at hm
    obtain ⟨id, ids, rfl⟩ := hsource m hm
    exact namePart_of_moduleText id ids

/-! ### What lines show -/

/-- The line that something starts on. -/
def lineAt (text : List Char) (span : Span) : List Char :=
  (lines text)[span.start.line - 1]?.getD []

/-- A word of that line. -/
def wordAt (text : List Char) (span : Span) (k : Nat) : List Char :=
  (words (trim (lineAt text span)))[k]?.getD []

/-- The module that is read off an import of a file. -/
def shownModule (path : String) (text : List Char) (i : Statement × Span) : String :=
  moduleOfRow (Row.ofElement (Source.importElement ⟨path, lookupPath path, lines text⟩ i.1 i.2))

/-- What stands between the first name of the second word and the next dot. -/
def attached (text : List Char) (span : Span) : List Char :=
  ((wordAt text span 1).dropWhile continuesName).takeWhile (· ≠ '.')

/-- The keyword that an import starts with. -/
def keywordOf : Statement → String
  | .importFrom _ _ => "from"
  | _ => "import"

/-- The second word as far as it looks like the name of a module. -/
def nameShown (text : List Char) (span : Span) : List Char :=
  (wordAt text span 1).takeWhile fun c => continuesName c || c == '.'

/-- The import stands first on its line, and the next word, behind a space, starts with the name of a
module, in composed form. If names are imported from the module, that is the whole word, and the keyword
in front of the names follows. -/
@[mk_iff]
structure IsPlain (text : List Char) (i : Statement × Span) : Prop where
  first : i.2.start.column = width ((lineAt text i.2).takeWhile isBlank)
  keyword : (keywordOf i.1).toList ++ [' '] <+: trim (lineAt text i.2)
  named : (wordAt text i.2 1).head?.any continuesName = true
  composed : ∀ u ∈ pieces '.' (nameShown text i.2), compose u = u
  whole : keywordOf i.1 = "from" → nameShown text i.2 = wordAt text i.2 1 ∧
    (wordAt text i.2 2).takeWhile continuesName = "import".toList

instance (text : List Char) (i : Statement × Span) : Decidable (IsPlain text i) :=
  decidable_of_iff _ (isPlain_iff text i).symm

section Plain

variable {text : List Char} {i : Statement × Span} {tokens ts : List Token} {t : Token}

/-- Behind the keyword of a plain import stands the second word of its line. -/
lemma IsPlain.exists_laid (h : IsPlain text i) (hends : EndsLines text) (hlex : lex text = some tokens)
    (hts : t :: ts <:+ tokens) (ht : t.lexeme = .keyword (keywordOf i.1))
    (hstart : i.2.start = t.span.start) :
    ∃ a b p, Laid p (a ++ (wordAt text i.2 1 ++ b)) ts ∧ (∀ c ∈ a, isBlank c = true ∧ c ≠ '\n') ∧
      (∀ c ∈ wordAt text i.2 1, isBlank c = false) ∧ (∀ c ∈ b.head?, isBlank c = true) ∧
      ∃ ws, words (trim (lineAt text i.2)) = (keywordOf i.1).toList :: wordAt text i.2 1 :: ws ∧
        words (b.takeWhile (· != '\n')) = ws := by
  obtain ⟨hfirst, hkeyword, hname, _, _⟩ := h
  have hword : (keywordOf i.1).toList ≠ [] ∧ ∀ c ∈ (keywordOf i.1).toList, isBlank c = false := by
    unfold keywordOf
    split
    · exact ⟨by decide, by simp; decide⟩
    · exact ⟨by decide, by simp; decide⟩
  obtain ⟨before, behind, p, htext, hplace, hlaid⟩ := exists_keyword_of_lex hlex hts ht
  rw [← hstart] at hplace
  unfold lineAt at hfirst
  rw [hplace] at hfirst
  have hline : trim (lineAt text i.2) = (keywordOf i.1).toList ++
      (behind.takeWhile (· != '\n')).rdropWhile isBlank := by
    rw [lineAt, hplace]
    exact trim_line hends htext hword.1 hword.2 hfirst
  have hwords : words (trim (lineAt text i.2)) =
      (keywordOf i.1).toList :: words (behind.takeWhile (· != '\n')) := by
    rw [hline, List.prefix_append_right_inj] at hkeyword
    rw [hline, words_append_rdropWhile hword.1 hword.2 hkeyword]
  cases hbehind : words (behind.takeWhile (· != '\n')) with
  | nil => simp [wordAt, hwords, hbehind] at hname
  | cons v ws =>
    obtain rfl : wordAt text i.2 1 = v := by simp [wordAt, hwords, hbehind]
    obtain ⟨a, b, rfl, ha, hv, hb, hws⟩ := exists_word_behind hbehind
    exact ⟨a, b, p, hlaid, ha, hv, hb, ws, by rw [hwords, hbehind], hws⟩

/-- The second word of a plain import starts with a name. -/
lemma IsPlain.exists_head (h : IsPlain text i) (hv : ∀ c ∈ wordAt text i.2 1, isBlank c = false) :
    ∃ c ∈ (wordAt text i.2 1).head?, continuesName c = true ∧ isBlank c = false ∧ c ≠ '#' ∧ c ≠ '\\' := by
  obtain ⟨c, hc, hcontinues⟩ := (Option.any_eq_true _ _).mp h.named
  exact ⟨c, hc, hcontinues, isSolid_of_namePart ⟨hv c (List.mem_of_head? hc), .inl hcontinues⟩⟩

/-- The first name in the second word of a plain import is the one that follows the keyword. -/
lemma IsPlain.takeWhile_eq (h : IsPlain text i) {a b : List Char} {p : Position} {spelling : String}
    {identifier : Identifier} (hlaid : Laid p (a ++ (wordAt text i.2 1 ++ b)) (t :: ts))
    (ht : t.lexeme = .name spelling identifier) (ha : ∀ c ∈ a, isBlank c = true ∧ c ≠ '\n')
    (hv : ∀ c ∈ wordAt text i.2 1, isBlank c = false) (hb : ∀ c ∈ b.head?, isBlank c = true) :
    (wordAt text i.2 1).takeWhile continuesName = identifier.text.toList ∧
      ∃ q, Laid q ((wordAt text i.2 1).dropWhile continuesName ++ b) ts := by
  obtain ⟨c, hc, _, hsolid⟩ := h.exists_head hv
  obtain ⟨_, hidentifier, _, hrest⟩ := name_of_laid hlaid ht ha ⟨c, hc, hsolid⟩ hb
  have hrun := (composed_of_pieces (fun c hc => by simpa using List.mem_takeWhile_imp hc) h.composed).1
  have hstarts : ∀ c, decide (continuesName c = true ∧ (continuesName c || c == '.') = true) =
      continuesName c := by
    intro c
    cases continuesName c <;> rfl
  simp only [nameShown, List.takeWhile_takeWhile, hstarts] at hrun
  rw [text_of_ofSpelling? hidentifier, hrun]
  exact ⟨rfl, hrest⟩

/-- What is read off the line of a plain import of modules: the second word up to a dot. -/
lemma takeWhile_eq_append_attached :
    (wordAt text i.2 1).takeWhile (· ≠ '.') =
      (wordAt text i.2 1).takeWhile continuesName ++ attached text i.2 := by
  have hrun : ∀ c ∈ (wordAt text i.2 1).takeWhile continuesName, decide (c ≠ '.') = true := by
    intro c hc
    rw [decide_eq_true_eq]
    rintro rfl
    exact absurd (List.mem_takeWhile_imp hc) (by decide)
  rw [attached, ← List.takeWhile_append_of_pos hrun, List.takeWhile_append_dropWhile]

lemma toList_shownModule (path : String) : (shownModule path text i).toList =
    importedModule (importSource i.1 ++ " " ++ ", ".intercalate (importedNames i.1)).toList
      (trim (lineAt text i.2)) := by
  rw [shownModule, moduleOfRow, String.toList_ofList]
  exact congrArg _ String.toList_ofList

lemma moduleInStatement?_import {content w v : List Char} {ws : List (List Char)}
    (hkeyword : "import ".toList <+: content) (hwords : words content = w :: v :: ws) :
    moduleInStatement? content = some (v.takeWhile (· ≠ '.')) := by
  have hfrom : ¬ "from ".toList.isPrefixOf content = true := by
    obtain ⟨rest, rfl⟩ := hkeyword
    simp
  rw [moduleInStatement?, if_neg hfrom, if_pos (List.isPrefixOf_iff_prefix.mpr hkeyword), hwords]
  rfl

lemma moduleInStatement?_from {content w v : List Char} {ws : List (List Char)}
    (hkeyword : "from ".toList <+: content) (hwords : words content = w :: v :: ws) :
    moduleInStatement? content = some v := by
  rw [moduleInStatement?, if_pos (List.isPrefixOf_iff_prefix.mpr hkeyword), hwords]
  rfl

/-- No operator stands in front of the module of a plain import. -/
lemma IsPlain.not_op (h : IsPlain text i) (hends : EndsLines text) (hlex : lex text = some tokens)
    (hts : t :: ts <:+ tokens) (ht : t.lexeme = .keyword (keywordOf i.1))
    (hstart : i.2.start = t.span.start) : ∀ u ∈ ts.head?, ∀ symbol, u.lexeme ≠ .op symbol := by
  obtain ⟨a, b, p, hlaid, ha, hv, _⟩ := h.exists_laid hends hlex hts ht hstart
  obtain ⟨c, hc, hcontinues, hsolid⟩ := h.exists_head hv
  intro u hu symbol hop
  obtain ⟨us, rfl⟩ := List.head?_eq_some_iff.mp hu
  obtain ⟨⟨c', hc', _, hnot⟩, _⟩ := op_of_laid hlaid hop ha ⟨c, hc, hsolid⟩
  rw [hc] at hc'
  cases hc'
  rw [hcontinues] at hnot
  cases hnot

/-- The line of a plain import of modules shows the first of them, and what is attached to its name. -/
lemma IsPlain.shown_importModules (h : IsPlain text i) (hends : EndsLines text)
    (hlex : lex text = some tokens) (hts : t :: ts <:+ tokens) (ht : t.lexeme = .keyword "import")
    (hstart : i.2.start = t.span.start) (hi : keywordOf i.1 = "import") {u : Token} {us : List Token}
    {spelling : String} {identifier : Identifier} (hu : u.lexeme = .name spelling identifier)
    (htokens : ts = u :: us) (path : String) :
    (shownModule path text i).toList = identifier.text.toList ++ attached text i.2 := by
  obtain ⟨a, b, p, hlaid, ha, hv, hb, ws, hwords, _⟩ := h.exists_laid hends hlex hts (hi ▸ ht) hstart
  rw [htokens] at hlaid
  have hname := (h.takeWhile_eq hlaid hu ha hv hb).1
  have hkeyword := h.keyword
  rw [hi] at hkeyword
  rw [toList_shownModule, importedModule, moduleInStatement?_import hkeyword hwords, Option.getD_some,
    takeWhile_eq_append_attached, hname]

/-- Behind the module of a plain import from it stands the third word of the line. -/
lemma IsPlain.exists_third (h : IsPlain text i) (hi : keywordOf i.1 = "from") {b : List Char}
    {ws : List (List Char)}
    (hwords : words (trim (lineAt text i.2)) = (keywordOf i.1).toList :: wordAt text i.2 1 :: ws)
    (hb : ∀ c ∈ b.head?, isBlank c = true) (hws : words (b.takeWhile (· != '\n')) = ws) :
    ∃ blanks d, b = blanks ++ (wordAt text i.2 2 ++ d) ∧ blanks ≠ [] ∧
      (∀ c ∈ blanks, isBlank c = true ∧ c ≠ '\n') ∧ ∀ c ∈ d.head?, isBlank c = true := by
  obtain ⟨w', hw'⟩ := exists_cons_of_import (h.whole hi).2
  have hthird : wordAt text i.2 2 = ws[0]?.getD [] := by
    rw [wordAt, hwords]
    rfl
  cases ws with
  | nil =>
    rw [hw'] at hthird
    cases hthird
  | cons w ws =>
    obtain rfl : wordAt text i.2 2 = w := hthird
    obtain ⟨blanks, d, rfl, hblanks, _, hd, _⟩ := exists_word_behind hws
    refine ⟨blanks, d, rfl, ?_, hblanks, hd⟩
    rintro rfl
    have hi := hb 'i' (by rw [hw']; rfl)
    cases hi

/-- The line of a plain import from a module shows the module. -/
lemma IsPlain.shown_importFrom (h : IsPlain text i) (hends : EndsLines text)
    (hlex : lex text = some tokens) (hts : t :: ts <:+ tokens) (ht : t.lexeme = .keyword "from")
    (hstart : i.2.start = t.span.start) (hi : keywordOf i.1 = "from") {u k : Token}
    {used rest : List Token} {spelling : String} {identifier : Identifier} {ids : List Identifier}
    (hu : u.lexeme = .name spelling identifier) (hgoes : GoesOn (used.map (·.lexeme)) ids)
    (hk : k.lexeme = .keyword "import") (htokens : ts = u :: used ++ k :: rest) (path : String) :
    (shownModule path text i).toList = (moduleText (identifier :: ids)).toList ++ attached text i.2 := by
  obtain ⟨a, b, p, hlaid, ha, hv, hb, ws, hwords, hws⟩ :=
    h.exists_laid hends hlex hts (hi ▸ ht) hstart
  rw [htokens] at hlaid
  obtain ⟨hname, q, hrest⟩ := h.takeWhile_eq hlaid hu ha hv hb
  obtain ⟨blanks, d, rfl, hne, hblanks, hd⟩ := h.exists_third hi hwords hb hws
  obtain ⟨_, hkeyword, _, hcomposed, hwhole⟩ := h
  rw [hi] at hkeyword
  obtain ⟨hwhole, hthird⟩ := hwhole hi
  rw [hwhole] at hcomposed
  have hparts : ∀ c ∈ wordAt text i.2 1, continuesName c = true ∨ c = '.' := by
    intro c hc
    rw [← hwhole] at hc
    simpa using List.mem_takeWhile_imp hc
  have hmore : (wordAt text i.2 1).dropWhile continuesName = ids.flatMap fun i => '.' :: i.text.toList :=
    goesOn_of_laid hgoes rfl hk hrest
      (fun c hc => have hmem := (List.dropWhile_suffix _).subset hc; ⟨hv c hmem, hparts c hmem⟩)
      (fun c hc => eq_false_of_head?_dropWhile hc) (composed_of_pieces hparts hcomposed).2
      ⟨hne, hblanks⟩ hthird hd
  have hnone : attached text i.2 = [] := by
    rw [attached, hmore]
    cases ids with
    | nil => rfl
    | cons j ids => simp
  rw [toList_shownModule, importedModule, moduleInStatement?_from hkeyword hwords, Option.getD_some,
    hnone, List.append_nil, toList_moduleText, ← hmore, ← hname, List.takeWhile_append_dropWhile]

/-- The line of a plain import shows the first module that the import asks for, and what is attached to
its name. -/
lemma IsPlain.exists_required {tree : Node} (h : IsPlain text i) (hends : EndsLines text)
    (hparse : parse text = .ok tree) (hi : i ∈ topImports tree) (path : String) :
    ∃ m, (requiredModules i.1).head? = some m ∧ m.toList ≠ [] ∧
      (shownModule path text i).toList = m.toList ++ attached text i.2 := by
  obtain ⟨n, hn, hkind, himport⟩ := mem_topImports.mp hi
  obtain ⟨tokens, _, hlex, hts, t, s, s', rfl, ⟨ht, hrun⟩ | ⟨ht, hrun⟩⟩ :=
    exists_startsImport hparse hn (by rw [Node.isImport, hkind]; exact himport)
  · obtain ⟨u, us, spelling, id, ids, as, names, stop, htokens, hu, hkind', _⟩ :=
      tokens_of_importModules hrun
    rw [hkind] at hkind'
    obtain ⟨hs, hspan⟩ := Kind.statement.inj hkind'
    have hkeyword : keywordOf i.1 = "import" := by
      rw [hs]
      rfl
    refine ⟨id.text, ?_, text_ne_nil id,
      h.shown_importModules hends hlex hts ht (by rw [hspan]) hkeyword hu htokens path⟩
    rw [hs, requiredModules, List.map_cons, takeWhile_moduleText, String.ofList_toList]
    rfl
  · obtain ⟨source, names, stop, hkind', _, hshape⟩ := tokens_of_importFrom hrun
    rw [hkind] at hkind'
    obtain ⟨hs, hspan⟩ := Kind.statement.inj hkind'
    have hkeyword : keywordOf i.1 = "from" := by
      rw [hs]
      rfl
    have hstart : i.2.start = t.span.start := by rw [hspan]
    obtain ⟨u, used, k, rest, spelling, id, ids, htokens, hu, hgoes, hk, rfl⟩ :=
      hshape (h.not_op hends hlex hts (hkeyword ▸ ht) hstart)
    refine ⟨moduleText (id :: ids), by rw [hs]; rfl, ?_,
      h.shown_importFrom hends hlex hts ht hstart hkeyword hu hgoes hk htokens path⟩
    rw [toList_moduleText]
    exact List.append_ne_nil_of_left_ne_nil (text_ne_nil id) _

lemma IsPlain.shownModule_ne {tree : Node} (h : IsPlain text i) (hends : EndsLines text)
    (hparse : parse text = .ok tree) (hi : i ∈ topImports tree) (path : String) :
    shownModule path text i ≠ "" := by
  intro hempty
  obtain ⟨m, _, hm, hshown⟩ := h.exists_required hends hparse hi path
  rw [hempty] at hshown
  exact hm (List.append_eq_nil_iff.mp hshown.symm).1

/-- If nothing is attached to it, then what the line shows is the module itself. -/
lemma IsPlain.head?_required {tree : Node} (h : IsPlain text i) (hends : EndsLines text)
    (hparse : parse text = .ok tree) (hi : i ∈ topImports tree) (hnone : attached text i.2 = [])
    (path : String) : (requiredModules i.1).head? = some (shownModule path text i) := by
  obtain ⟨m, hm, _, hshown⟩ := h.exists_required hends hparse hi path
  rw [hnone, List.append_nil] at hshown
  rw [hm, String.toList_inj.mp hshown]

end Plain

/-! ### Dependencies -/

lemma mem_topLevel_iff {s : Source} {n : Node} {e : Element} (he : e.kind = .importing) :
    e ∈ s.topLevel n ↔ ∃ i : Statement × Span, n.kind = .statement i.1 i.2 ∧ i.1.isImport = true ∧
      e = s.importElement i.1 i.2 := by
  constructor
  · intro h
    unfold Source.topLevel at h
    split at h
    · -- Classes and their methods are no imports.
      rcases List.mem_cons.mp h with rfl | h
      · cases he
      · obtain ⟨m, _, hm⟩ := List.mem_filterMap.mp h
        split at hm
        · cases hm
          cases he
        · cases hm
    · obtain rfl := List.mem_singleton.mp h
      cases he
    · rename_i names span hkind
      exact ⟨(.importModules names, span), hkind, rfl, List.mem_singleton.mp h⟩
    · rename_i source names span hkind
      exact ⟨(.importFrom source names, span), hkind, rfl, List.mem_singleton.mp h⟩
    · cases h
  · rintro ⟨⟨statement, span⟩, hkind, himport, rfl⟩
    cases statement with
    | importModules names =>
      rw [Source.topLevel, hkind]
      exact List.mem_singleton_self _
    | importFrom source names =>
      rw [Source.topLevel, hkind]
      exact List.mem_singleton_self _
    | _ => cases himport

/-- The elements of imports among those of a script. -/
lemma mem_moduleElements_iff {path : String} {text : List Char} {tree : Node} {e : Element}
    (he : e.kind = .importing) : e ∈ moduleElements path text tree ↔ ∃ i ∈ topImports tree,
      e = Source.importElement ⟨path, lookupPath path, lines text⟩ i.1 i.2 := by
  unfold moduleElements
  rw [List.mem_cons, List.mem_flatMap, or_iff_right (by rintro rfl; cases he)]
  constructor
  · rintro ⟨n, hn, h⟩
    obtain ⟨i, hkind, himport, rfl⟩ := (mem_topLevel_iff he).mp h
    exact ⟨i, mem_topImports.mpr ⟨n, hn, hkind, himport⟩, rfl⟩
  · rintro ⟨i, hi, rfl⟩
    obtain ⟨n, hn, hkind, himport⟩ := mem_topImports.mp hi
    exact ⟨n, hn, (mem_topLevel_iff he).mpr ⟨i, hkind, himport, rfl⟩⟩

/-- The dependencies of a script in the root, with its imports stored as they are built, are the modules
that its lines show. -/
lemma mem_dependencies_iff {c : Catalog} {path text : String} {tree : Node} (depth : Int)
    (hroot : '/' ∉ path.toList)
    (hstored : ∀ r : Row, r.filePath = path → r.kind = .importing →
      (r ∈ c.readableRows ↔ r ∈ (moduleElements path text.toList tree).map Row.ofElement)) (m : String) :
    m ∈ (analyzeDependencies c path depth true).1.dependencies ↔
      m ≠ "" ∧ ∃ i ∈ topImports tree, shownModule path text.toList i = m := by
  simp only [analyzeDependencies_fst, dependenciesIn_eq, if_true]
  rw [distinct, List.mem_eraseDups, (lookupPath_eq_self_iff path).mpr hroot, mem_importedModules]
  refine and_congr_right fun _ => ⟨?_, ?_⟩
  · rintro ⟨r, hr, hpath, hkind, rfl⟩
    obtain ⟨e, he, rfl⟩ := List.mem_map.mp ((hstored r hpath hkind).mp hr)
    obtain ⟨i, hi, rfl⟩ := (mem_moduleElements_iff hkind).mp he
    exact ⟨i, hi, rfl⟩
  · rintro ⟨i, hi, rfl⟩
    have he : Source.importElement ⟨path, lookupPath path, lines text.toList⟩ i.1 i.2 ∈
        moduleElements path text.toList tree := (mem_moduleElements_iff rfl).mpr ⟨i, hi, rfl⟩
    exact ⟨_, (hstored _ rfl rfl).mpr (List.mem_map_of_mem he), rfl, rfl, rfl⟩

/-- What is attached to a name is no part of the name of a module. -/
lemma attached_eq_nil {text : List Char} {span : Span} {m w : List Char}
    (hw : ∀ c ∈ w, continuesName c = true ∨ c = '.') (h : w = m ++ attached text span) :
    attached text span = [] := by
  cases hrest : (wordAt text span 1).dropWhile continuesName with
  | nil => simp [attached, hrest]
  | cons c rest =>
    have hname : continuesName c = false := eq_false_of_head?_dropWhile (by rw [hrest]; rfl)
    by_cases hc : c = '.'
    · simp [attached, hrest, hc]
    · have hmem : c ∈ w := by simp [h, attached, hrest, hc]
      rcases hw c hmem with hcontinues | hdot
      · rw [hname] at hcontinues
        cases hcontinues
      · exact absurd hdot hc

lemma exists_of_any_parse {text : String} {p : Node → Bool}
    (h : (parse text.toList).toOption.any p = true) :
    ∃ tree, parse text.toList = .ok tree ∧ p tree = true := by
  obtain ⟨tree, htree, hp⟩ := (Option.any_eq_true _ _).mp h
  refine ⟨tree, ?_, hp⟩
  cases hparse : parse text.toList with
  | ok tree' =>
    rw [hparse] at htree
    cases htree
    rfl
  | error f =>
    rw [hparse] at htree
    cases htree

/-- If the elements of a script start on different lines, then the script is stored as it is built. -/
lemma readableRows_store {s : ScriptText} {tree : Node} (hparse : parse s.text.toList = .ok tree)
    (hapart : (moduleElements s.path s.text.toList tree).Pairwise StartApart)
    (hfits : ∀ e ∈ moduleElements s.path s.text.toList tree, (Row.ofElement e).storable = true) :
    (Catalog.fresh.store s.elements).2.readableRows =
      (moduleElements s.path s.text.toList tree).map Row.ofElement := by
  have helements : moduleElements s.path s.text.toList tree = s.elements := by
    unfold ScriptText.elements indexScript
    dsimp only
    rw [hparse]
  rw [helements] at hapart hfits ⊢
  have hids : (([s].flatMap (·.elements)).map (·.id)).Nodup :=
    nodup_ids (by simp) (by simpa using hapart)
  rw [List.flatMap_singleton] at hids
  have hempty : Catalog.fresh.Holds [] [] := ⟨_, rfl, rfl, rfl⟩
  obtain ⟨done, _, ⟨new, _, hgrown⟩, ⟨_, rfl⟩ | herror⟩ := hempty.store s.elements
  · rw [Catalog.readableRows, hgrown.rows_eq, Tables.upsertElements_of_nodup [] hids]
    rfl
  · cases herror.symm.trans (hempty.store_ok hfits)

/-- The dependencies of a script in the root whose imports are stored as they are built. They are the
modules that the lines of the imports show. If all imports are written plainly, they are the modules that
the imports ask for exactly if nothing is attached to a module's name, and every module is the first that
some import asks for. -/
theorem dependencies_name_imports_iff {c : Catalog} {path text : String} {tree : Node} (depth : Int)
    (hroot : '/' ∉ path.toList) (hparse : parse text.toList = .ok tree)
    (hstored : ∀ r : Row, r.filePath = path → r.kind = .importing →
      (r ∈ c.readableRows ↔ r ∈ (moduleElements path text.toList tree).map Row.ofElement)) :
    let found := (analyzeDependencies c path depth true).1.dependencies
    (∀ m, m ∈ found ↔ m ≠ "" ∧ ∃ i ∈ topImports tree, shownModule path text.toList i = m) ∧
    (EndsLines text.toList → (∀ i ∈ topImports tree, IsPlain text.toList i) →
      ((∀ m, m ∈ found ↔ ∃ i ∈ topImports tree, m ∈ requiredModules i.1) ↔
        (∀ i ∈ topImports tree, attached text.toList i.2 = []) ∧
        ∀ i ∈ topImports tree, ∀ m ∈ requiredModules i.1,
          ∃ j ∈ topImports tree, (requiredModules j.1).head? = some m)) := by
  intro found
  have hfound := mem_dependencies_iff depth hroot hstored
  refine ⟨hfound, fun hends hplain => ?_⟩
  have hmem : ∀ m, m ∈ found ↔ ∃ i ∈ topImports tree, shownModule path text.toList i = m := by
    intro m
    refine (hfound m).trans (and_iff_right_of_imp ?_)
    rintro ⟨i, hi, rfl⟩
    exact (hplain i hi).shownModule_ne hends hparse hi path
  have hhead := fun i hi hnone => (hplain i hi).head?_required hends hparse hi hnone path
  constructor
  · intro hsame
    have hnone : ∀ i ∈ topImports tree, attached text.toList i.2 = [] := by
      intro i hi
      obtain ⟨m, _, _, hshown⟩ := (hplain i hi).exists_required hends hparse hi path
      obtain ⟨j, hj, hrequired⟩ := (hsame _).mp ((hmem _).mpr ⟨i, hi, rfl⟩)
      exact attached_eq_nil (namePart_of_required hparse hj hrequired) hshown
    refine ⟨hnone, fun i hi m hm => ?_⟩
    obtain ⟨j, hj, rfl⟩ := (hmem m).mp ((hsame m).mpr ⟨i, hi, hm⟩)
    exact ⟨j, hj, hhead j hj (hnone j hj)⟩
  · rintro ⟨hnone, hcovered⟩ m
    rw [hmem]
    constructor
    · rintro ⟨i, hi, rfl⟩
      exact ⟨i, hi, List.mem_of_head? (hhead i hi (hnone i hi))⟩
    · rintro ⟨i, hi, hm⟩
      obtain ⟨j, hj, hfirst⟩ := hcovered i hi m hm
      exact ⟨j, hj, Option.some.inj ((hhead j hj (hnone j hj)).symm.trans hfirst)⟩

/-- A script with imports of several kinds, one of them for two modules. -/
def errands : ScriptText where
  path := "run.py"
  text := "import os.path as p\nimport sys  # and no more\nfrom collections.abc import Set, Sized\n\n" ++
    "from os import (\n    sep,\n)\nimport json.decoder, os\n"
  isScript := by decide

theorem errands_dependencies :
    let c := (Catalog.fresh.store errands.elements).2
    (∃ tree, parse errands.text.toList = .ok tree ∧
      ∀ i ∈ topImports tree, IsPlain errands.text.toList i ∧ attached errands.text.toList i.2 = []) ∧
    ∀ m, m ∈ (analyzeDependencies c errands.path 2 true).1.dependencies ↔
      m ∈ ["os", "sys", "collections.abc", "os", "json", "os"] := by
  intro c
  have hall : (parse errands.text.toList).toOption.any (fun tree => decide (
      (moduleElements errands.path errands.text.toList tree).Pairwise StartApart ∧
      (∀ e ∈ moduleElements errands.path errands.text.toList tree, (Row.ofElement e).storable = true) ∧
      (∀ i ∈ topImports tree, IsPlain errands.text.toList i) ∧
      (∀ i ∈ topImports tree, attached errands.text.toList i.2 = []) ∧
      (∀ i ∈ topImports tree, ∀ m ∈ requiredModules i.1,
        ∃ j ∈ topImports tree, (requiredModules j.1).head? = some m) ∧
      (topImports tree).flatMap (fun i => requiredModules i.1) =
        ["os", "sys", "collections.abc", "os", "json", "os"])) = true := by
    decide +kernel
  obtain ⟨tree, hparse, htree⟩ := exists_of_any_parse hall
  obtain ⟨hapart, hfits, hplain, hnone, hcovered, hrequired⟩ := of_decide_eq_true htree
  have hrows := readableRows_store hparse hapart hfits
  have himports := dependencies_name_imports_iff 2 (by decide) hparse
    fun r _ _ => iff_of_eq (congrArg (r ∈ ·) hrows)
  have hends : EndsLines errands.text.toList := endsLines_of_not_mem (by decide +kernel)
  have hsame := (himports.2 hends hplain).mpr ⟨hnone, hcovered⟩
  refine ⟨⟨tree, hparse, fun i hi => ⟨hplain i hi, hnone i hi⟩⟩, fun m => ?_⟩
  rw [hsame, ← hrequired, List.mem_flatMap]

/-- A script that imports two modules on one line. -/
def twoModules : ScriptText where
  path := "b.py"
  text := "import os, sys\n"
  isScript := by decide

/-- The second module is lost, and the comma counts as a part of the first. -/
theorem second_module_lost :
    let c := (Catalog.fresh.store twoModules.elements).2
    (∀ m, m ∈ (analyzeDependencies c twoModules.path 2 true).1.dependencies ↔ m = "os,") ∧
    ∃ tree, parse twoModules.text.toList = .ok tree ∧
      (topImports tree).map (fun i => requiredModules i.1) = [["os", "sys"]] := by
  intro c
  have hall : (parse twoModules.text.toList).toOption.any (fun tree => decide (
      (moduleElements twoModules.path twoModules.text.toList tree).Pairwise StartApart ∧
      (∀ e ∈ moduleElements twoModules.path twoModules.text.toList tree,
        (Row.ofElement e).storable = true) ∧
      (topImports tree).map (shownModule twoModules.path twoModules.text.toList) = ["os,"] ∧
      (topImports tree).map (fun i => requiredModules i.1) = [["os", "sys"]])) = true := by
    decide +kernel
  obtain ⟨tree, hparse, htree⟩ := exists_of_any_parse hall
  obtain ⟨hapart, hfits, hshown, hrequired⟩ := of_decide_eq_true htree
  have hrows := readableRows_store hparse hapart hfits
  refine ⟨fun m => ?_, tree, hparse, hrequired⟩
  rw [mem_dependencies_iff 2 (by decide) fun r _ _ => iff_of_eq (congrArg (r ∈ ·) hrows),
    ← List.mem_map, hshown, List.mem_singleton]
  exact and_iff_right_of_imp fun h => h ▸ by decide

end CodeAtlas.Index
