import CodeAtlas.Proofs.Globs

/-!
# Searching the catalog

A search looks at the rows of a kind whose names are like a pattern and whose paths contain a scope. They
are put in order, those with long paths first, and the first fifty are looked at. Of rows that show the
same to a reader the first is kept, which has the longest path.

No row is missed whose name fits the shell pattern. Other names are found as well if the pattern has
characters with a meaning for the database. And since the rows that show the same are taken together
after the others are cut off, a row may be hidden though there is room for it.
-/

namespace CodeAtlas

open CodeAtlas.Text

/-! ### What a reader sees of a row -/

/-- An element shows what a row says. -/
structure Element.Shows (e : Element) (r : Row) : Prop where
  name : e.name = r.name
  kind : e.kind = r.kind
  content : e.content = r.content

/-- An element is the one that a row was stored for. -/
structure Element.Renders (e : Element) (r : Row) : Prop extends e.Shows r where
  id : e.id = r.id
  filePath : e.filePath = r.filePath
  lineStart : e.location.lineStart = r.lineStart
  lineEnd : e.location.lineEnd = r.lineEnd

/-- Two elements show the same. -/
def Element.Alike (a b : Element) : Prop :=
  a.name = b.name ∧ a.kind = b.kind ∧ a.content = b.content

/-- An element comes before another in an answer: its path is longer, or as long and its name comes
first. -/
def Element.Leads (a b : Element) : Prop :=
  b.filePath.length < a.filePath.length ∨ a.filePath.length = b.filePath.length ∧ a.name ≤ b.name

lemma Row.toElement_renders (r : Row) : r.toElement.Renders r where
  name := rfl
  kind := rfl
  content := rfl
  id := rfl
  filePath := rfl
  lineStart := rfl
  lineEnd := rfl

/-- What the database compares in a row has no null characters. -/
structure Row.Unbroken (r : Row) : Prop where
  name : Text.Unbroken r.name.toList
  filePath : Text.Unbroken r.filePath.toList

namespace Catalog

variable {c : Catalog} {rows rs : List Row} {kind : String} {pattern scope : List Char} {a b r s : Row}

/-! ### The rows that answer -/

/-- What the database is given for a shell pattern: a percent sign for every star and an underscore for
every question mark. A pattern with neither is put between percent signs. -/
def translated (pattern : List Char) : List Char :=
  if '*' ∈ pattern ∨ '?' ∈ pattern then
    pattern.map fun c => if c = '*' then '%' else if c = '?' then '_' else c
  else '%' :: pattern ++ ['%']

lemma namePattern_eq_translated (pattern : List Char) : namePattern pattern = translated pattern := by
  unfold translated
  split
  · exact namePattern_of_isWild ‹_›
  · exact namePattern_of_not_isWild ‹_›

/-- A row answers a question, as the database reads it. -/
structure Answers (kind : String) (pattern scope : List Char) (r : Row) : Prop where
  kind : r.kind.label = kind
  name : Matches (likeWildcards (translated pattern)) r.name.toList
  path : Matches (likeWildcards ('%' :: scope ++ ['%'])) r.filePath.toList

instance : Decidable (Answers kind pattern scope r) :=
  decidable_of_iff
    (r.kind.label = kind ∧
      matchesWildcards (likeWildcards (translated pattern)) r.name.toList = true ∧
      matchesWildcards (likeWildcards ('%' :: scope ++ ['%'])) r.filePath.toList = true)
    (by
      rw [matchesWildcards_iff, matchesWildcards_iff]
      exact ⟨fun h => ⟨h.1, h.2.1, h.2.2⟩, fun h => ⟨h.kind, h.name, h.path⟩⟩)

/-- An empty scope is in every path. -/
lemma matches_containing_nil (path : List Char) : Matches (likeWildcards (containing [])) path :=
  matches_containing_iff.mpr ⟨path, [], [], by simp, .nil⟩

lemma isWanted_iff (hpattern : Unbroken pattern) (hscope : Unbroken scope) (hr : r.Unbroken) :
    isWanted kind pattern scope r = true ↔ Answers kind pattern scope r := by
  rw [isWanted, Bool.and_eq_true, Bool.and_eq_true, Bool.or_eq_true, beq_iff_eq, List.isEmpty_iff,
    isLike_iff_matches hpattern.namePattern hr.name,
    isLike_iff_matches hscope.containing hr.filePath, namePattern_eq_translated]
  constructor
  · rintro ⟨⟨hkind, hname⟩, rfl | hpath⟩
    · exact ⟨hkind, hname, matches_containing_nil _⟩
    · exact ⟨hkind, hname, hpath⟩
  · intro h
    exact ⟨⟨h.kind, h.name⟩, Or.inr h.path⟩

/-- No row is missed whose name fits the pattern and whose path includes the scope. -/
lemma answers_of_fits (hkind : r.kind.label = kind) (hname : Fits pattern r.name.toList)
    (hpath : Includes r.filePath.toList scope) : Answers kind pattern scope r :=
  ⟨hkind, namePattern_eq_translated pattern ▸ hname.like, hpath.like⟩

/-! ### Their order -/

/-- The length of a path, as the database sees it. -/
def seenLength (r : Row) : Nat :=
  (beforeNull r.filePath.toList).length

lemma precedes_iff : precedes a b = true ↔
    seenLength b < seenLength a ∨ seenLength a = seenLength b ∧ a.name ≤ b.name := by
  simp [precedes, seenLength]

lemma precedes_trans (a b s : Row) (hab : precedes a b = true) (hbs : precedes b s = true) :
    precedes a s = true := by
  rw [precedes_iff] at hab hbs ⊢
  rcases hab with hab | ⟨hab, hnames⟩
  · rcases hbs with hbs | ⟨hbs, _⟩
    · exact Or.inl (hbs.trans hab)
    · exact Or.inl (hbs ▸ hab)
  · rcases hbs with hbs | ⟨hbs, hnames'⟩
    · exact Or.inl (hab ▸ hbs)
    · exact Or.inr ⟨hab.trans hbs, String.le_trans hnames hnames'⟩

lemma precedes_total (a b : Row) : (precedes a b || precedes b a) = true := by
  rw [Bool.or_eq_true, precedes_iff, precedes_iff]
  rcases Nat.lt_trichotomy (seenLength a) (seenLength b) with hlt | heq | hgt
  · exact Or.inr (Or.inl hlt)
  · rcases String.le_total a.name b.name with hle | hle
    · exact Or.inl (Or.inr ⟨heq, hle⟩)
    · exact Or.inr (Or.inr ⟨heq.symm, hle⟩)
  · exact Or.inl (Or.inl hgt)

lemma seenLength_eq (hr : r.Unbroken) : seenLength r = r.filePath.length := by
  rw [seenLength, beforeNull_eq_self hr.filePath, String.length_toList]

lemma leads_toElement (ha : a.Unbroken) (hb : b.Unbroken) (h : precedes a b = true) :
    a.toElement.Leads b.toElement := by
  rwa [precedes_iff, seenLength_eq ha, seenLength_eq hb] at h

/-- All rows that a search asks for, in the order in which it looks at them. Rows with equally long paths
and the same name stand as in the table. -/
def ranked (rows : List Row) (kind : String) (pattern scope : List Char) : List Row :=
  (rows.filter (isWanted kind pattern scope)).mergeSort precedes

lemma mem_ranked_iff :
    r ∈ ranked rows kind pattern scope ↔ r ∈ rows ∧ isWanted kind pattern scope r = true := by
  rw [ranked, List.mem_mergeSort, List.mem_filter]

lemma pairwise_ranked :
    (ranked rows kind pattern scope).Pairwise fun a b => precedes a b = true := by
  rw [ranked]
  exact List.pairwise_mergeSort precedes_trans precedes_total _

lemma length_ranked :
    (ranked rows kind pattern scope).length = rows.countP (isWanted kind pattern scope) := by
  rw [ranked, List.length_mergeSort, List.countP_eq_length_filter]

/-! ### Rows that show the same -/

lemma sameShown_iff :
    sameShown a b = true ↔ a.name = b.name ∧ a.kind = b.kind ∧ a.content = b.content := by
  simp [sameShown, and_assoc]

lemma sameShown_refl (r : Row) : sameShown r r = true :=
  sameShown_iff.mpr ⟨rfl, rfl, rfl⟩

lemma sameShown_trans (hab : sameShown a b = true) (hbs : sameShown b s = true) :
    sameShown a s = true := by
  rw [sameShown_iff] at hab hbs ⊢
  exact ⟨hab.1.trans hbs.1, hab.2.1.trans hbs.2.1, hab.2.2.trans hbs.2.2⟩

lemma alike_toElement_iff : a.toElement.Alike b.toElement ↔ sameShown a b = true :=
  sameShown_iff.symm

lemma shows_toElement_iff : a.toElement.Shows b ↔ sameShown a b = true := by
  rw [sameShown_iff]
  exact ⟨fun h => ⟨h.name, h.kind, h.content⟩, fun h => ⟨h.1, h.2.1, h.2.2⟩⟩

lemma shows_of_sameShown {e : Element} (he : e.Shows s) (h : sameShown s r = true) : e.Shows r := by
  obtain ⟨hname, hkind, hcontent⟩ := sameShown_iff.mp h
  exact ⟨he.name.trans hname, he.kind.trans hkind, he.content.trans hcontent⟩

lemma firstShown_sublist (rs : List Row) : (firstShown rs).Sublist rs := by
  induction rs with
  | nil => exact List.Sublist.slnil
  | cons r rs ih => exact (List.filter_sublist.trans ih).cons_cons r

lemma pairwise_firstShown (rs : List Row) :
    (firstShown rs).Pairwise fun a b => ¬ sameShown a b = true := by
  induction rs with
  | nil => exact List.Pairwise.nil
  | cons r rs ih =>
    rw [firstShown, List.pairwise_cons]
    refine ⟨fun s hs => ?_, ih.filter _⟩
    simpa using (List.mem_filter.mp hs).2

/-- For each row there is one in the answer that shows the same and comes no later. -/
lemma exists_mem_firstShown {before : Row → Row → Prop} (hbefore : rs.Pairwise before) (hr : r ∈ rs) :
    ∃ s ∈ firstShown rs, sameShown s r = true ∧ (s = r ∨ before s r) := by
  induction rs with
  | nil => cases hr
  | cons h rs ih =>
    rw [List.pairwise_cons] at hbefore
    rcases List.mem_cons.mp hr with rfl | hr
    · exact ⟨r, List.mem_cons_self, sameShown_refl r, Or.inl rfl⟩
    obtain ⟨s, hs, hsame, horder⟩ := ih hbefore.2 hr
    by_cases hfirst : sameShown h s = true
    · -- The head takes the place of the one found behind it.
      exact ⟨h, List.mem_cons_self, sameShown_trans hfirst hsame, Or.inr (hbefore.1 r hr)⟩
    · refine ⟨s, List.mem_cons_of_mem h (List.mem_filter.mpr ⟨hs, ?_⟩), hsame, horder⟩
      simpa using hfirst

/-- Nothing is taken together exactly if no two rows show the same. -/
lemma firstShown_eq_self_iff :
    firstShown rs = rs ↔ rs.Pairwise fun a b => ¬ sameShown a b = true := by
  constructor
  · intro h
    have hpairs := pairwise_firstShown rs
    rwa [h] at hpairs
  · intro h
    induction rs with
    | nil => rfl
    | cons r rs ih =>
      rw [List.pairwise_cons] at h
      rw [firstShown, ih h.2, List.filter_eq_self.mpr]
      intro s hs
      simpa using h.1 s hs

lemma length_firstShown_lt (h : ¬ rs.Pairwise fun a b => ¬ sameShown a b = true) :
    (firstShown rs).length < rs.length := by
  refine lt_of_le_of_ne (firstShown_sublist rs).length_le fun heq => h ?_
  exact firstShown_eq_self_iff.mp ((firstShown_sublist rs).eq_of_length heq)

/-! ### The answer -/

/-- The rows that are looked at. -/
lemma candidates_eq : candidates rows kind pattern scope = (ranked rows kind pattern scope).take 50 :=
  rfl

lemma search_eq (hrows : c.rows = .ok rows) (kind : String) (pattern scope : List Char) :
    c.search kind pattern scope =
      ((firstShown ((ranked rows kind pattern scope).take 50)).map Row.toElement, []) := by
  have hopen : c.tables.isNone = false := by
    cases htables : c.tables with
    | none => simp [Catalog.rows, htables] at hrows
    | some t => rfl
  simp [search, hopen, hrows, candidates_eq]

/-- A row that is found is one of those that a search asks for. -/
lemma mem_rows_of_mem_firstShown (h : r ∈ firstShown ((ranked rows kind pattern scope).take 50)) :
    r ∈ rows ∧ isWanted kind pattern scope r = true :=
  mem_ranked_iff.mp (List.mem_of_mem_take ((firstShown_sublist _).subset h))

/-- What is found for a question. -/
structure Settles (kind : String) (pattern scope : List Char) (rows : List Row)
    (found : List Element) : Prop where
  length_le : found.length ≤ 50
  distinct : found.Pairwise fun a b => ¬ a.Alike b
  ordered : found.Pairwise Element.Leads
  rendered : ∀ e ∈ found, ∃ r ∈ rows, Answers kind pattern scope r ∧ e.Renders r
  /-- If no more than fifty rows answer, none is lost, and of those that show the same one with the
  longest path is there. -/
  complete : rows.countP (fun r => decide (Answers kind pattern scope r)) ≤ 50 →
    ∀ r ∈ rows, Answers kind pattern scope r →
      ∃ e ∈ found, e.Shows r ∧ r.filePath.length ≤ e.filePath.length

/-- For rows that the database sees as a whole, what is found settles the question. -/
lemma settles_firstShown (hunbroken : ∀ r ∈ rows, r.Unbroken)
    (hwanted : ∀ r ∈ rows, isWanted kind pattern scope r = true ↔ Answers kind pattern scope r) :
    Settles kind pattern scope rows
      ((firstShown ((ranked rows kind pattern scope).take 50)).map Row.toElement) where
  length_le := by
    rw [List.length_map]
    exact (firstShown_sublist _).length_le.trans (List.length_take_le _ _)
  distinct := by
    rw [List.pairwise_map]
    exact (pairwise_firstShown _).imp fun h => mt alike_toElement_iff.mp h
  ordered := by
    rw [List.pairwise_map]
    refine (pairwise_ranked.take.sublist (firstShown_sublist _)).imp_of_mem fun ha hb h => ?_
    exact leads_toElement (hunbroken _ (mem_rows_of_mem_firstShown ha).1)
      (hunbroken _ (mem_rows_of_mem_firstShown hb).1) h
  rendered := by
    intro e he
    obtain ⟨r, hr, rfl⟩ := List.mem_map.mp he
    obtain ⟨hmem, hr⟩ := mem_rows_of_mem_firstShown hr
    exact ⟨r, hmem, (hwanted r hmem).mp hr, r.toElement_renders⟩
  complete := by
    intro hcount r hr hanswers
    have hlength : (ranked rows kind pattern scope).length ≤ 50 := by
      rw [length_ranked, List.countP_congr fun r hr => ?_]
      · exact hcount
      · rw [hwanted r hr, decide_eq_true_eq]
    rw [List.take_of_length_le hlength]
    obtain ⟨s, hs, hsame, horder⟩ := exists_mem_firstShown pairwise_ranked
      (mem_ranked_iff.mpr ⟨hr, (hwanted r hr).mpr hanswers⟩)
    refine ⟨s.toElement, List.mem_map_of_mem hs, shows_toElement_iff.mpr hsame, ?_⟩
    rcases horder with rfl | hbefore
    · exact Nat.le_refl _
    · have hmem := (mem_ranked_iff.mp ((firstShown_sublist _).subset hs)).1
      rcases leads_toElement (hunbroken s hmem) (hunbroken r hr) hbefore with hlt | ⟨heq, _⟩
      · exact hlt.le
      · exact heq.symm.le

/-- A search in a catalog that can be read gives an answer, and the rows that answer include all whose
names fit the shell pattern and whose paths include the scope. -/
theorem search_settles (hrows : c.rows = .ok rows) (hunbroken : ∀ r ∈ rows, r.Unbroken)
    (hpattern : Unbroken pattern) (hscope : Unbroken scope) (kind : String) :
    ∃ found, c.search kind pattern scope = (found, []) ∧ Settles kind pattern scope rows found ∧
      ∀ r ∈ rows, r.kind.label = kind → Fits pattern r.name.toList →
        Includes r.filePath.toList scope → Answers kind pattern scope r :=
  ⟨_, search_eq hrows kind pattern scope,
    settles_firstShown hunbroken fun r hr => isWanted_iff hpattern hscope (hunbroken r hr),
    fun _ _ => answers_of_fits⟩

/-- A function that is stored under a short path and under a long one, one with capitals, one whose name
is found but does not fit, one whose name is not found, and a class. -/
def twofold : List Row :=
  [⟨"a", .function, "calc_sum", "1", "a.py", 1, 2, "python", none, none, none⟩,
    ⟨"b", .function, "Calc_Sum", "1", "lib/b.py", 1, 2, "python", none, none, none⟩,
    ⟨"c", .function, "calc_sum", "1", "src/lib/a.py", 1, 2, "python", none, none, none⟩,
    ⟨"d", .function, "calculus", "2", "lib/d.py", 3, 4, "python", none, none, none⟩,
    ⟨"f", .function, "sum_calc", "4", "lib/f.py", 5, 6, "python", none, none, none⟩,
    ⟨"e", .classDef, "calc_sum", "3", "e.py", 1, 9, "python", none, none, none⟩]

/-- A catalog with given rows. -/
def withRows (rows : List Row) : Catalog where
  tables := some { elements := some rows }

lemma twofold_unbroken : ∀ r ∈ twofold, r.Unbroken := by
  have hchars : twofold.all (fun r => r.name.toList.all (·.toNat != 0) &&
      r.filePath.toList.all (·.toNat != 0)) = true := by decide +kernel
  intro r hr
  have hboth := List.all_eq_true.mp hchars r hr
  rw [Bool.and_eq_true] at hboth
  exact ⟨unbroken_of_all hboth.1, unbroken_of_all hboth.2⟩

/-- Of the rows that show the same, one with the longest path is found. The function with capitals is
found because its name fits, and the one that only ends like the pattern is not. -/
theorem twofold_settled : ∃ found,
    (withRows twofold).search "function" ['c', 'a', 'l', 'c', '_', '*'] ['p', 'y'] = (found, []) ∧
    Settles "function" ['c', 'a', 'l', 'c', '_', '*'] ['p', 'y'] twofold found ∧
    (∃ e ∈ found, e.name = "calc_sum" ∧ 12 ≤ e.filePath.length) ∧
    (∃ e ∈ found, e.name = "Calc_Sum") ∧ ∀ e ∈ found, e.name ≠ "sum_calc" := by
  have hrows : (withRows twofold).rows = .ok twofold := rfl
  have hpattern : Unbroken ['c', 'a', 'l', 'c', '_', '*'] := unbroken_of_all rfl
  have hscope : Unbroken ['p', 'y'] := unbroken_of_all rfl
  obtain ⟨found, hsearch, hsettles, hfit⟩ :=
    search_settles hrows twofold_unbroken hpattern hscope "function"
  have hcomplete := hsettles.complete (List.countP_le_length.trans (by decide))
  have hglobs : Globs ['c', 'a', 'l', 'c', '_', '*'] ['C', 'a', 'l', 'c', '_', 'S', 'u', 'm'] := by
    iterate 5 refine .same (by decide) (by decide) (by decide) ?_
    exact .star ['S', 'u', 'm'] .nil
  have hcapitals := hfit
    ⟨"b", .function, "Calc_Sum", "1", "lib/b.py", 1, 2, "python", none, none, none⟩
    (.tail _ (.head _)) rfl ((fits_of_isWild (by decide)).mpr hglobs) (by unfold Includes; decide)
  obtain ⟨e, he, hshows, hlength⟩ := hcomplete
    ⟨"c", .function, "calc_sum", "1", "src/lib/a.py", 1, 2, "python", none, none, none⟩
    (.tail _ (.tail _ (.head _))) (by decide +kernel)
  obtain ⟨e', he', hshows', _⟩ := hcomplete _ (.tail _ (.head _)) hcapitals
  have hother : ∀ r ∈ twofold, Answers "function" ['c', 'a', 'l', 'c', '_', '*'] ['p', 'y'] r →
      r.name ≠ "sum_calc" := by decide +kernel
  refine ⟨found, hsearch, hsettles, ⟨e, he, hshows.name, hlength⟩, ⟨e', he', hshows'.name⟩, ?_⟩
  intro x hx
  obtain ⟨r, hr, hanswers, hrenders⟩ := hsettles.rendered x hx
  rw [hrenders.name]
  exact hother r hr hanswers

/-! ### Names that do not fit -/

/-- A function of which only the name matters. -/
def named (name : List Char) : Row :=
  ⟨"", .function, String.ofList name, "", "", 0, 0, "", none, none, none⟩

lemma search_single (h : isWanted kind pattern scope r = true) :
    (withRows [r]).search kind pattern scope = ([r.toElement], []) := by
  have hranked : ranked [r] kind pattern scope = [r] := by
    rw [ranked, List.filter_cons_of_pos h, List.filter_nil, List.mergeSort_singleton]
  rw [search_eq rfl, hranked]
  rfl

/-- All names that are found with a pattern fit it, whatever is stored, exactly if no character of the
pattern has a meaning for the database only. The pattern is one that the database takes. -/
theorem search_names_fit_iff (pattern : List Char) :
    (∀ (c : Catalog) (rows : List Row) (kind : String) (scope : List Char), c.rows = .ok rows →
      (∀ r ∈ rows, Unbroken r.name.toList) →
        ∀ e ∈ (c.search kind pattern scope).1, Fits pattern e.name.toList) ↔
    ∀ ch ∈ pattern, ¬ IsForeign ch := by
  constructor
  · intro h ch hch hforeign
    have hname : (named (disguise pattern)).name.toList = disguise pattern := String.toList_ofList
    have hwanted : isWanted "function" pattern [] (named (disguise pattern)) = true := by
      rw [isWanted, hname, isLike_disguise]
      rfl
    have hunbroken : ∀ r ∈ [named (disguise pattern)], Unbroken r.name.toList := by
      intro r hr c hc hnull
      rw [List.mem_singleton.mp hr, hname] at hc
      exact not_isForeign_of_mem_disguise hc (Or.inr (Or.inr hnull))
    have hfits := h (withRows [named (disguise pattern)]) _ "function" [] rfl hunbroken
    rw [search_single hwanted] at hfits
    have hfound := hfits _ List.mem_cons_self
    change Fits pattern (named (disguise pattern)).name.toList at hfound
    rw [hname] at hfound
    exact not_fits_disguise hch hforeign hfound
  · intro h c rows kind scope hrows hunbroken e he
    rw [search_eq hrows] at he
    obtain ⟨r, hr, rfl⟩ := List.mem_map.mp he
    obtain ⟨hmem, hwanted⟩ := mem_rows_of_mem_firstShown hr
    rw [isWanted, Bool.and_eq_true, Bool.and_eq_true] at hwanted
    have hpattern : Unbroken pattern := fun ch hch hnull => h ch hch (Or.inr (Or.inr hnull))
    have hlike := (isLike_iff_matches hpattern.namePattern (hunbroken r hmem)).mp hwanted.1.2
    refine fits_of_like (fun hpercent => ?_) (fun hunder => ?_) hlike
    · exact h '%' hpercent (Or.inl rfl)
    · exact h '_' hunder (Or.inr (Or.inl rfl))

/-- The underscore of a pattern finds any character. -/
theorem underscore_finds_letter :
    ((withRows [named ['a', 'x', 'b']]).search "function" ['a', '_', 'b'] []).1.map (·.name) = ["axb"] ∧
      ¬ Fits ['a', '_', 'b'] ['a', 'x', 'b'] := by
  constructor
  · rw [search_single (by decide +kernel)]
    rfl
  · intro h
    have hmem : '_' ∈ ['a', 'x', 'b'] := h.mem_of_isForeign (by decide) (by decide)
    exact absurd hmem (by decide)

/-! ### Room for more -/

/-- Every row that is looked at is shown. -/
lemma exists_shows_of_mem_take (hrows : c.rows = .ok rows)
    (hr : r ∈ (ranked rows kind pattern scope).take 50) :
    ∃ e ∈ (c.search kind pattern scope).1, e.Shows r := by
  obtain ⟨s, hs, hsame, _⟩ := exists_mem_firstShown pairwise_ranked.take hr
  rw [search_eq hrows]
  exact ⟨s.toElement, List.mem_map_of_mem hs, shows_toElement_iff.mpr hsame⟩

/-- Whatever is shown is that of a row that is looked at. -/
lemma exists_mem_take_of_shows (hrows : c.rows = .ok rows) {e : Element}
    (he : e ∈ (c.search kind pattern scope).1) (hshows : e.Shows r) :
    ∃ s ∈ (ranked rows kind pattern scope).take 50, sameShown s r = true := by
  rw [search_eq hrows] at he
  obtain ⟨s, hs, rfl⟩ := List.mem_map.mp he
  exact ⟨s, (firstShown_sublist _).subset hs, shows_toElement_iff.mp hshows⟩

/-- If there is room for more in an answer, every row that is asked for is shown in it, exactly if the
rows that are looked at all show something else, or show all that the rows behind them show. -/
theorem room_hides_nothing_iff (hrows : c.rows = .ok rows) (kind : String)
    (pattern scope : List Char) :
    ((c.search kind pattern scope).1.length < 50 →
      ∀ r ∈ rows, isWanted kind pattern scope r = true →
        ∃ e ∈ (c.search kind pattern scope).1, e.Shows r) ↔
    ((ranked rows kind pattern scope).take 50).Pairwise (fun a b => ¬ sameShown a b = true) ∨
      ∀ r ∈ (ranked rows kind pattern scope).drop 50,
        ∃ s ∈ (ranked rows kind pattern scope).take 50, sameShown s r = true := by
  have hlength : (c.search kind pattern scope).1.length =
      (firstShown ((ranked rows kind pattern scope).take 50)).length := by
    rw [search_eq hrows, List.length_map]
  constructor
  · intro hroom
    by_cases hdistinct : ((ranked rows kind pattern scope).take 50).Pairwise
        fun a b => ¬ sameShown a b = true
    · exact Or.inl hdistinct
    -- Something is taken together, so that there is room.
    have hlt : (c.search kind pattern scope).1.length < 50 := by
      rw [hlength]
      exact (length_firstShown_lt hdistinct).trans_le (List.length_take_le 50 _)
    refine Or.inr fun r hr => ?_
    obtain ⟨hmem, hwanted⟩ := mem_ranked_iff.mp (List.mem_of_mem_drop hr)
    obtain ⟨e, he, hshows⟩ := hroom hlt r hmem hwanted
    exact exists_mem_take_of_shows hrows he hshows
  · intro h hlt r hmem hwanted
    have hr := mem_ranked_iff.mpr ⟨hmem, hwanted⟩
    rw [← List.take_append_drop 50 (ranked rows kind pattern scope), List.mem_append] at hr
    rcases hr with hr | hr
    · exact exists_shows_of_mem_take hrows hr
    rcases h with hdistinct | hcovered
    · -- All that is looked at is found, so there is nothing behind it.
      rw [hlength, firstShown_eq_self_iff.mpr hdistinct, List.length_take] at hlt
      rw [List.drop_eq_nil_of_le (by omega)] at hr
      cases hr
    · obtain ⟨s, hs, hsame⟩ := hcovered r hr
      obtain ⟨e, he, hshows⟩ := exists_shows_of_mem_take hrows hs
      exact ⟨e, he, shows_of_sameShown hshows hsame⟩

/-- One of many copies of a function. -/
def copyOf (i : Nat) : Row :=
  ⟨toString i, .function, "f", "", "copies/f.py", 1, 1, "python", none, none, none⟩

/-- Another function, under a shorter path. -/
def other : Row :=
  ⟨"g", .function, "g", "", "g.py", 1, 1, "python", none, none, none⟩

/-- Fifty copies of a function, and another one. -/
def crowd : List Row :=
  (List.range 50).map copyOf ++ [other]

lemma mem_crowd_iff : r ∈ crowd ↔ (∃ i < 50, copyOf i = r) ∨ r = other := by
  simp [crowd]

lemma isWanted_copyOf (i : Nat) : isWanted "function" ['*'] [] (copyOf i) = true := by
  dsimp only [isWanted, copyOf]
  decide +kernel

lemma isWanted_other : isWanted "function" ['*'] [] other = true := by decide +kernel

/-- The copies are asked for and come first. -/
lemma ranked_crowd : ranked crowd "function" ['*'] [] = crowd := by
  have hall : crowd.filter (isWanted "function" ['*'] []) = crowd := by
    rw [List.filter_eq_self]
    intro r hr
    rcases mem_crowd_iff.mp hr with ⟨i, _, rfl⟩ | rfl
    · exact isWanted_copyOf i
    · exact isWanted_other
  have hcopies : ∀ i j, precedes (copyOf i) (copyOf j) = true := by
    intro i j
    exact precedes_iff.mpr (Or.inr ⟨rfl, String.le_refl "f"⟩)
  have hother : ∀ i, precedes (copyOf i) other = true := by
    intro i
    refine precedes_iff.mpr (Or.inl ?_)
    change (beforeNull "g.py".toList).length < (beforeNull "copies/f.py".toList).length
    decide +kernel
  rw [ranked, hall]
  refine List.mergeSort_of_pairwise ?_
  rw [crowd, List.pairwise_append, List.pairwise_map]
  refine ⟨List.pairwise_of_forall hcopies, List.pairwise_singleton _ _, ?_⟩
  intro a ha b hb
  obtain ⟨i, _, rfl⟩ := List.mem_map.mp ha
  rw [List.mem_singleton.mp hb]
  exact hother i

lemma take_crowd : crowd.take 50 = (List.range 50).map copyOf :=
  List.take_left' (by simp)

lemma drop_crowd : crowd.drop 50 = [other] :=
  List.drop_left' (by simp)

theorem crowded_hides :
    (withRows crowd).rows = .ok crowd ∧
    ¬ (((withRows crowd).search "function" ['*'] []).1.length < 50 →
      ∀ r ∈ crowd, isWanted "function" ['*'] [] r = true →
        ∃ e ∈ ((withRows crowd).search "function" ['*'] []).1, e.Shows r) := by
  have hrows : (withRows crowd).rows = .ok crowd := rfl
  have hiff := room_hides_nothing_iff hrows "function" ['*'] []
  rw [ranked_crowd, take_crowd, drop_crowd] at hiff
  refine ⟨hrows, fun hroom => ?_⟩
  rcases hiff.mp hroom with hdistinct | hcovered
  · rw [List.pairwise_map] at hdistinct
    exact List.rel_of_pairwise_cons hdistinct (List.mem_cons_self) rfl
  · obtain ⟨s, hs, hsame⟩ := hcovered other List.mem_cons_self
    obtain ⟨i, _, rfl⟩ := List.mem_map.mp hs
    have hname : "f" = "g" := (sameShown_iff.mp hsame).1
    exact absurd hname (by decide)

/-- Though there is room for it, the other function is not shown. -/
theorem other_is_hidden :
    ((withRows crowd).search "function" ['*'] []).1.length = 1 ∧ other ∈ crowd ∧
      isWanted "function" ['*'] [] other = true ∧
      ∀ e ∈ ((withRows crowd).search "function" ['*'] []).1, ¬ e.Shows other := by
  have hfirst : firstShown ((List.range 50).map copyOf) = [copyOf 0] := by decide +kernel
  rw [search_eq rfl, ranked_crowd, take_crowd, hfirst]
  refine ⟨rfl, mem_crowd_iff.mpr (Or.inr rfl), isWanted_other, fun e he hshows => ?_⟩
  rw [List.map_singleton, List.mem_singleton] at he
  subst he
  exact absurd hshows.name (by decide)

end Catalog

end CodeAtlas
