import CodeAtlas.Index.Overview
import CodeAtlas.Proofs.Dependencies
import CodeAtlas.Proofs.Discovery

/-!
# More detail hides nothing

The levels of detail differ in what they leave out, and each is worded in its own way: a module may be
told by its path as it is written or by the path in lower case, a class by its name or by its file. Still
everything that one level shows is shown at the next.

Components and files are shown without repeats and in order, so that what a level leaves out does not
move the rest.
-/

namespace CodeAtlas

namespace Text

/-! ### Small letters in lower case -/

/-- A character that is its own lower case, wherever it stands. -/
def IsSmall (c : Char) : Prop :=
  c.toNat < 128 ∧ c.toLower = c

instance (c : Char) : Decidable (IsSmall c) :=
  inferInstanceAs (Decidable (_ ∧ _))

/-- What a text is put behind does not change its lower case, except for the neighbours it has. -/
lemma exists_lowerFrom_append (before front cs : List Char) :
    ∃ lowered, lowerFrom before (front ++ cs) =
      lowered ++ lowerFrom (front.reverse ++ before) cs := by
  induction front generalizing before with
  | nil => exact ⟨[], by simp⟩
  | cons c front ih =>
    obtain ⟨lowered, hlowered⟩ := ih (c :: before)
    rw [List.cons_append, lowerFrom, hlowered]
    simp only [List.reverse_cons, List.append_assoc, List.singleton_append]
    split
    · exact ⟨_ :: lowered, rfl⟩
    · exact ⟨lowerChar c ++ lowered, by simp⟩

lemma lowerFrom_small_append {part : List Char} (hpart : ∀ c ∈ part, IsSmall c)
    (before cs : List Char) :
    lowerFrom before (part ++ cs) = part ++ lowerFrom (part.reverse ++ before) cs := by
  induction part generalizing before with
  | nil => simp
  | cons c part ih =>
    obtain ⟨hascii, hlower⟩ := hpart c List.mem_cons_self
    have hsigma : c ≠ 'Σ' := by
      rintro rfl
      exact absurd hascii (by decide)
    have hrest := ih (fun d hd => hpart d (List.mem_cons_of_mem c hd)) (c :: before)
    simp [lowerFrom, hsigma, lowerChar, hascii, hlower, hrest]

/-- Small letters that a text contains are in its lower case. -/
lemma infix_toLower {part cs : List Char} (hpart : ∀ c ∈ part, IsSmall c) (h : part <:+: cs) :
    part <:+: toLower cs := by
  obtain ⟨front, rest, rfl⟩ := h
  obtain ⟨lowered, hlowered⟩ := exists_lowerFrom_append [] front (part ++ rest)
  rw [toLower, List.append_assoc, hlowered, lowerFrom_small_append hpart, ← List.append_assoc]
  exact ⟨lowered, _, rfl⟩

end Text

/-! ### Parts of ordered lists -/

lemma distinct_sublist {α : Type} [BEq α] (xs : List α) : (distinct xs).Sublist xs := by
  match xs with
  | [] => exact List.Sublist.refl _
  | x :: xs =>
    rw [distinct_cons]
    apply List.Sublist.cons_cons
    exact (distinct_sublist (xs.filter fun y => !y == x)).trans List.filter_sublist
termination_by xs.length
decreasing_by
  have hle := List.length_filter_le (fun y => !y == x) xs
  simp only [List.length_cons]
  omega

/-- Fewer texts in the same order are still fewer without repeats. -/
lemma distinct_sublist_distinct {xs ys : List String} (hsub : xs ⊆ ys)
    (hxs : xs.Pairwise (· ≤ ·)) (hys : ys.Pairwise (· ≤ ·)) :
    (distinct xs).Sublist (distinct ys) := by
  have hmem : distinct xs ⊆ distinct ys := by
    intro x hx
    exact mem_distinct.mpr (hsub (mem_distinct.mp hx))
  exact List.sublist_of_subperm_of_pairwise ((nodup_distinct xs).subperm hmem)
    (hxs.sublist (distinct_sublist xs)) (hys.sublist (distinct_sublist ys))

lemma pairwise_map_sortOn {α : Type} (key : α → String) (xs : List α) :
    ((sortOn key xs).map key).Pairwise (· ≤ ·) := by
  rw [List.pairwise_map]
  exact pairwise_sortOn (fun _ _ _ => String.le_trans) String.le_total key xs

namespace Index

open CodeAtlas.Text

variable {file : String}

/-! ### Modules -/

lemma containsAny_iff {parts : List String} {cs : List Char} :
    containsAny parts cs = true ↔ ∃ p ∈ parts, p.toList <:+: cs := by
  simp only [containsAny, List.any_eq_true, contains_eq_true_iff]

/-- The name of the project is written in small letters. -/
lemma showsModule_medium (h : showsModule .low file = true) : showsModule .medium file = true := by
  simp only [showsModule, Bool.and_eq_true, containsAny_iff] at h ⊢
  obtain ⟨haux, name, hname, hinfix⟩ := h
  obtain rfl := List.mem_singleton.mp hname
  have hsmall : "contextbrain".toList.all (fun c => decide (IsSmall c)) = true := by decide +kernel
  refine ⟨haux, "contextbrain", by simp, ?_⟩
  exact infix_toLower (by simpa using hsmall) hinfix

lemma showsModule_high (h : showsModule .medium file = true) : showsModule .high file = true := by
  simp only [showsModule, Bool.and_eq_true] at h ⊢
  exact ⟨h.1, trivial⟩

lemma modules_sublist {less more : Detail}
    (h : ∀ file, showsModule less file = true → showsModule more file = true) (rows : List Row)
    (focus : String) :
    (overviewOf rows focus less).modules.Sublist (overviewOf rows focus more).modules := by
  apply List.Sublist.filter
  exact List.monotone_filter_right _ h

/-! ### Components and relationships -/

lemma isHidden_high (file : String) : isHidden .high file = false := rfl

/-- The classes that are shown, by their names, with their files. -/
def shownClasses (rows : List Row) (detail : Detail) : List (String × String) :=
  (sortOn (·.1) (distinct ((rows.filter (·.kind == .classDef)).map fun r =>
    (r.name, r.filePath)))).filter fun c => isComponent c.1 c.2 && !isHidden detail c.2

lemma componentsIn_eq (rows : List Row) (detail : Detail) :
    componentsIn rows detail = distinct ((shownClasses rows detail).map (·.1)) := rfl

lemma shownClasses_sublist (rows : List Row) (detail : Detail) :
    (shownClasses rows detail).Sublist (shownClasses rows .high) := by
  apply List.monotone_filter_right
  intro c hc
  simp only [Bool.and_eq_true] at hc
  simp [hc.1, isHidden_high]

lemma pairwise_shownClasses (rows : List Row) (detail : Detail) :
    ((shownClasses rows detail).map (·.1)).Pairwise (· ≤ ·) :=
  (pairwise_map_sortOn _ _).sublist (List.filter_sublist.map _)

lemma componentsIn_sublist (rows : List Row) (detail : Detail) :
    (componentsIn rows detail).Sublist (componentsIn rows .high) := by
  simp only [componentsIn_eq]
  apply distinct_sublist_distinct
  · exact ((shownClasses_sublist rows detail).map _).subset
  · exact pairwise_shownClasses rows detail
  · exact pairwise_shownClasses rows .high

/-- The imports inside the project, by their files. -/
def insideImports (rows : List Row) : List Row :=
  sortOn (·.filePath) (rows.filter fun r =>
    r.kind == .importing && isLike "%contextbrain%".toList r.name.toList)

/-- The files with such imports that are shown. -/
def shownFiles (rows : List Row) (detail : Detail) : List String :=
  ((insideImports rows).filter fun r => !isHidden detail r.filePath).map (·.filePath)

/-- A file is shown with all of its imports, or not at all. -/
lemma relationshipsIn_eq (rows : List Row) (detail : Detail) :
    relationshipsIn rows detail = (distinct (shownFiles rows detail)).map fun file =>
      (file, distinct (((insideImports rows).filter (·.filePath == file)).map
        fun r => bareImport r.name)) := by
  apply List.map_congr_left
  intro file hfile
  obtain ⟨s, hs, rfl⟩ := List.mem_map.mp (mem_distinct.mp hfile)
  have hshown := (List.mem_filter.mp hs).2
  have hsame : ((insideImports rows).filter fun r => !isHidden detail r.filePath).filter
      (·.filePath == s.filePath) = (insideImports rows).filter (·.filePath == s.filePath) := by
    rw [List.filter_filter]
    apply List.filter_congr
    intro r _
    by_cases hr : r.filePath = s.filePath
    · simpa [hr] using hshown
    · simp [hr]
  rw [← hsame]
  rfl

lemma relationshipsIn_sublist (rows : List Row) (detail : Detail) :
    (relationshipsIn rows detail).Sublist (relationshipsIn rows .high) := by
  have hordered : ∀ detail, (shownFiles rows detail).Pairwise (· ≤ ·) := by
    intro detail
    exact (pairwise_map_sortOn _ _).sublist (List.filter_sublist.map _)
  have hfiles : (shownFiles rows detail).Sublist (shownFiles rows .high) := by
    apply List.Sublist.map
    apply List.monotone_filter_right
    intro r _
    simp [isHidden_high]
  simp only [relationshipsIn_eq]
  exact (distinct_sublist_distinct hfiles.subset (hordered detail) (hordered .high)).map _

/-- No file has two entries. -/
lemma nodup_relationshipsIn (rows : List Row) (detail : Detail) :
    ((relationshipsIn rows detail).map (·.1)).Nodup := by
  rw [relationshipsIn_eq, List.map_map]
  simpa [Function.comp_def] using nodup_distinct (shownFiles rows detail)

/-! ### Overviews -/

/-- The numbers that do not depend on what is shown: of elements, of files, and of elements of each
kind. -/
def Metrics.totals (m : Metrics) : Nat × Nat × List (String × Nat) :=
  (m.elements, m.files, m.kinds)

/-- A text lies in focus if it contains the focus in either case. An empty focus lets every text
through. -/
def InFocus (focus text : String) : Prop :=
  focus = "" ∨ toLower focus.toList <:+: toLower text.toList

lemma inFocus_iff {focus text : String} : inFocus focus text = true ↔ InFocus focus text := by
  simp only [inFocus, InFocus, Bool.or_eq_true, String.isEmpty_iff, contains_eq_true_iff]

lemma isAuxiliary_eq_false_iff : isAuxiliary file = false ↔
    ∀ word ∈ ["test", "debug", "diagnose"], ¬ word.toList <:+: toLower file.toList := by
  rw [← Bool.not_eq_true, isAuxiliary, containsAny_iff]
  simp only [not_exists, not_and]

lemma isComponent_iff {name : String} : isComponent name file = true ↔
    (∃ word ∈ architecturalWords, word.toList <:+: toLower name.toList) ∨
      ∃ part ∈ ["contextbrain", "main", "config"], part.toList <:+: file.toList := by
  rw [isComponent, Bool.or_eq_true, containsAny_iff, containsAny_iff]

/-- An overview shows whatever is in focus: all modules without the words for tests and for finding errors
in their paths, all classes with a word of the architecture in their names or a word of the project in
their paths, and all files with imports inside the project. -/
structure Overview.ShowsAll (o : Overview) (rows : List Row) (focus : String) : Prop where
  modules : ∀ file, file ∈ o.modules ↔ InFocus focus file ∧
    (∀ word ∈ ["test", "debug", "diagnose"], ¬ word.toList <:+: toLower file.toList) ∧
    ∃ r ∈ rows, r.kind = .module ∧ r.filePath = file
  components : ∀ name, name ∈ o.components ↔ InFocus focus name ∧
    ∃ r ∈ rows, r.kind = .classDef ∧ r.name = name ∧
      ((∃ word ∈ architecturalWords, word.toList <:+: toLower r.name.toList) ∨
        ∃ part ∈ ["contextbrain", "main", "config"], part.toList <:+: r.filePath.toList)
  relationships : ∀ file, file ∈ o.relationships.map (·.1) ↔ InFocus focus file ∧
    ∃ r ∈ rows, r.kind = .importing ∧ r.filePath = file ∧
      isLike "%contextbrain%".toList r.name.toList = true

lemma overviewOf_showsAll (rows : List Row) (focus : String) :
    (overviewOf rows focus .high).ShowsAll rows focus where
  modules file := by
    rw [← inFocus_iff, ← isAuxiliary_eq_false_iff]
    simp only [overviewOf, moduleFiles, showsModule, List.mem_filter, mem_sortOn, mem_distinct,
      List.mem_map, beq_iff_eq, Bool.and_true, Bool.not_eq_true']
    constructor
    · rintro ⟨⟨⟨r, ⟨hr, hkind⟩, rfl⟩, hshown⟩, hfocus⟩
      exact ⟨hfocus, hshown, r, hr, hkind, rfl⟩
    · rintro ⟨hfocus, hshown, r, hr, hkind, rfl⟩
      exact ⟨⟨⟨r, ⟨hr, hkind⟩, rfl⟩, hshown⟩, hfocus⟩
  components name := by
    simp only [← inFocus_iff, ← isComponent_iff]
    simp only [overviewOf, componentsIn_eq, shownClasses, isHidden_high, Bool.not_false,
      Bool.and_true, List.mem_filter, mem_distinct, List.mem_map, mem_sortOn, beq_iff_eq]
    constructor
    · rintro ⟨⟨_, ⟨⟨r, ⟨hr, hkind⟩, rfl⟩, hmatters⟩, rfl⟩, hfocus⟩
      exact ⟨hfocus, r, hr, hkind, rfl, hmatters⟩
    · rintro ⟨hfocus, r, hr, hkind, rfl, hmatters⟩
      exact ⟨⟨_, ⟨⟨r, ⟨hr, hkind⟩, rfl⟩, hmatters⟩, rfl⟩, hfocus⟩
  relationships file := by
    rw [← inFocus_iff]
    simp only [overviewOf, relationshipsIn_eq, shownFiles, insideImports, isHidden_high,
      Bool.not_false, List.filter_true, List.mem_map, List.mem_filter, mem_distinct, mem_sortOn,
      Bool.and_eq_true, beq_iff_eq]
    constructor
    · rintro ⟨_, ⟨⟨_, ⟨r, ⟨hr, hkind, hinside⟩, rfl⟩, rfl⟩, hfocus⟩, rfl⟩
      exact ⟨hfocus, r, hr, hkind, rfl, hinside⟩
    · rintro ⟨hfocus, r, hr, hkind, rfl, hinside⟩
      exact ⟨_, ⟨⟨_, ⟨r, ⟨hr, hkind, hinside⟩, rfl⟩, rfl⟩, hfocus⟩, rfl⟩

/-- More detail hides nothing, whatever can be read of the catalog and whatever is in focus; an empty
focus is none. Each level shows the modules of the one below it, at their places. The components and the
relationships are the same at the two lower levels, and the highest adds to them; no file has two
entries there, so none is changed. The totals are the same at all levels. If the catalog can be read, the
highest level shows all there is, and the totals are those of the catalog, with the elements of all kinds
adding up to all elements. -/
theorem detail_hides_nothing (c : Catalog) (focus : String) :
    let low := (overview c focus "low").1
    let medium := (overview c focus "medium").1
    let high := (overview c focus "high").1
    (low.modules.Sublist medium.modules ∧ medium.modules.Sublist high.modules) ∧
    (low.components = medium.components ∧ medium.components.Sublist high.components) ∧
    (low.relationships = medium.relationships ∧
      medium.relationships.Sublist high.relationships ∧ (high.relationships.map (·.1)).Nodup) ∧
    (low.metrics.map (·.totals) = medium.metrics.map (·.totals) ∧
      medium.metrics.map (·.totals) = high.metrics.map (·.totals)) ∧
    ∀ rows, c.rows = .ok rows → high.ShowsAll rows focus ∧ ∃ m, high.metrics = some m ∧
      m.elements = rows.length ∧ m.files = (distinct (rows.map (·.filePath))).length ∧
      Counts (·.kind.label) rows m.kinds ∧ (m.kinds.map (·.2)).sum = m.elements := by
  unfold overview
  cases hc : c.rows with
  | error f => simp
  | ok rows =>
    have hlevels : Detail.ofName "low" = .low ∧ Detail.ofName "medium" = .medium ∧
        Detail.ofName "high" = .high := by decide
    simp only [hlevels]
    -- The two lower levels hide the same files, so what they show of the rest is the same.
    refine ⟨⟨?_, ?_⟩, ⟨rfl, ?_⟩, ⟨rfl, ?_, ?_⟩, ⟨rfl, rfl⟩, ?_⟩
    · exact modules_sublist (fun _ => showsModule_medium) rows focus
    · exact modules_sublist (fun _ => showsModule_high) rows focus
    · exact (componentsIn_sublist rows .medium).filter _
    · exact (relationshipsIn_sublist rows .medium).filter _
    · exact (nodup_relationshipsIn rows .high).sublist (List.filter_sublist.map _)
    · intro rows' hrows
      cases hrows
      have hcounts := counts_tally (·.kind.label) rows
      exact ⟨overviewOf_showsAll rows focus, _, rfl, rfl, rfl, hcounts, hcounts.sum_eq⟩

/-- A file with a class and an import, and one for tests. -/
def workshop : Catalog where
  tables := some {
    elements := some [⟨"m", .module, "a", "", "lib/a.py", 1, 9, "", none, none, none⟩,
      ⟨"c", .classDef, "TaskEngine", "", "lib/a.py", 3, 9, "", none, none, none⟩,
      ⟨"i", .importing, "from ContextBrain import x", "", "lib/a.py", 1, 1, "", none, none, none⟩,
      ⟨"t", .module, "b", "", "lib/Test_b.py", 1, 2, "", none, none, none⟩] }

/-- Without a focus all is shown but the file for tests, and with one the other file only if it contains
the focus. -/
theorem workshop_overview :
    "lib/a.py" ∈ (overview workshop "" "high").1.modules ∧
    "lib/Test_b.py" ∉ (overview workshop "" "high").1.modules ∧
    "TaskEngine" ∈ (overview workshop "" "high").1.components ∧
    "lib/a.py" ∈ (overview workshop "" "high").1.relationships.map (·.1) ∧
    "lib/a.py" ∈ (overview workshop "LIB" "high").1.modules ∧
    "lib/a.py" ∉ (overview workshop "src" "high").1.modules := by
  obtain ⟨_, _, _, _, hall⟩ := detail_hides_nothing workshop ""
  obtain ⟨_, _, _, _, hinside⟩ := detail_hides_nothing workshop "LIB"
  obtain ⟨_, _, _, _, helsewhere⟩ := detail_hides_nothing workshop "src"
  obtain ⟨⟨hmodules, hcomponents, hrelationships⟩, _⟩ := hall _ rfl
  refine ⟨(hmodules _).mpr ?_, fun h => ?_, (hcomponents _).mpr ?_, (hrelationships _).mpr ?_,
    ((hinside _ rfl).1.modules _).mpr ?_, fun h => ?_⟩
  · exact ⟨.inl rfl, by decide +kernel⟩
  · exact ((hmodules _).mp h).2.1 "test" (by simp) (by decide +kernel)
  · exact ⟨.inl rfl, by decide +kernel⟩
  · exact ⟨.inl rfl, by decide +kernel⟩
  · exact ⟨.inr (by decide +kernel), by decide +kernel⟩
  · rcases ((helsewhere _ rfl).1.modules _).mp h with ⟨hempty | hpart, _⟩
    · exact absurd hempty (by decide)
    · exact absurd hpart (by decide +kernel)

end Index

end CodeAtlas
