import CodeAtlas.Proofs.Stores

/-!
# Looking up an indexed file

Rows are stored under the path of their file inside the project, as it is. A lookup first brings the
path that it is given into another form, without slashes. So it reads the rows of the file exactly if
there was no slash in the path.
-/

namespace CodeAtlas

namespace Text

/-- A separator with a character that a text does not have does not cut it. -/
lemma splitOn_of_not_mem {sep cs : List Char} {c : Char} (hsep : c ∈ sep) (hcs : c ∉ cs) :
    splitOn sep cs = [cs] := by
  unfold splitOn
  induction cs with
  | nil => rfl
  | cons d cs ih =>
    have hprefix : ¬ sep.isPrefixOf (d :: cs) = true := by
      intro h
      exact hcs ((List.isPrefixOf_iff_prefix.mp h).subset hsep)
    have hrest : c ∉ cs := fun h => hcs (List.mem_cons_of_mem d h)
    rw [splitFrom, if_neg hprefix, ih hrest]
    rfl

lemma replace_of_not_mem {old cs : List Char} {c : Char} (new : List Char) (hold : c ∈ old)
    (hcs : c ∉ cs) : replace old new cs = cs := by
  rw [replace, splitOn_of_not_mem hold hcs]
  simp [join]

end Text

namespace Index

open CodeAtlas.Text

/-! ### The form of a path in a lookup -/

lemma slash_not_mem_normalizePath (cs : List Char) : '/' ∉ normalizePath cs := by
  rw [normalizePath, List.mem_map]
  rintro ⟨c, _, hc⟩
  split at hc
  · cases hc
  · contradiction

theorem normalizePath_eq_self_iff (cs : List Char) : normalizePath cs = cs ↔ '/' ∉ cs := by
  constructor
  · intro h
    rw [← h]
    exact slash_not_mem_normalizePath cs
  · intro h
    have hkeep : ∀ c ∈ cs, (if c = '/' then '\\' else c) = id c := by
      rintro c hc
      have hne : c ≠ '/' := fun hslash => h (hslash ▸ hc)
      exact if_neg hne
    rw [normalizePath, replace_of_not_mem [] (by simp) h, List.map_congr_left hkeep, List.map_id]

/-- The path under which a lookup reads. -/
def lookupPath (file : String) : String :=
  String.ofList (normalizePath file.toList)

lemma lookupPath_eq_self_iff (file : String) : lookupPath file = file ↔ '/' ∉ file.toList := by
  rw [← normalizePath_eq_self_iff, lookupPath, ← String.toList_inj, String.toList_ofList]

/-! ### What a lookup reads -/

variable {c : Catalog} {rows : List Row} {file : String}

lemma mem_rowsOfFile {r : Row} : r ∈ rowsOfFile rows file ↔ r ∈ rows ∧ r.filePath = file := by
  simp [rowsOfFile, sortOn]

lemma rowsOfFile_eq_nil_iff : rowsOfFile rows file = [] ↔ ∀ r ∈ rows, r.filePath ≠ file := by
  rw [List.eq_nil_iff_forall_not_mem]
  simp only [mem_rowsOfFile, not_and, ne_eq]

/-- There are rows of a file, and they are what is read when it is looked up. -/
structure Finds (rows : List Row) (file : String) : Prop where
  stored : rowsOfFile rows file ≠ []
  context : rowsOfFile rows (lookupPath file) = rowsOfFile rows file
  imports : importsOf rows (lookupPath file) = importsOf rows file

theorem finds_iff : Finds rows file ↔ '/' ∉ file.toList ∧ ∃ r ∈ rows, r.filePath = file := by
  constructor
  · intro h
    obtain ⟨r, hr⟩ := List.exists_mem_of_ne_nil _ h.stored
    have hread : r ∈ rowsOfFile rows (lookupPath file) := h.context ▸ hr
    obtain ⟨hmem, hpath⟩ := mem_rowsOfFile.mp hr
    have hform : lookupPath file = file := (mem_rowsOfFile.mp hread).2.symm.trans hpath
    exact ⟨(lookupPath_eq_self_iff file).mp hform, r, hmem, hpath⟩
  · rintro ⟨hslash, r, hr, hpath⟩
    have hform := (lookupPath_eq_self_iff file).mpr hslash
    refine ⟨?_, by rw [hform], by rw [hform]⟩
    exact List.ne_nil_of_mem (mem_rowsOfFile.mpr ⟨hr, hpath⟩)

/-- The account of a file is made from its own rows, and so are its dependencies. -/
def Accounts (c : Catalog) (rows : List Row) (file : String) : Prop :=
  ∀ size depth withDependencies, Row.fits size = true →
    fileContext c file size withDependencies =
      (describeFile rows (rowsOfFile rows file) file file size withDependencies, []) ∧
    (analyzeDependencies c file depth true).1.dependencies = distinct (importedModules rows file)

/-- A file is said not to be there, and to depend on nothing. -/
def Misses (c : Catalog) (file : String) : Prop :=
  ∀ size depth withDependencies,
    fileContext c file size withDependencies =
      ({ file := file, text := s!"File {file} not found in index" }, []) ∧
    (analyzeDependencies c file depth true).1.dependencies = []

lemma Finds.accounts (hc : c.rows = .ok rows) (h : Finds rows file) : Accounts c rows file := by
  have hform : String.ofList (normalizePath file.toList) = file :=
    (lookupPath_eq_self_iff file).mpr (finds_iff.mp h).1
  have hstored : ¬ (rowsOfFile rows file).isEmpty = true := by
    simpa using h.stored
  intro size depth withDependencies hsize
  constructor
  · unfold fileContext
    simp only [hc, hform]
    rw [if_neg hstored, if_pos hsize]
  · unfold analyzeDependencies dependenciesIn
    simp only [hc, hform, Bool.true_or, List.filter_true, if_true]

lemma misses_of_rowsOfFile (hc : c.rows = .ok rows)
    (hread : ∀ r ∈ rows, r.filePath ≠ lookupPath file) : Misses c file := by
  have hnone : rowsOfFile rows (String.ofList (normalizePath file.toList)) = [] :=
    rowsOfFile_eq_nil_iff.mpr hread
  have hfilter : (rows.filter fun r =>
      r.filePath == lookupPath file && r.kind == .importing) = [] := by
    rw [List.filter_eq_nil_iff]
    intro r hr
    simp [hread r hr]
  have himports : importsOf rows (String.ofList (normalizePath file.toList)) = [] := by
    rw [importsOf, ← lookupPath, hfilter]
    simp [sortOn, distinct]
  intro size depth withDependencies
  constructor
  · unfold fileContext
    simp only [hc, hnone, List.isEmpty_nil, if_true]
  · unfold analyzeDependencies dependenciesIn importedModules
    simp only [hc, himports]
    rfl

namespace Engine

open CodeAtlas.Action

/-! ### Looking up what was indexed -/

/-- The paths of the rows after indexing into an empty catalog are those of the elements that no later
one has replaced. -/
lemma exists_row_iff (found : List Element) (file : String) :
    (∃ r ∈ Tables.upsertElements [] found, r.filePath = file) ↔
      ∃ x ∈ found, x.filePath = file ∧ lastWith Element.id x.id found = some x := by
  constructor
  · rintro ⟨r, hr, hpath⟩
    rcases (Tables.mem_upsertElements_iff _ _ _).mp hr with ⟨x, hx, rfl⟩ | ⟨hnil, _⟩
    · exact ⟨x, lastWith_mem hx, hpath, hx⟩
    · cases hnil
  · rintro ⟨x, _, hpath, hlast⟩
    exact ⟨Row.ofElement x, (Tables.mem_upsertElements_iff _ _ _).mpr (Or.inl ⟨x, hlast, rfl⟩), hpath⟩

/-- If elements of different files have different identifiers, every file with an element has a row. -/
lemma exists_last_of_mem {found : List Element}
    (hids : ∀ x ∈ found, ∀ y ∈ found, x.id = y.id → x.filePath = y.filePath) {x : Element}
    (hx : x ∈ found) :
    ∃ y ∈ found, y.filePath = x.filePath ∧ lastWith Element.id y.id found = some y := by
  obtain ⟨y, hy⟩ := exists_lastWith_iff.mpr (List.mem_map_of_mem hx)
  have hid : y.id = x.id := lastWith_key hy
  have hmem : y ∈ found := lastWith_mem hy
  exact ⟨y, hmem, hids y hmem x hx hid, hid ▸ hy⟩

lemma toList_toString (path : Path) : path.toString.toList = path.chars :=
  String.toList_ofList

/-- An element of a file that is indexed is among those that are found. -/
lemma exists_found_of_fileElements {e : Engine} {path file relative : Path} {patterns : List String}
    {found : List Element} (hfound : foundElements path patterns e = .ok found)
    (hfile : e.Discovers path patterns file relative) (hne : fileElements e path file ≠ []) :
    ∃ x ∈ found, x.filePath = relative.toString := by
  obtain ⟨⟨files, hfiles, hmem⟩, hrelative⟩ := hfile
  obtain ⟨x, hx⟩ := List.exists_mem_of_ne_nil _ hne
  obtain ⟨relative', hrelative', hpath⟩ := mem_fileElements hx
  rw [hrelative] at hrelative'
  cases hrelative'
  rw [foundElements, hfiles] at hfound
  cases hfound
  exact ⟨x, List.mem_flatMap.mpr ⟨file, hmem, hx⟩, hpath⟩

/-- Looking up a file after its project was indexed into an empty catalog. What is stored of the file is
read exactly if there is no slash in its path inside the project, and one of its elements was not
replaced by that of another file. Otherwise the answer is about another file, or that there is none. -/
theorem lookup_finds_iff {e e₁ : Engine} {path : Path} {patterns : List String} {clearFirst : Bool}
    {deps : List DependencyRow} {log log' : Log} {p : ProjectIndex}
    (hempty : e.catalog.Holds [] deps)
    (hrun : indexProject path patterns clearFirst (e, log) = (.ok p, (e₁, log'))) :
    ∃ found rows, foundElements path patterns e = .ok found ∧ e₁.catalog.rows = .ok rows ∧
      ∀ file relative, e.Discovers path patterns file relative → fileElements e path file ≠ [] →
        (Finds rows relative.toString ↔ '/' ∉ relative.chars ∧
          ∃ x ∈ found, x.filePath = relative.toString ∧
            lastWith Element.id x.id found = some x) ∧
        ((∀ x ∈ found, ∀ y ∈ found, x.id = y.id → x.filePath = y.filePath) →
          (Finds rows relative.toString ↔ '/' ∉ relative.chars)) ∧
        (Finds rows relative.toString → Accounts e₁.catalog rows relative.toString) ∧
        ((∀ x ∈ found, x.filePath ≠ lookupPath relative.toString) →
          Misses e₁.catalog relative.toString) := by
  have hspec : Spec (e.Holding (·.Holds [] deps) fun _ => True)
      (indexProject path patterns clearFirst) _ _ := indexProject_catalog path patterns clearFirst
  obtain ⟨found, hfound, _, ⟨new, _, hholds⟩, _⟩ :=
    hspec.result ⟨⟨rfl, rfl, rfl⟩, hempty, trivial⟩ hrun
  have hstart : startRows e path clearFirst [] = [] := by
    cases clearFirst <;> rfl
  rw [hstart] at hholds
  refine ⟨found, _, hfound, hholds.rows_eq, ?_⟩
  intro file relative hfile hne
  have hiff : Finds (Tables.upsertElements [] found) relative.toString ↔
      '/' ∉ relative.chars ∧ ∃ x ∈ found, x.filePath = relative.toString ∧
        lastWith Element.id x.id found = some x := by
    rw [finds_iff, exists_row_iff, toList_toString]
  refine ⟨hiff, fun hids => ?_, fun h => h.accounts hholds.rows_eq, fun hother => ?_⟩
  · obtain ⟨x, hx, hpath⟩ := exists_found_of_fileElements hfound hfile hne
    have hlast := exists_last_of_mem hids hx
    rw [hpath] at hlast
    rw [hiff, and_iff_left hlast]
  · refine misses_of_rowsOfFile hholds.rows_eq fun r hr hpath => ?_
    obtain ⟨x, hx, hxpath, _⟩ := (exists_row_iff found _).mp ⟨r, hr, hpath⟩
    exact hother x hx hxpath

/-- A working directory with a file `t.txt` and a file `a.txt` in a folder `s`. -/
def nested : Engine where
  surroundings := { extensions := [(".txt", "text")] }
  disk := ⟨.folder (.cons ['w'] (.folder (.cons "t.txt".toList (.file [104])
    (.cons ['s'] (.folder (.cons "a.txt".toList (.file [105]) .nil)) .nil))) .nil), ⟨['/'], [['w']]⟩⟩
  catalog := { tables := some {} }
  vectors := {
    kept := some []
    handle := .shared }

def nestedIndexed : Engine :=
  (indexProject (.ofString ".") [] true (nested, [])).2.1

lemma nested_indexed : (indexProject (.ofString ".") [] true (nested, [])).1.isOk = true := by
  decide +kernel

lemma nested_discovers (file : Path)
    (hfile : file ∈ [⟨[], ["t.txt".toList]⟩, ⟨[], [['s'], "a.txt".toList]⟩]) :
    nested.Discovers (.ofString ".") [] file file ∧
      fileElements nested (.ofString ".") file ≠ [] := by
  have hfiles : (discoverFiles (.ofString ".") [] nested).toOption.map id =
      some [⟨[], ["t.txt".toList]⟩, ⟨[], [['s'], "a.txt".toList]⟩] := by
    decide +kernel
  obtain ⟨files, hok, rfl⟩ := exists_ok_of_toOption_map hfiles
  simp only [List.mem_cons, List.not_mem_nil, or_false] at hfile
  rcases hfile with rfl | rfl
  · exact ⟨⟨⟨_, hok, List.mem_cons_self⟩, by decide +kernel⟩, by decide +kernel⟩
  · exact ⟨⟨⟨_, hok, List.mem_of_mem_tail List.mem_cons_self⟩, by decide +kernel⟩, by decide +kernel⟩

lemma nested_found {found : List Element}
    (hfound : foundElements (.ofString ".") [] nested = .ok found) {x : Element} (hx : x ∈ found) :
    x.id = "file_t.txt" ∧ x.filePath = "t.txt" ∨
      x.id = "file_s\\a.txt" ∧ x.filePath = "s/a.txt" := by
  have hpaths : (foundElements (.ofString ".") [] nested).toOption.map
      (·.map fun x => (x.id, x.filePath)) =
      some [("file_t.txt", "t.txt"), ("file_s\\a.txt", "s/a.txt")] := by
    decide +kernel
  rw [hfound] at hpaths
  replace hpaths : found.map (fun x => (x.id, x.filePath)) =
      [("file_t.txt", "t.txt"), ("file_s\\a.txt", "s/a.txt")] := Option.some.inj hpaths
  have hmem := List.mem_map_of_mem (f := fun x : Element => (x.id, x.filePath)) hx
  rw [hpaths] at hmem
  simpa using hmem

theorem nested_lookup : ∃ rows, nestedIndexed.catalog.rows = .ok rows ∧
    Finds rows "t.txt" ∧ Accounts nestedIndexed.catalog rows "t.txt" ∧
    ¬ Finds rows "s/a.txt" ∧ Misses nestedIndexed.catalog "s/a.txt" := by
  obtain ⟨p, hrun⟩ := exists_ok_of_isOk nested_indexed
  have hstate : (indexProject (.ofString ".") [] true (nested, [])).2 =
      (nestedIndexed, (indexProject (.ofString ".") [] true (nested, [])).2.2) := rfl
  rw [hstate] at hrun
  obtain ⟨found, rows, hfound, hrows, hlookup⟩ :=
    lookup_finds_iff (e := nested) ⟨_, rfl, rfl, rfl⟩ hrun
  obtain ⟨hfile, hne⟩ := nested_discovers ⟨[], ["t.txt".toList]⟩ List.mem_cons_self
  obtain ⟨hfile', hne'⟩ := nested_discovers ⟨[], [['s'], "a.txt".toList]⟩
    (List.mem_of_mem_tail List.mem_cons_self)
  have ht : (⟨[], ["t.txt".toList]⟩ : Path).toString = "t.txt" := by decide +kernel
  have hs : (⟨[], [['s'], "a.txt".toList]⟩ : Path).toString = "s/a.txt" := by decide +kernel
  obtain ⟨_, hiff, haccounts, _⟩ := ht ▸ hlookup _ _ hfile hne
  obtain ⟨hiff', _, _, hmisses⟩ := hs ▸ hlookup _ _ hfile' hne'
  have hfinds : Finds rows "t.txt" := by
    refine (hiff fun x hx y hy hxy => ?_).mpr (by decide +kernel)
    rcases nested_found hfound hx with ⟨hid, hpath⟩ | ⟨hid, hpath⟩ <;>
      rcases nested_found hfound hy with ⟨hid', hpath'⟩ | ⟨hid', hpath'⟩ <;> rw [hid, hid'] at hxy
    · exact hpath.trans hpath'.symm
    · exact absurd hxy (by decide)
    · exact absurd hxy (by decide)
    · exact hpath.trans hpath'.symm
  have hslash : '/' ∈ (⟨[], [['s'], "a.txt".toList]⟩ : Path).chars := by decide +kernel
  refine ⟨rows, hrows, hfinds, haccounts hfinds, fun h => (hiff'.mp h).1 hslash, hmisses ?_⟩
  have hform : lookupPath "s/a.txt" = "s\\a.txt" := by decide +kernel
  intro x hx
  rw [hform]
  rcases nested_found hfound hx with ⟨_, hpath⟩ | ⟨_, hpath⟩ <;> simp [hpath]

/-- The row of `s/a.txt` is there, but looking the file up gives nothing. -/
theorem nested_file_not_found :
    (indexProject (.ofString ".") [] true (nested, [])).1.isOk = true ∧
    nestedIndexed.catalog.rows.toOption.map (·.map (·.filePath)) = some ["t.txt", "s/a.txt"] ∧
    (fileContext nestedIndexed.catalog "s/a.txt").1 =
      { file := "s/a.txt", text := "File s/a.txt not found in index" } :=
  ⟨nested_indexed, by decide +kernel⟩

end Engine

end Index

end CodeAtlas
