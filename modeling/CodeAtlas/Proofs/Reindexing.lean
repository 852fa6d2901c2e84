import CodeAtlas.Proofs.Stores

/-!
# Indexing a project again

The working directory stands for everything, so clearing it empties both stores. What indexing leaves
there then depends on the files alone: the two stores mirror what was found, and agree with each other,
whatever they held before.

Of any other project only the rows go whose paths are like its name. The paths of its files inside it
need not be like that, so rows of files that are gone may stay.
-/

namespace CodeAtlas

/-- An entry of the vector store and a row of the catalog tell the same. -/
structure Entry.Describes (d : Entry) (r : Row) : Prop where
  id : d.id = r.id
  kind : d.kind = r.kind
  name : d.name = r.name
  document : d.document = r.content
  filePath : d.filePath = r.filePath
  lineStart : d.lineStart = r.lineStart
  lineEnd : d.lineEnd = r.lineEnd

namespace Index.Engine

open CodeAtlas.Action CodeAtlas.Text

variable {path : Path} {patterns : List String} {model : Model}

/-- Both stores are open, and the vector database lists what it has and empties a collection, or makes
it anew. What the stores hold does not matter. -/
def Ready (e : Engine) : Prop :=
  (∃ rows deps, e.catalog.Holds rows deps) ∧
  ∃ ops c, (VectorStore.clearing ⊆ ops ∨ VectorStore.recreating ⊆ ops) ∧
    VectorStore.Serves ops c e.vectors

/-- One engine becomes another when a project is cleared and indexed. -/
def Reindexes (path : Path) (patterns : List String) (e e' : Engine) : Prop :=
  ∃ log p log', indexProject path patterns true (e, log) = (.ok p, (e', log'))

lemma reindexes_of_isOk {e : Engine} {log : Log}
    (h : (indexProject path patterns true (e, log)).1.isOk = true) :
    Reindexes path patterns e (indexProject path patterns true (e, log)).2.1 := by
  obtain ⟨p, hrun⟩ := exists_ok_of_isOk h
  exact ⟨log, p, _, hrun⟩

/-- The rows, dependencies and entries that stand for elements: under each identifier those of the
last element, and nothing else. -/
structure Mirrors (found : List Element) (rows : List Row) (deps : List DependencyRow)
    (c : Collection) : Prop where
  nodup_rows : (rows.map (·.id)).Nodup
  mem_rows_iff : ∀ r, r ∈ rows ↔
    ∃ x, lastWith Element.id r.id found = some x ∧ r = Row.ofElement x
  pairs_eq : deps.map (·.pair) = dependencyPairs found
  nodup_entries : (c.map (·.id)).Nodup
  mem_ids_iff : ∀ k, k ∈ c.map (·.id) ↔ k ∈ rows.map (·.id)
  describes : ∀ d ∈ c, ∀ r ∈ rows, d.id = r.id → d.Describes r

/-- Two engines whose stores hold the same rows, the same dependencies up to their numbers, and the
same entries. -/
def SameStores (e e' : Engine) : Prop :=
  ∃ rows deps deps' c, e.catalog.Holds rows deps ∧ e'.catalog.Holds rows deps' ∧
    deps'.map (·.pair) = deps.map (·.pair) ∧ e.vectors.Holds c ∧ e'.vectors.Holds c

/-! ### Entries of elements with embeddings -/

/-- The entry of an element with the embedding of a model. -/
def entryOf (model : Model) (x : Element) : Entry :=
  (Entry.ofElement? (withEmbedding model x)).getD default

lemma ofElement?_withEmbedding (hmodel : ∀ t, model t ≠ []) (x : Element) :
    Entry.ofElement? (withEmbedding model x) = some (entryOf model x) := by
  unfold entryOf Entry.ofElement? withEmbedding
  match hvector : model (summary x) with
  | [] => exact absurd hvector (hmodel _)
  | _ :: _ => simp

lemma entryOf_describes (hmodel : ∀ t, model t ≠ []) (x : Element) :
    (entryOf model x).Describes (Row.ofElement x) := by
  unfold entryOf Entry.ofElement? withEmbedding
  match hvector : model (summary x) with
  | [] => exact absurd hvector (hmodel _)
  | _ :: _ => exact ⟨rfl, rfl, rfl, rfl, rfl, rfl, rfl⟩

lemma filterMap_withEmbedding (hmodel : ∀ t, model t ≠ []) (found : List Element) :
    (found.map (withEmbedding model)).filterMap Entry.ofElement? = found.map (entryOf model) := by
  rw [List.filterMap_map]
  refine List.filterMap_eq_map_iff_forall_eq_some.mpr fun x _ => ?_
  exact ofElement?_withEmbedding hmodel x

/-- What is stored in empty stores mirrors what was found. -/
theorem mirrors_stored (hmodel : ∀ t, model t ≠ []) (found : List Element)
    {deps : List DependencyRow} (hpairs : deps.map (·.pair) = dependencyPairs found) :
    Mirrors found (Tables.upsertElements [] found) deps
      (Collection.upsertAll [] (found.map (entryOf model))) := by
  have hid : ∀ x, (entryOf model x).id = x.id := fun x => (entryOf_describes hmodel x).id
  have hnil : (([] : List Row).map (·.id)).Nodup := List.nodup_nil
  have hnil' : (([] : List Entry).map (·.id)).Nodup := List.nodup_nil
  have hrows : ∀ r, r ∈ Tables.upsertElements [] found ↔
      ∃ x, lastWith Element.id r.id found = some x ∧ r = Row.ofElement x := by
    intro r
    rw [Tables.mem_upsertElements_iff]
    simp only [List.not_mem_nil, false_and, or_false]
  refine ⟨Tables.nodup_upsertElements hnil found, hrows, hpairs,
    isUpsert_entries.keeps_foldl hnil' _, fun k => ?_, fun d hd r hr hdr => ?_⟩
  · have hkeys : (found.map (entryOf model)).map Entry.id = found.map (·.id) := by
      rw [List.map_map]
      exact List.map_congr_left fun x _ => hid x
    rw [Collection.upsertAll, isUpsert_entries.keys_foldl, hkeys, Tables.ids_upsertElements]
    rfl
  · -- Both come from the last element under their identifier.
    obtain ⟨x, hx, rfl⟩ := (hrows r).mp hr
    have hlast := (isUpsert_entries.mem_foldl_iff hnil' _ d).mp hd
    simp only [List.not_mem_nil, false_and, or_false] at hlast
    rw [lastWith_map hid, hdr, hx, Option.map_some, Option.some.injEq] at hlast
    exact hlast ▸ entryOf_describes hmodel x

/-! ### The working directory -/

lemma keptRows_workingDirectory {e : Engine} (hwd : isWorkingDirectory e.disk path = true)
    (rows : List Row) : keptRows e path rows = [] := by
  simp [keptRows, projectRows, hwd]

lemma keptDependencies_workingDirectory {e : Engine} (hwd : isWorkingDirectory e.disk path = true)
    (deps : List DependencyRow) : keptDependencies e path deps = [] := by
  simp [keptDependencies, projectRows, hwd]

/-- The engine turns texts into vectors with a model. -/
structure Embeds (model : Model) (e : Engine) : Prop where
  model_eq : e.surroundings.model = some model
  loaded : e.loaded = true

lemma Embeds.embedded {e : Engine} (h : e.Embeds model) : e.embedded = withEmbedding model := by
  funext x
  simp [Engine.embedded, h.model_eq, h.loaded]

/-- After the working directory was indexed, the stores hold what is found there. -/
theorem reindexes_workingDirectory {e e₁ : Engine} (hready : e.Ready)
    (hwd : isWorkingDirectory e.disk path = true) (hmodel : e.Embeds model)
    (hvectors : ∀ t, model t ≠ []) (hrun : Reindexes path patterns e e₁) :
    ∃ found deps, foundElements path patterns e = .ok found ∧ e.Alike e₁ ∧ e₁.Ready ∧
      deps.map (·.pair) = dependencyPairs found ∧
      e₁.catalog.Holds (Tables.upsertElements [] found) deps ∧
      e₁.vectors.Holds (Collection.upsertAll [] (found.map (entryOf model))) := by
  obtain ⟨⟨rows, deps, hcatalog⟩, ops, c, hops, hserves⟩ := hready
  obtain ⟨log, p, log', hrun⟩ := hrun
  have hstart : e.Holding (·.Holds rows deps) (VectorStore.Serves ops c) e :=
    ⟨⟨rfl, rfl, rfl⟩, hcatalog, hserves⟩
  have hspec : Spec (e.Holding (·.Holds rows deps) (VectorStore.Serves ops c))
      (indexProject path patterns true) _ _ := indexProject_collection hops path patterns
  obtain ⟨found, hfound, halike, ⟨new, hpairs, hholds⟩, hserves'⟩ := hspec.result hstart hrun
  rw [startRows, startDependencies, if_pos rfl, if_pos rfl, keptRows_workingDirectory hwd,
    keptDependencies_workingDirectory hwd, List.nil_append] at hholds
  rw [hmodel.embedded, filterMap_withEmbedding hvectors] at hserves'
  exact ⟨found, new, hfound, halike, ⟨⟨_, _, hholds⟩, ops, _, hops, hserves'⟩, hpairs, hholds,
    hserves'.holds⟩

/-- Indexing the working directory does not depend on what was there before. The stores mirror what is
found in the files; engines with the same files, whatever they held, end with the same rows and
entries; and so does the same engine when it does it again. -/
theorem reindexing_depends_on_files {e e₁ : Engine} (hready : e.Ready)
    (hwd : isWorkingDirectory e.disk path = true) (hmodel : e.Embeds model)
    (hvectors : ∀ t, model t ≠ []) (hrun : Reindexes path patterns e e₁) :
    (∃ found rows deps c, foundElements path patterns e = .ok found ∧
      e₁.catalog.Holds rows deps ∧ e₁.vectors.Holds c ∧ Mirrors found rows deps c) ∧
    (∀ e' e₂, e'.Ready → e.Alike e' → Reindexes path patterns e' e₂ → SameStores e₁ e₂) ∧
    ∀ e₂, Reindexes path patterns e₁ e₂ → SameStores e₁ e₂ := by
  obtain ⟨found, deps, hfound, halike, hready₁, hpairs, hcatalog, hcollection⟩ :=
    reindexes_workingDirectory hready hwd hmodel hvectors hrun
  have hother : ∀ e' e₂, e'.Ready → e.Alike e' → Reindexes path patterns e' e₂ →
      SameStores e₁ e₂ := by
    intro e' e₂ hready' halike' hrun'
    have hwd' : isWorkingDirectory e'.disk path = true := halike'.disk ▸ hwd
    have hmodel' : e'.Embeds model :=
      ⟨halike'.surroundings ▸ hmodel.model_eq, halike'.loaded ▸ hmodel.loaded⟩
    obtain ⟨found', deps', hfound', _, _, hpairs', hcatalog', hcollection'⟩ :=
      reindexes_workingDirectory hready' hwd' hmodel' hvectors hrun'
    rw [halike'.foundElements, hfound, Except.ok.injEq] at hfound'
    subst hfound'
    exact ⟨_, deps, deps', _, hcatalog, hcatalog', hpairs'.trans hpairs.symm, hcollection,
      hcollection'⟩
  refine ⟨?_, hother, fun e₂ => hother e₁ e₂ hready₁ halike⟩
  exact ⟨found, _, deps, _, hfound, hcatalog, hcollection, mirrors_stored hvectors found hpairs⟩

/-- A working directory with a file `s\a.txt` and a file `a.txt` in a folder `s`: the element of the one
has the identifier of the other. The stores hold something else. -/
def crowded : Engine where
  surroundings := { model := some fun _ => [1.0], extensions := [(".txt", "text")] }
  disk := ⟨.folder (.cons ['w'] (.folder (.cons "s\\a.txt".toList (.file [104, 105])
    (.cons ['s'] (.folder (.cons "a.txt".toList (.file [104]) .nil)) .nil))) .nil), ⟨['/'], [['w']]⟩⟩
  catalog := { tables := some {
    elements := some [⟨"x", .module, "x", "", "x", 1, 1, "", none, none, none⟩]
    dependencies := some [⟨1, "x", "y", "import"⟩]
    lastNumber := 1 } }
  vectors := {
    kept := some [⟨"z", [], "", .module, "z", "z", "", 1, 1, none, none, none⟩]
    handle := .shared }
  loaded := true

theorem crowded_reindexing :
    (foundElements (.ofString ".") [] crowded).toOption.map (·.map (·.id)) =
      some ["file_s\\a.txt", "file_s\\a.txt"] ∧
    ∃ e₁, Reindexes (.ofString ".") [] crowded e₁ ∧
      (∃ found rows deps c, foundElements (.ofString ".") [] crowded = .ok found ∧
        e₁.catalog.Holds rows deps ∧ e₁.vectors.Holds c ∧ Mirrors found rows deps c) ∧
      ∀ e₂, Reindexes (.ofString ".") [] e₁ e₂ → SameStores e₁ e₂ := by
  have hholds : crowded.vectors.Holds
      [⟨"z", [], "", .module, "z", "z", "", 1, 1, none, none, none⟩] := rfl
  have hready : crowded.Ready :=
    ⟨⟨_, _, _, rfl, rfl, rfl⟩, VectorStore.clearing, _, Or.inl (List.Subset.refl _), hholds, rfl,
      fun _ _ => rfl⟩
  have hok : (indexProject (.ofString ".") [] true (crowded, [])).1.isOk = true := by
    decide +kernel
  have hrun := reindexes_of_isOk hok
  obtain ⟨hmirrors, _, hagain⟩ := reindexing_depends_on_files hready (by decide +kernel) ⟨rfl, rfl⟩
    (fun _ => List.cons_ne_nil _ _) hrun
  exact ⟨by decide +kernel, _, hrun, hmirrors, hagain⟩

/-! ### Other projects -/

/-- After a project was cleared and indexed, the rows of what is found have taken the places of those
that were cleared. -/
lemma reindexes_rows {e e₁ : Engine} {rows : List Row} {deps : List DependencyRow}
    (hcatalog : e.catalog.Holds rows deps) (hrun : Reindexes path patterns e e₁) :
    ∃ found deps₁, foundElements path patterns e = .ok found ∧ e.Alike e₁ ∧
      e₁.catalog.Holds (Tables.upsertElements (keptRows e path rows) found) deps₁ := by
  obtain ⟨log, p, log', hrun⟩ := hrun
  have hspec : Spec (e.Holding (·.Holds rows deps) fun _ => True)
      (indexProject path patterns true) _ _ := indexProject_catalog path patterns true
  obtain ⟨found, hfound, halike, ⟨new, _, hholds⟩, _⟩ :=
    hspec.result ⟨⟨rfl, rfl, rfl⟩, hcatalog, trivial⟩ hrun
  exact ⟨found, _, hfound, halike, hholds⟩

/-- A row under an identifier that no new element has stays exactly if it is not cleared. -/
lemma mem_reindexed_iff {e : Engine} (hwd : isWorkingDirectory e.disk path = false)
    (rows : List Row) {found : List Element} {r : Row} (hr : r.id ∉ found.map (·.id)) :
    r ∈ Tables.upsertElements (keptRows e path rows) found ↔
      r ∈ rows ∧ belongsTo path.name r = false := by
  have hnone : ¬ ∃ x, lastWith Element.id r.id found = some x ∧ r = Row.ofElement x := by
    rintro ⟨x, hx, _⟩
    exact hr (exists_lastWith_iff.mp ⟨x, hx⟩)
  rw [Tables.mem_upsertElements_iff, or_iff_right hnone, and_iff_left hr]
  simp [keptRows, projectRows, hwd]

/-- What becomes of the rows of a project that is not the working directory, when its files have changed
and it is indexed again. A row that the second run does not make again goes exactly if the path of its
file inside the project is like the name of the project. -/
theorem stale_row_stays_iff {e e₁ e' e₂ : Engine}
    (hopen : ∃ rows deps, e.catalog.Holds rows deps)
    (hwd : isWorkingDirectory e.disk path = false) (hrun : Reindexes path patterns e e₁)
    (hcatalog : e'.catalog = e₁.catalog) (hcwd : e'.disk.cwd = e₁.disk.cwd)
    (hrun' : Reindexes path patterns e' e₂) :
    ∃ found found' rows₁ deps₁ rows₂ deps₂,
      foundElements path patterns e = .ok found ∧ foundElements path patterns e' = .ok found' ∧
      e₁.catalog.Holds rows₁ deps₁ ∧ e₂.catalog.Holds rows₂ deps₂ ∧
      ∀ r ∈ rows₁, r.id ∈ found.map (·.id) → r.id ∉ found'.map (·.id) →
        ∃ file relative, e.Discovers path patterns file relative ∧
          r.filePath = relative.toString ∧
          (r ∈ rows₂ ↔ isLike (path.name ++ ['%']) relative.toString.toList = false) := by
  obtain ⟨rows, deps, hholds⟩ := hopen
  obtain ⟨found, deps₁, hfound, halike, hholds₁⟩ := reindexes_rows hholds hrun
  obtain ⟨found', deps₂, hfound', _, hholds₂⟩ := reindexes_rows (hcatalog ▸ hholds₁) hrun'
  have hwd' : isWorkingDirectory e'.disk path = false := by
    rw [← hwd, isWorkingDirectory, isWorkingDirectory, hcwd, halike.disk]
  refine ⟨found, found', _, deps₁, _, deps₂, hfound, hfound', hholds₁, hholds₂, ?_⟩
  intro r hr hmade hgone
  -- The row comes from the first run, so it is that of an element of a file.
  obtain ⟨x, hx, rfl⟩ : ∃ x, lastWith Element.id r.id found = some x ∧ r = Row.ofElement x := by
    rcases (Tables.mem_upsertElements_iff _ _ _).mp hr with hx | ⟨_, hnot⟩
    · exact hx
    · exact absurd hmade hnot
  obtain ⟨file, relative, hfile, _, hpath⟩ := mem_foundElements hfound (lastWith_mem hx)
  refine ⟨file, relative, hfile, hpath, ?_⟩
  rw [mem_reindexed_iff hwd' _ hgone, and_iff_right hr, belongsTo, ← hpath]
  rfl

/-- A project `p` with the files `a.txt` and `pa.txt`, inside the working directory. -/
def elsewhere : Engine where
  surroundings := { extensions := [(".txt", "text")] }
  disk := ⟨.folder (.cons ['w'] (.folder (.cons ['p'] (.folder (.cons "a.txt".toList (.file [104])
    (.cons "pa.txt".toList (.file [105]) .nil))) .nil)) .nil), ⟨['/'], [['w']]⟩⟩
  catalog := { tables := some {} }
  vectors := {
    kept := some []
    handle := .shared }

/-- The same project with the file `b.txt` instead. -/
def replaced : Disk :=
  ⟨.folder (.cons ['w'] (.folder (.cons ['p'] (.folder (.cons "b.txt".toList (.file [106]) .nil))
    .nil)) .nil), ⟨['/'], [['w']]⟩⟩

/-- What becomes of the engine when the project is indexed, changed and indexed again. -/
def visited : Engine :=
  (indexProject (.ofString "p") [] true (elsewhere, [])).2.1

def changed : Engine :=
  { visited with disk := replaced }

def revisited : Engine :=
  (indexProject (.ofString "p") [] true (changed, [])).2.1

lemma elsewhere_reindexes : Reindexes (.ofString "p") [] elsewhere visited ∧
    Reindexes (.ofString "p") [] changed revisited := by
  have hok : (indexProject (.ofString "p") [] true (elsewhere, [])).1.isOk = true := by
    decide +kernel
  have hok' : (indexProject (.ofString "p") [] true (changed, [])).1.isOk = true := by
    decide +kernel
  exact ⟨reindexes_of_isOk hok, reindexes_of_isOk hok'⟩

lemma elsewhere_ids :
    (foundElements (.ofString "p") [] elsewhere).toOption.map (·.map (·.id)) =
      some ["file_a.txt", "file_pa.txt"] ∧
    (foundElements (.ofString "p") [] changed).toOption.map (·.map (·.id)) = some ["file_b.txt"] := by
  decide +kernel

theorem elsewhere_stale_rows : ∃ rows₁ deps₁ rows₂ deps₂,
    visited.catalog.Holds rows₁ deps₁ ∧ revisited.catalog.Holds rows₂ deps₂ ∧
    (∃ r ∈ rows₁, r.filePath = "a.txt" ∧ r ∈ rows₂) ∧
    ∃ r ∈ rows₁, r.filePath = "pa.txt" ∧ r ∉ rows₂ := by
  have hcatalog : changed.catalog = visited.catalog := rfl
  obtain ⟨found, found', rows₁, deps₁, rows₂, deps₂, hfound, hfound', hholds₁, hholds₂, hstays⟩ :=
    stale_row_stays_iff ⟨[], [], _, rfl, rfl, rfl⟩ (by decide +kernel) elsewhere_reindexes.1 hcatalog
      (by decide +kernel) elsewhere_reindexes.2
  obtain ⟨hids, hids'⟩ := elsewhere_ids
  have hrows : visited.catalog.rows.toOption.map (·.map fun r => (r.id, r.filePath)) =
      some [("file_a.txt", "a.txt"), ("file_pa.txt", "pa.txt")] := by
    decide +kernel
  rw [hfound] at hids
  rw [hfound'] at hids'
  rw [hholds₁.rows_eq] at hrows
  replace hids : found.map (·.id) = ["file_a.txt", "file_pa.txt"] := Option.some.inj hids
  replace hids' : found'.map (·.id) = ["file_b.txt"] := Option.some.inj hids'
  have hrow : ∀ k q, (k, q) ∈ [("file_a.txt", "a.txt"), ("file_pa.txt", "pa.txt")] →
      ∃ r ∈ rows₁, r.filePath = q ∧ (r ∈ rows₂ ↔ isLike ['p', '%'] q.toList = false) := by
    intro k q hk
    have hmade : k ∈ ["file_a.txt", "file_pa.txt"] := List.mem_map_of_mem (f := Prod.fst) hk
    have hnew : ∀ k ∈ ["file_a.txt", "file_pa.txt"], k ∉ ["file_b.txt"] := by decide
    have hgone := hnew k hmade
    rw [← Option.some.inj hrows] at hk
    obtain ⟨r, hr, hpair⟩ := List.mem_map.mp hk
    obtain ⟨rfl, rfl⟩ := Prod.mk.inj hpair
    rw [← hids] at hmade
    rw [← hids'] at hgone
    obtain ⟨_, relative, _, hrelative, hiff⟩ := hstays r hr hmade hgone
    rw [← hrelative] at hiff
    exact ⟨r, hr, rfl, hiff⟩
  obtain ⟨r, hr, hpath, hiff⟩ := hrow "file_a.txt" "a.txt" List.mem_cons_self
  obtain ⟨r', hr', hpath', hiff'⟩ := hrow "file_pa.txt" "pa.txt"
    (List.mem_of_mem_tail List.mem_cons_self)
  refine ⟨rows₁, deps₁, rows₂, deps₂, hholds₁, hholds₂, ⟨r, hr, hpath, hiff.mpr (by decide +kernel)⟩,
    r', hr', hpath', fun h => ?_⟩
  exact absurd (hiff'.mp h) (by decide +kernel)

/-- The row of `a.txt` stays when the file is gone; that of `pa.txt` goes. -/
theorem stale_row_remains :
    isWorkingDirectory elsewhere.disk (.ofString "p") = false ∧
    Reindexes (.ofString "p") [] elsewhere visited ∧
    Reindexes (.ofString "p") [] changed revisited ∧
    (foundElements (.ofString "p") [] elsewhere).toOption.map (·.map (·.id)) =
      some ["file_a.txt", "file_pa.txt"] ∧
    (foundElements (.ofString "p") [] changed).toOption.map (·.map (·.id)) = some ["file_b.txt"] ∧
    revisited.catalog.rows.toOption.map (·.map (·.id)) = some ["file_a.txt", "file_b.txt"] :=
  ⟨by decide +kernel, elsewhere_reindexes.1, elsewhere_reindexes.2, elsewhere_ids.1, elsewhere_ids.2,
    by decide +kernel⟩

end Index.Engine

end CodeAtlas
