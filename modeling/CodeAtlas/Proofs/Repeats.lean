import CodeAtlas.Proofs.Writes

/-!
# Storing the same elements again

A second call with the same elements writes the same rows, wherever the first one stopped. The table of
dependencies has no key but the numbers of its rows, so that nothing is replaced there: each dependency
of an element that is stored is said once more.
-/

namespace CodeAtlas

/-- What a row of the table of dependencies says, whatever its number. -/
def DependencyRow.link (d : DependencyRow) : String × String × String :=
  (d.source, d.target, d.label)

/-- What is said about the dependencies of elements, in their order. -/
def importLinks (es : List Element) : List (String × String × String) :=
  es.flatMap fun e => e.dependencies.map fun target => (e.id, target, "import")

@[simp] lemma importLinks_nil : importLinks [] = [] := rfl

@[simp] lemma importLinks_cons (e : Element) (es : List Element) :
    importLinks (e :: es) =
      (e.dependencies.map fun target => (e.id, target, "import")) ++ importLinks es := rfl

lemma importLinks_eq_nil_iff {es : List Element} :
    importLinks es = [] ↔ ∀ e ∈ es, e.dependencies = [] := by
  simp [importLinks]

namespace Tables

variable {t : Tables} {rows : List Row} {e : Element} {es : List Element}

/-- What the table of dependencies says, if there is one. -/
def links (t : Tables) : Option (List (String × String × String)) :=
  t.dependencies.map (·.map (·.link))

/-! ### One element -/

/-- Dependencies are added if there is a table for them, and touch no other. Without a table there is no
failure only if there are none. -/
lemma addDependencies_writes (source : String) (targets : List String) (t : Tables) :
    (addDependencies source targets t).2.elements = t.elements ∧
    (addDependencies source targets t).2.links =
      t.links.map (· ++ targets.map fun target => (source, target, "import")) ∧
    ((addDependencies source targets t).1 = .ok () ↔ t.links.isSome = true ∨ targets = []) := by
  induction targets generalizing t with
  | nil => simp [addDependencies]
  | cons target targets ih =>
    rw [addDependencies]
    cases hdeps : t.dependencies with
    | none => simp [addDependency, links, hdeps]
    | some deps =>
      simp only [addDependency, hdeps]
      obtain ⟨helements, hlinks, hok⟩ := ih { t with
        dependencies := some (deps ++ [⟨t.lastNumber + 1, source, target, "import"⟩])
        lastNumber := t.lastNumber + 1 }
      refine ⟨helements, ?_, ?_⟩
      · rw [hlinks]
        simp [links, hdeps, DependencyRow.link]
      · rw [hok]
        simp [links, hdeps]

/-- A row is written, then its dependencies. -/
lemma storeOne_writes (h : t.elements = some rows) (hfits : (Row.ofElement e).storable = true) :
    (storeOne e t).2.elements = some (upsertRow (Row.ofElement e) rows) ∧
    (storeOne e t).2.links =
      t.links.map (· ++ e.dependencies.map fun target => (e.id, target, "import")) ∧
    ((storeOne e t).1 = .ok () ↔ t.links.isSome = true ∨ e.dependencies = []) := by
  have hone : storeOne e t = addDependencies e.id e.dependencies
      { t with elements := some (upsertRow (Row.ofElement e) rows) } := by
    simp [storeOne, h, hfits]
  rw [hone]
  exact addDependencies_writes _ _ _

/-! ### All elements -/

/-- The elements of which rows are written. Without a table of dependencies, the first that has some is
the last. -/
def written (linked : Bool) : List Element → List Element
  | [] => []
  | e :: es =>
    if (Row.ofElement e).storable then
      if linked || e.dependencies.isEmpty then e :: written linked es else [e]
    else []

lemma written_sublist (linked : Bool) (es : List Element) : (written linked es).Sublist es := by
  fun_induction written linked es with
  | case1 => exact List.Sublist.refl _
  | case2 e es _ _ ih => exact ih.cons_cons e
  | case3 e es => exact (List.nil_sublist es).cons_cons e
  | case4 => exact List.nil_sublist _

lemma written_true (es : List Element) :
    written true es = es.takeWhile fun e => (Row.ofElement e).storable := by
  induction es with
  | nil => rfl
  | cons e es ih =>
    rw [written, List.takeWhile_cons, ih]
    simp

/-- Without a table of elements nothing is stored. -/
lemma storeAll_of_none (h : t.elements = none) (es : List Element) : (storeAll es t).2 = t := by
  cases es with
  | nil => rfl
  | cons e es => simp [storeAll, storeOne, h]

lemma storeAll_cons_of_ok (h : (storeOne e t).1 = .ok ()) (es : List Element) :
    storeAll (e :: es) t = storeAll es (storeOne e t).2 := by
  rw [storeAll, ← Prod.mk.eta (p := storeOne e t), h]

/-- A failure ends the storing, and what was written until then stays. -/
lemma storeAll_cons_of_ne_ok (h : (storeOne e t).1 ≠ .ok ()) (es : List Element) :
    (storeAll (e :: es) t).2 = (storeOne e t).2 := by
  rw [storeAll]
  cases hone : (storeOne e t).1 with
  | ok u => exact absurd hone h
  | error f => rw [← Prod.mk.eta (p := storeOne e t), hone]

/-- Which rows and which dependencies are there after elements are stored, whether or not one of them
fails. -/
theorem storeAll_writes (h : t.elements = some rows) (es : List Element) :
    (storeAll es t).2.elements = some (upsertElements rows (written t.links.isSome es)) ∧
    (storeAll es t).2.links = t.links.map (· ++ importLinks (written true es)) := by
  induction es generalizing t rows with
  | nil => simp [storeAll, written, h]
  | cons e es ih =>
    by_cases hfits : (Row.ofElement e).storable = true
    · obtain ⟨helements, hlinks, hok⟩ := storeOne_writes h hfits
      by_cases hgo : t.links.isSome = true ∨ e.dependencies = []
      · obtain ⟨hrows, hadded⟩ := ih helements
        have hsome : (storeOne e t).2.links.isSome = t.links.isSome := by
          rw [hlinks, Option.isSome_map]
        have hwritten : written t.links.isSome (e :: es) = e :: written t.links.isSome es := by
          simp [written, hfits, hgo]
        rw [storeAll_cons_of_ok (hok.mpr hgo), hrows, hadded, hsome, hwritten, hlinks]
        refine ⟨rfl, ?_⟩
        simp [written, hfits, Function.comp_def]
      · -- There is no table of dependencies: the row is the last that is written.
        rw [storeAll_cons_of_ne_ok (mt hok.mp hgo), helements, hlinks]
        rw [not_or, Bool.not_eq_true, Option.isSome_eq_false_iff, Option.isNone_iff_eq_none] at hgo
        simp [written, hfits, hgo.1, hgo.2]
    · simp [storeAll, storeOne, h, hfits, written]

/-- Elements that are put in again stand where they stood. -/
lemma upsertElements_idem (rows : List Row) (hids : (es.map (·.id)).Nodup) :
    upsertElements (upsertElements rows es) es = upsertElements rows es := by
  rw [upsertElements_of_nodup rows hids, upsertElements_of_nodup _ hids, List.filter_append]
  have hold : (rows.filter fun r => r.id ∉ es.map (·.id)).filter (fun r => r.id ∉ es.map (·.id)) =
      rows.filter fun r => r.id ∉ es.map (·.id) := by
    rw [List.filter_filter]
    simp
  have hnew : (es.map Row.ofElement).filter (fun r => r.id ∉ es.map (·.id)) = [] := by
    rw [List.filter_eq_nil_iff]
    intro r hr
    obtain ⟨e, he, rfl⟩ := List.mem_map.mp hr
    rw [decide_eq_true_eq, not_not]
    exact List.mem_map_of_mem he
  rw [hold, hnew, List.append_nil]

/-- A second time, the rows are the same. -/
lemma elements_storeAll_again (t : Tables) (hids : (es.map (·.id)).Nodup) :
    (storeAll es (storeAll es t).2).2.elements = (storeAll es t).2.elements := by
  cases h : t.elements with
  | none => rw [storeAll_of_none h, storeAll_of_none h]
  | some rows =>
    obtain ⟨hrows, hlinks⟩ := storeAll_writes h es
    have hwritten : ((written t.links.isSome es).map (·.id)).Nodup :=
      hids.sublist ((written_sublist _ es).map _)
    rw [(storeAll_writes hrows es).1, hlinks, Option.isSome_map, upsertElements_idem rows hwritten,
      hrows]

/-- A second time, the dependencies are added again. -/
lemma links_storeAll_again (h : t.elements = some rows) :
    (storeAll es (storeAll es t).2).2.links =
      (storeAll es t).2.links.map
        (· ++ importLinks (es.takeWhile fun e => (Row.ofElement e).storable)) := by
  rw [(storeAll_writes (storeAll_writes h es).1 es).2, written_true]

end Tables

namespace Catalog

variable {c : Catalog} {rows : List Row} {deps : List DependencyRow} {es : List Element}

/-- What the table of dependencies says, each link as often as it is there. -/
def links (c : Catalog) : Multiset (String × String × String) :=
  match c.dependencyRows with
  | .ok deps => deps.map (·.link)
  | .error _ => 0

lemma links_of_tables {t : Tables} (h : c.tables = some t) : c.links = (t.links.getD [] : List _) := by
  cases hdeps : t.dependencies with
  | none => simp [links, dependencyRows, Tables.links, h, hdeps]
  | some deps => simp [links, dependencyRows, Tables.links, h, hdeps]

lemma links_congr {a b : Catalog} (h : a.tables.map (·.links) = b.tables.map (·.links)) :
    a.links = b.links := by
  cases ha : a.tables with
  | none =>
    rw [ha, Option.map_none, eq_comm, Option.map_eq_none_iff] at h
    simp [links, dependencyRows, ha, h]
  | some t =>
    rw [ha, Option.map_some, eq_comm, Option.map_eq_some_iff] at h
    obtain ⟨t', hb, hlinks⟩ := h
    rw [links_of_tables ha, links_of_tables hb, hlinks]

lemma rows_congr {a b : Catalog} (h : a.tables.map (·.elements) = b.tables.map (·.elements)) :
    a.rows = b.rows := by
  cases ha : a.tables with
  | none =>
    rw [ha, Option.map_none, eq_comm, Option.map_eq_none_iff] at h
    simp [Catalog.rows, ha, h]
  | some t =>
    rw [ha, Option.map_some, eq_comm, Option.map_eq_some_iff] at h
    obtain ⟨t', hb, helements⟩ := h
    simp [Catalog.rows, ha, hb, helements]

/-- What is stored is seen, whether or not it is committed. -/
lemma tables_store (c : Catalog) (es : List Element) :
    (c.store es).2.tables = c.tables.map fun t => (t.storeAll es).2 := by
  cases es with
  | nil => simp [store, Tables.storeAll]
  | cons e es =>
    cases htables : c.tables with
    | none => simp [store, htables]
    | some t =>
      cases hstore : t.storeAll (e :: es) with
      | mk outcome t' => cases outcome <;> simp [store, htables, hstore]

lemma rows_store_again (c : Catalog) (hids : (es.map (·.id)).Nodup) :
    ((c.store es).2.store es).2.rows = (c.store es).2.rows := by
  apply rows_congr
  rw [tables_store, tables_store]
  cases c.tables with
  | none => rfl
  | some t => exact congrArg some (Tables.elements_storeAll_again t hids)

lemma links_store_again (h : c.Holds rows deps) (es : List Element) :
    ((c.store es).2.store es).2.links =
      (c.store es).2.links + importLinks (es.takeWhile fun e => (Row.ofElement e).storable) := by
  obtain ⟨t, ht, hboth⟩ := h
  have honce : (c.store es).2.tables = some (t.storeAll es).2 := by rw [tables_store, ht]; rfl
  have htwice : ((c.store es).2.store es).2.tables = some ((t.storeAll es).2.storeAll es).2 := by
    rw [tables_store, honce]
    rfl
  have hlinks : (t.storeAll es).2.links.isSome = true := by
    rw [(Tables.storeAll_writes hboth.elements es).2, Option.isSome_map, Tables.links,
      hboth.dependencies]
    rfl
  obtain ⟨said, hsaid⟩ := Option.isSome_iff_exists.mp hlinks
  rw [links_of_tables htwice, links_of_tables honce, Tables.links_storeAll_again hboth.elements, hsaid]
  rfl

/-- If a table is missing, no dependencies are added. -/
lemma links_store_again_of_missing (h : ∀ rows deps, ¬ c.Holds rows deps) (es : List Element) :
    ((c.store es).2.store es).2.links = (c.store es).2.links := by
  apply links_congr
  rw [tables_store, tables_store]
  cases htables : c.tables with
  | none => rfl
  | some t =>
    have hsame : ((t.storeAll es).2.storeAll es).2.links = (t.storeAll es).2.links := by
      cases helements : t.elements with
      | none => rw [Tables.storeAll_of_none helements, Tables.storeAll_of_none helements]
      | some rows =>
        cases hdeps : t.dependencies with
        | none =>
          have hlinks : (t.storeAll es).2.links = none := by
            rw [(Tables.storeAll_writes helements es).2, Tables.links, hdeps]
            rfl
          rw [Tables.links_storeAll_again helements, hlinks]
          rfl
        | some deps => exact absurd ⟨t, htables, helements, hdeps⟩ (h rows deps)
    exact congrArg some hsame

/-- Storing elements with different identifiers again. The rows stay as they are. If both tables are
there, the dependencies of all elements that are stored, those before the first with a number that does
not fit, are said once more. So the second call changes nothing exactly if one of the tables is missing
or no such element has dependencies. -/
theorem storing_again (c : Catalog) (hids : (es.map (·.id)).Nodup) :
    ((c.store es).2.store es).2.rows = (c.store es).2.rows ∧
    (∀ rows deps, c.Holds rows deps → ((c.store es).2.store es).2.links =
      (c.store es).2.links + importLinks (es.takeWhile fun e => (Row.ofElement e).storable)) ∧
    (((c.store es).2.store es).2.links = (c.store es).2.links ↔
      ∀ rows deps, c.Holds rows deps →
        ∀ e ∈ es.takeWhile fun e => (Row.ofElement e).storable, e.dependencies = []) := by
  refine ⟨rows_store_again c hids, fun rows deps h => links_store_again h es, ?_⟩
  constructor
  · intro hsame rows deps h
    rw [links_store_again h, add_eq_left, Multiset.coe_eq_zero] at hsame
    exact importLinks_eq_nil_iff.mp hsame
  · intro hnone
    by_cases h : ∃ rows deps, c.Holds rows deps
    · obtain ⟨rows, deps, h⟩ := h
      rw [links_store_again h, importLinks_eq_nil_iff.mpr (hnone rows deps h), Multiset.coe_nil,
        add_zero]
    · push Not at h
      exact links_store_again_of_missing h es

/-- An element with a dependency, and one without. -/
def dependent : List Element :=
  [{ sketch "a" .function "a" with dependencies := ["b"] }, sketch "b" .function "b"]

theorem dependent_stored_again :
    (dependent.map (·.id)).Nodup ∧
    ((fresh.store dependent).2.store dependent).2.rows = (fresh.store dependent).2.rows ∧
    ((fresh.store dependent).2.store dependent).2.links =
      (fresh.store dependent).2.links + {("a", "b", "import")} := by
  have hids : (dependent.map (·.id)).Nodup := by decide
  have hfresh : fresh.Holds [] [] := ⟨{}, rfl, rfl, rfl⟩
  obtain ⟨hrows, hlinks, _⟩ := storing_again fresh hids
  exact ⟨hids, hrows, hlinks [] [] hfresh⟩

/-- After the second call the dependency is there twice. -/
theorem dependency_doubled :
    (fresh.store dependent).2.links = {("a", "b", "import")} ∧
    ((fresh.store dependent).2.store dependent).2.links =
      {("a", "b", "import"), ("a", "b", "import")} ∧
    ((fresh.store dependent).2.store dependent).2.links ≠ (fresh.store dependent).2.links := by
  decide +kernel

end Catalog

end CodeAtlas
