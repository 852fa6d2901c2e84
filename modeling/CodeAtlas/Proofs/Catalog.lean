import CodeAtlas.Proofs.Keyed

/-!
# Storing in the catalog

As long as both tables are there, elements are stored one after the other up to the first whose numbers
do not fit. The rows are then those of the last elements under each identifier, and the dependencies
are added in the order of the elements.
-/

namespace CodeAtlas

/-- What a dependency connects. -/
def DependencyRow.pair (d : DependencyRow) : String × String :=
  (d.source, d.target)

/-- What the dependencies of elements connect, in the order of the elements. -/
def dependencyPairs (es : List Element) : List (String × String) :=
  es.flatMap fun e => e.dependencies.map fun target => (e.id, target)

@[simp] lemma dependencyPairs_nil : dependencyPairs [] = [] := rfl

@[simp] lemma dependencyPairs_cons (e : Element) (es : List Element) :
    dependencyPairs (e :: es) =
      (e.dependencies.map fun target => (e.id, target)) ++ dependencyPairs es := rfl

namespace Tables

/-- Both tables are there, with these rows. -/
structure Holds (t : Tables) (rows : List Row) (deps : List DependencyRow) : Prop where
  elements : t.elements = some rows
  dependencies : t.dependencies = some deps

/-- The rows of elements put in one after the other. -/
def upsertElements (rows : List Row) (es : List Element) : List Row :=
  (es.map Row.ofElement).foldl (fun rows r => upsertRow r rows) rows

@[simp] lemma upsertElements_nil (rows : List Row) : upsertElements rows [] = rows := rfl

@[simp] lemma upsertElements_cons (rows : List Row) (e : Element) (es : List Element) :
    upsertElements rows (e :: es) = upsertElements (upsertRow (Row.ofElement e) rows) es := rfl

/-! ### Which rows there are -/

theorem ids_upsertElements (rows : List Row) (es : List Element) (k : String) :
    k ∈ (upsertElements rows es).map (·.id) ↔ k ∈ es.map (·.id) ∨ k ∈ rows.map (·.id) := by
  rw [upsertElements, isUpsert_rows.keys_foldl, List.map_map]
  rfl

theorem nodup_upsertElements {rows : List Row} (h : (rows.map (·.id)).Nodup) (es : List Element) :
    ((upsertElements rows es).map (·.id)).Nodup := by
  induction es generalizing rows with
  | nil => exact h
  | cons e es ih => exact ih (nodup_upsertRow rows _ h)

/-- A row is that of the last element under its identifier, or an old one that no element replaced. -/
theorem mem_upsertElements_iff (rows : List Row) (es : List Element) (r : Row) :
    r ∈ upsertElements rows es ↔
      (∃ x, lastWith Element.id r.id es = some x ∧ r = Row.ofElement x) ∨
      r ∈ rows ∧ r.id ∉ es.map (·.id) := by
  have hids : (es.map Row.ofElement).map Row.id = es.map (·.id) := by
    rw [List.map_map]
    rfl
  have hlast : lastWith Row.id r.id (es.map Row.ofElement) =
      (lastWith Element.id r.id es).map Row.ofElement := lastWith_map (fun _ => rfl) r.id es
  rw [upsertElements, isUpsert_rows.mem_foldl_iff trivial, hlast, Option.map_eq_some_iff, hids]
  simp only [eq_comm]

/-- Where no identifier comes twice, the elements stand in order behind the rows that are left. -/
lemma upsertElements_of_nodup (rows : List Row) {es : List Element} (h : (es.map (·.id)).Nodup) :
    upsertElements rows es =
      rows.filter (fun r => r.id ∉ es.map (·.id)) ++ es.map Row.ofElement := by
  induction es generalizing rows with
  | nil => simp
  | cons e es ih =>
    rw [List.map_cons, List.nodup_cons] at h
    have hlast : [Row.ofElement e].filter (fun r => r.id ∉ es.map (·.id)) = [Row.ofElement e] :=
      List.filter_eq_self.mpr fun r hr => by
        rw [List.mem_singleton.mp hr, decide_eq_true_eq]
        exact h.1
    have hrows : (rows.filter (·.id != (Row.ofElement e).id)).filter
          (fun r => r.id ∉ es.map (·.id)) =
        rows.filter fun r => r.id ∉ (e :: es).map (·.id) := by
      rw [List.filter_filter]
      refine List.filter_congr fun r _ => ?_
      rw [Bool.eq_iff_iff]
      simp [Row.ofElement, and_comm]
    rw [upsertElements_cons, ih _ h.2, upsertRow, List.filter_append, hlast, hrows, List.map_cons,
      List.append_assoc]
    rfl

/-! ### Storing -/

lemma addDependencies_holds (source : String) (targets : List String) {t : Tables} {rows : List Row}
    {deps : List DependencyRow} (h : t.Holds rows deps) :
    ∃ t' new, addDependencies source targets t = (.ok (), t') ∧ t'.Holds rows (deps ++ new) ∧
      new.map (·.pair) = targets.map fun target => (source, target) := by
  induction targets generalizing t deps with
  | nil => exact ⟨t, [], rfl, by simpa using h, rfl⟩
  | cons target targets ih =>
    let d : DependencyRow := ⟨t.lastNumber + 1, source, target, "import"⟩
    let t₁ : Tables := { t with dependencies := some (deps ++ [d]), lastNumber := t.lastNumber + 1 }
    have hadd : t.addDependency source target = .ok t₁ := by
      simp [addDependency, h.dependencies, d, t₁]
    have ht₁ : t₁.Holds rows (deps ++ [d]) := ⟨h.elements, rfl⟩
    obtain ⟨t', new, hall, hholds, hpairs⟩ := ih ht₁
    refine ⟨t', d :: new, ?_, by simpa using hholds, ?_⟩
    · rw [addDependencies, hadd]
      exact hall
    · rw [List.map_cons, List.map_cons, hpairs]
      rfl

lemma storeOne_holds (e : Element) {t : Tables} {rows : List Row} {deps : List DependencyRow}
    (h : t.Holds rows deps) (hfits : (Row.ofElement e).storable = true) :
    ∃ t' new, storeOne e t = (.ok (), t') ∧
      t'.Holds (upsertRow (Row.ofElement e) rows) (deps ++ new) ∧
      new.map (·.pair) = e.dependencies.map fun target => (e.id, target) := by
  have hput : ({ t with elements := some (upsertRow (Row.ofElement e) rows) } : Tables).Holds
      (upsertRow (Row.ofElement e) rows) deps := ⟨rfl, h.dependencies⟩
  obtain ⟨t', new, hall, hholds, hpairs⟩ := addDependencies_holds e.id e.dependencies hput
  refine ⟨t', new, ?_, hholds, hpairs⟩
  simpa only [storeOne, h.elements, hfits, if_true] using hall

lemma storeOne_too_large (e : Element) {t : Tables} {rows : List Row} {deps : List DependencyRow}
    (h : t.Holds rows deps) (hfits : (Row.ofElement e).storable = false) :
    storeOne e t = (.error .tooLarge, t) := by
  simp [storeOne, h.elements, hfits]

/-- Elements are stored up to the first that does not fit; `done` are those before it. -/
theorem storeAll_holds (es : List Element) {t : Tables} {rows : List Row} {deps : List DependencyRow}
    (h : t.Holds rows deps) :
    ∃ t' done new, done <+: es ∧ t'.Holds (upsertElements rows done) (deps ++ new) ∧
      new.map (·.pair) = dependencyPairs done ∧
      (storeAll es t = (.ok (), t') ∧ done = es ∨ storeAll es t = (.error .tooLarge, t')) := by
  induction es generalizing t rows deps with
  | nil => exact ⟨t, [], [], List.prefix_refl _, by simpa using h, rfl, Or.inl ⟨rfl, rfl⟩⟩
  | cons e es ih =>
    by_cases hfits : (Row.ofElement e).storable = true
    · obtain ⟨t₁, new₁, hone, hholds₁, hpairs₁⟩ := storeOne_holds e h hfits
      obtain ⟨t', done, new, hdone, hholds, hpairs, hend⟩ := ih hholds₁
      refine ⟨t', e :: done, new₁ ++ new, List.prefix_cons_inj e |>.mpr hdone, ?_, ?_, ?_⟩
      · rwa [upsertElements_cons, ← List.append_assoc]
      · rw [List.map_append, hpairs₁, hpairs, dependencyPairs_cons]
      · rw [storeAll, hone]
        rcases hend with ⟨hok, rfl⟩ | herror
        · exact Or.inl ⟨hok, rfl⟩
        · exact Or.inr herror
    · have hone := storeOne_too_large e h (by simpa using hfits)
      refine ⟨t, [], [], List.nil_prefix, by simpa using h, rfl, Or.inr ?_⟩
      rw [storeAll, hone]

/-- Nothing fails if all numbers fit. -/
lemma storeAll_ok {es : List Element} (hfits : ∀ e ∈ es, (Row.ofElement e).storable = true)
    {t : Tables} {rows : List Row} {deps : List DependencyRow} (h : t.Holds rows deps) :
    (storeAll es t).1 = .ok () := by
  induction es generalizing t rows deps with
  | nil => rfl
  | cons e es ih =>
    obtain ⟨t', new, hone, hholds, _⟩ := storeOne_holds e h (hfits e List.mem_cons_self)
    rw [storeAll, hone]
    exact ih (fun x hx => hfits x (List.mem_cons_of_mem e hx)) hholds

end Tables

namespace Catalog

/-- The catalog is open, and its tables have these rows. -/
def Holds (c : Catalog) (rows : List Row) (deps : List DependencyRow) : Prop :=
  ∃ t, c.tables = some t ∧ t.Holds rows deps

variable {c : Catalog} {rows : List Row} {deps : List DependencyRow}

lemma Holds.rows_eq (h : c.Holds rows deps) : c.rows = .ok rows := by
  obtain ⟨t, ht, hholds⟩ := h
  simp [Catalog.rows, ht, hholds.elements]

lemma Holds.commit (h : c.Holds rows deps) : c.commit.Holds rows deps := by
  obtain ⟨t, ht, hholds⟩ := h
  refine ⟨t, ?_, hholds⟩
  simp [Catalog.commit, ht]

lemma Holds.deleteWhere (h : c.Holds rows deps) (element : Row → Bool)
    (dependency : DependencyRow → Bool) :
    (c.deleteWhere element dependency).2.Holds (rows.filter fun r => !element r)
      (deps.filter fun d => !dependency d) := by
  obtain ⟨t, ht, hholds⟩ := h
  refine ⟨_, by rw [Catalog.deleteWhere, ht], ?_⟩
  exact ⟨by simp [hholds.elements], by simp [hholds.dependencies]⟩

lemma rows_eq_ok_iff : c.rows = .ok rows ↔ ∃ t, c.tables = some t ∧ t.elements = some rows := by
  unfold Catalog.rows
  cases c.tables with
  | none => simp
  | some t => cases h : t.elements <;> simp [h]

/-- The rows that are left when some are taken away, whether there are dependencies or not. -/
lemma rows_deleteWhere (h : c.rows = .ok rows) (element : Row → Bool)
    (dependency : DependencyRow → Bool) :
    (c.deleteWhere element dependency).2.commit.rows = .ok (rows.filter fun r => !element r) := by
  obtain ⟨t, htables, helements⟩ := rows_eq_ok_iff.mp h
  simp [Catalog.deleteWhere, Catalog.commit, Catalog.rows, htables, helements]

/-- The rows that are taken away are told by their number. -/
lemma count_deleteWhere (h : c.rows = .ok rows) (element : Row → Bool)
    (dependency : DependencyRow → Bool) :
    (c.deleteWhere element dependency).1 = rows.countP element := by
  obtain ⟨t, htables, helements⟩ := rows_eq_ok_iff.mp h
  simp [Catalog.deleteWhere, htables, helements]

/-- The catalog has these rows and, behind old dependencies, new ones between the given elements. -/
def Grown (c : Catalog) (rows : List Row) (deps : List DependencyRow)
    (pairs : List (String × String)) : Prop :=
  ∃ new, new.map (·.pair) = pairs ∧ c.Holds rows (deps ++ new)

/-- Storing in an open catalog: all elements, or those before the first that does not fit. -/
theorem Holds.store (h : c.Holds rows deps) (es : List Element) :
    ∃ done, done <+: es ∧
      (c.store es).2.Grown (Tables.upsertElements rows done) deps (dependencyPairs done) ∧
      ((c.store es).1 = .ok () ∧ done = es ∨ (c.store es).1 = .error .tooLarge) := by
  obtain ⟨t, ht, hholds⟩ := h
  by_cases hes : es = []
  · subst hes
    refine ⟨[], List.prefix_refl _, ⟨[], rfl, t, ?_, ?_⟩, Or.inl ⟨rfl, rfl⟩⟩
    · simpa [Catalog.store] using ht
    · simpa using hholds
  · have hne : es.isEmpty = false := by simpa using hes
    obtain ⟨t', done, new, hdone, hholds', hpairs, hend⟩ := Tables.storeAll_holds es hholds
    rcases hend with ⟨hok, rfl⟩ | herror
    · refine ⟨done, hdone, ⟨new, hpairs, t', ?_, hholds'⟩, Or.inl ⟨?_, rfl⟩⟩ <;>
        simp [Catalog.store, hne, ht, hok]
    · refine ⟨done, hdone, ⟨new, hpairs, t', ?_, hholds'⟩, Or.inr ?_⟩ <;>
        simp [Catalog.store, hne, ht, herror]

lemma Holds.store_ok (h : c.Holds rows deps) {es : List Element}
    (hfits : ∀ e ∈ es, (Row.ofElement e).storable = true) : (c.store es).1 = .ok () := by
  obtain ⟨t, ht, hholds⟩ := h
  obtain ⟨t', hall⟩ : ∃ t', t.storeAll es = (.ok (), t') :=
    ⟨_, Prod.ext (Tables.storeAll_ok hfits hholds) rfl⟩
  simp only [Catalog.store, ht, hall]
  split <;> rfl

end Catalog

end CodeAtlas
