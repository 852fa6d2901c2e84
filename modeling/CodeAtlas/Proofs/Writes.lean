import CodeAtlas.Catalog.Query
import CodeAtlas.Proofs.Catalog

/-!
# Storing again and again

Lists of elements are stored one list after the other, and an identifier may come back in the same list
or in a later one. In the end there is one row for each identifier that was ever stored. It carries the
last element under its identifier, and the rows stand in the order in which their identifiers were last
written. The numbers that are told about the catalog add up to the number of identifiers.
-/

namespace CodeAtlas

/-! ### When a key was last written -/

section

variable {α : Type} {key : α → String} {k : String}

/-- The place of the last record under a key, counted from one; zero if there is none. -/
def lastWrite (key : α → String) (k : String) (xs : List α) : Nat :=
  xs.length - xs.reverse.findIdx fun x => key x == k

lemma lastWrite_concat (xs : List α) (x : α) :
    lastWrite key k (xs ++ [x]) = if key x = k then xs.length + 1 else lastWrite key k xs := by
  by_cases h : key x = k
  · simp [lastWrite, List.findIdx_cons, h]
  · have hne : (key x == k) = false := by simpa using h
    simp [lastWrite, List.findIdx_cons, h, hne]

lemma lastWrite_le (xs : List α) : lastWrite key k xs ≤ xs.length :=
  Nat.sub_le _ _

end

/-! ### The rows -/

/-- A row carries what an element says. -/
structure Row.Carries (r : Row) (x : Element) : Prop where
  id : r.id = x.id
  kind : r.kind = x.kind
  name : r.name = x.name
  content : r.content = x.content
  filePath : r.filePath = x.filePath
  lineStart : r.lineStart = x.location.lineStart
  lineEnd : r.lineEnd = x.location.lineEnd
  language : r.language = x.metadata.language
  complexity : r.complexity = x.metadata.complexity
  linesOfCode : r.linesOfCode = x.metadata.linesOfCode
  author : r.author = x.metadata.author

lemma Row.ofElement_carries (x : Element) : (Row.ofElement x).Carries x := by
  constructor <;> rfl

namespace Tables

/-- The rows that elements leave in a table that was empty. -/
structure Records (es : List Element) (rows : List Row) : Prop where
  nodup : (rows.map (·.id)).Nodup
  mem_ids_iff : ∀ k, k ∈ rows.map (·.id) ↔ k ∈ es.map (·.id)
  carries : ∀ r ∈ rows, ∃ x, lastWith Element.id r.id es = some x ∧ r.Carries x
  ordered : rows.Pairwise fun r s => lastWrite Element.id r.id es < lastWrite Element.id s.id es

lemma upsertElements_append (rows : List Row) (es fs : List Element) :
    upsertElements rows (es ++ fs) = upsertElements (upsertElements rows es) fs := by
  simp [upsertElements, List.foldl_append]

/-- A row that is written goes behind all others, and the others keep their order. -/
lemma ordered_upsertElements (es : List Element) :
    (upsertElements [] es).Pairwise fun r s =>
      lastWrite Element.id r.id es < lastWrite Element.id s.id es := by
  induction es using List.reverseRecOn with
  | nil => exact List.Pairwise.nil
  | append_singleton es e ih =>
    rw [upsertElements_append, upsertElements_cons, upsertElements_nil, upsertRow,
      List.pairwise_append]
    have hother : ∀ r ∈ (upsertElements [] es).filter (·.id != (Row.ofElement e).id),
        e.id ≠ r.id := by
      intro r hr he
      have hne := (List.mem_filter.mp hr).2
      rw [bne_iff_ne] at hne
      exact hne he.symm
    refine ⟨?_, List.pairwise_singleton _ _, ?_⟩
    · refine (ih.filter _).imp_of_mem fun hr hs hlt => ?_
      rwa [lastWrite_concat, lastWrite_concat, if_neg (hother _ hr), if_neg (hother _ hs)]
    · intro r hr s hs
      have hid : e.id = s.id := congrArg Row.id (List.mem_singleton.mp hs).symm
      rw [lastWrite_concat, lastWrite_concat, if_neg (hother r hr), if_pos hid]
      exact Nat.lt_succ_of_le (lastWrite_le es)

theorem records_upsertElements (es : List Element) : Records es (upsertElements [] es) where
  nodup := by
    apply nodup_upsertElements
    exact List.nodup_nil
  mem_ids_iff k := by
    rw [ids_upsertElements]
    simp
  carries r hr := by
    rcases (mem_upsertElements_iff [] es r).mp hr with ⟨x, hx, rfl⟩ | ⟨hnil, _⟩
    · exact ⟨x, hx, Row.ofElement_carries x⟩
    · cases hnil
  ordered := ordered_upsertElements es

/-- There are as many rows as identifiers. -/
lemma Records.length_eq {es : List Element} {rows : List Row} (h : Records es rows) :
    rows.length = (es.map (·.id)).toFinset.card := by
  have hsame : (rows.map (·.id)).toFinset = (es.map (·.id)).toFinset := by
    ext k
    rw [List.mem_toFinset, List.mem_toFinset, h.mem_ids_iff]
  rw [← hsame, List.toFinset_card_of_nodup h.nodup, List.length_map]

end Tables

/-! ### Counting -/

section Order

variable {α β : Type}

lemma mem_sortOn [LE β] [DecidableLE β] {key : α → β} {xs : List α} {x : α} :
    x ∈ sortOn key xs ↔ x ∈ xs :=
  List.mem_mergeSort

lemma sortOn_perm [LE β] [DecidableLE β] (key : α → β) (xs : List α) : (sortOn key xs).Perm xs :=
  List.mergeSort_perm xs _

lemma pairwise_sortOn [LE β] [DecidableLE β] (htrans : ∀ a b c : β, a ≤ b → b ≤ c → a ≤ c)
    (htotal : ∀ a b : β, a ≤ b ∨ b ≤ a) (key : α → β) (xs : List α) :
    (sortOn key xs).Pairwise fun x y => key x ≤ key y := by
  have hsorted : (sortOn key xs).Pairwise fun x y => decide (key x ≤ key y) = true := by
    apply List.pairwise_mergeSort
    · intro x y z hxy hyz
      simp only [decide_eq_true_eq] at hxy hyz ⊢
      exact htrans _ _ _ hxy hyz
    · intro x y
      simpa using htotal (key x) (key y)
  simpa using hsorted

lemma mem_distinct [BEq α] [LawfulBEq α] {xs : List α} {x : α} : x ∈ distinct xs ↔ x ∈ xs :=
  List.mem_eraseDups

end Order

lemma nodup_distinct {α : Type} [BEq α] [LawfulBEq α] (xs : List α) : (distinct xs).Nodup := by
  match xs with
  | [] => exact List.nodup_nil
  | x :: xs =>
    rw [distinct, List.eraseDups_cons, List.nodup_cons]
    refine ⟨fun hx => ?_, nodup_distinct (xs.filter fun y => !y == x)⟩
    simpa using List.mem_eraseDups.mp hx
termination_by xs.length
decreasing_by
  have hle := List.length_filter_le (fun y => !y == x) xs
  simp only [List.length_cons]
  omega

lemma distinct_perm_dedup (xs : List String) : (distinct xs).Perm xs.dedup := by
  rw [List.perm_ext_iff_of_nodup (nodup_distinct xs) xs.nodup_dedup]
  intro x
  rw [distinct, List.mem_eraseDups, List.mem_dedup]

/-- A table of how often the rows have each of their texts. -/
structure Counts (text : Row → String) (rows : List Row) (counts : List (String × Nat)) : Prop where
  nodup : (counts.map (·.1)).Nodup
  mem_iff : ∀ x n, (x, n) ∈ counts ↔ (∃ r ∈ rows, text r = x) ∧ n = rows.countP (text · == x)
  sum_eq : (counts.map (·.2)).sum = rows.length

theorem counts_tally (text : Row → String) (rows : List Row) :
    Counts text rows (tally (rows.map text)) where
  nodup := by
    have hkeys : (tally (rows.map text)).map (·.1) = sortOn id (distinct (rows.map text)) := by
      simp [tally, Function.comp_def]
    rw [hkeys]
    exact (List.mergeSort_perm _ _).nodup_iff.mpr (nodup_distinct _)
  mem_iff x n := by
    have hmem : x ∈ sortOn id (distinct (rows.map text)) ↔ ∃ r ∈ rows, text r = x := by
      rw [sortOn, List.mem_mergeSort, distinct, List.mem_eraseDups, List.mem_map]
    rw [tally, List.mem_map, ← hmem]
    constructor
    · rintro ⟨y, hy, hpair⟩
      obtain ⟨rfl, rfl⟩ := Prod.mk.inj hpair
      exact ⟨hy, List.countP_map⟩
    · rintro ⟨hx, rfl⟩
      exact ⟨x, hx, Prod.ext rfl List.countP_map⟩
  sum_eq := by
    have hperm : ((tally (rows.map text)).map (·.2)).Perm
        ((rows.map text).dedup.map fun x => (rows.map text).count x) := by
      rw [tally, List.map_map]
      exact ((List.mergeSort_perm _ _).trans (distinct_perm_dedup _)).map _
    rw [hperm.sum_eq, List.sum_map_count_dedup_eq_length, List.length_map]

namespace Catalog

variable {c : Catalog} {rows : List Row} {deps : List DependencyRow}

lemma Holds.stats_eq (h : c.Holds rows deps) :
    c.stats = (.counts rows.length (tally (rows.map (·.kind.label)))
      (tally (rows.map (·.language))), []) := by
  obtain ⟨t, ht, _⟩ := id h
  simp [stats, h.rows_eq, ht]

/-! ### Many calls -/

/-- Stores lists of elements one after the other, up to the first that fails. -/
def storeCalls (c : Catalog) : List (List Element) → Except Failure Unit × Catalog
  | [] => (.ok (), c)
  | es :: calls =>
    match c.store es with
    | (.ok _, c') => c'.storeCalls calls
    | (.error f, c') => (.error f, c')

/-- If no call fails, it is as if all elements had been stored at once. -/
theorem Holds.storeCalls (h : c.Holds rows deps) (calls : List (List Element))
    (hok : (c.storeCalls calls).1 = .ok ()) :
    ∃ deps', (c.storeCalls calls).2.Holds (Tables.upsertElements rows calls.flatten) deps' := by
  induction calls generalizing c rows deps with
  | nil => exact ⟨deps, h⟩
  | cons es calls ih =>
    obtain ⟨done, _, ⟨new, _, hholds⟩, hend⟩ := h.store es
    rcases hend with ⟨hstore, rfl⟩ | hstore
    · have hstep : c.storeCalls (done :: calls) = (c.store done).2.storeCalls calls := by
        rw [Catalog.storeCalls, ← Prod.mk.eta (p := c.store done), hstore]
      rw [hstep] at hok ⊢
      rw [List.flatten_cons, Tables.upsertElements_append]
      exact ih hholds hok
    · rw [Catalog.storeCalls, ← Prod.mk.eta (p := c.store es), hstore] at hok
      cases hok

lemma Holds.storeCalls_ok (h : c.Holds rows deps) {calls : List (List Element)}
    (hfits : ∀ x ∈ calls.flatten, (Row.ofElement x).storable = true) :
    (c.storeCalls calls).1 = .ok () := by
  induction calls generalizing c rows deps with
  | nil => rfl
  | cons es calls ih =>
    rw [List.flatten_cons, List.forall_mem_append] at hfits
    have hok := h.store_ok hfits.1
    obtain ⟨done, _, ⟨new, _, hholds⟩, _⟩ := h.store es
    rw [Catalog.storeCalls, ← Prod.mk.eta (p := c.store es), hok]
    exact ih hholds hfits.2

/-- Where no identifier comes twice and all numbers fit, no element is lost: behind the old rows that
are left there is one row for each element, in order. -/
theorem Holds.storeCalls_of_nodup (h : c.Holds rows deps) {calls : List (List Element)}
    (hids : (calls.flatten.map (·.id)).Nodup)
    (hfits : ∀ x ∈ calls.flatten, (Row.ofElement x).storable = true) :
    (c.storeCalls calls).1 = .ok () ∧ ∃ old new deps', old.Sublist rows ∧
      List.Forall₂ Row.Carries new calls.flatten ∧
      (c.storeCalls calls).2.Holds (old ++ new) deps' := by
  have hok := h.storeCalls_ok hfits
  obtain ⟨deps', hholds⟩ := h.storeCalls calls hok
  rw [Tables.upsertElements_of_nodup rows hids] at hholds
  refine ⟨hok, _, _, _, List.filter_sublist, ?_, hholds⟩
  rw [List.forall₂_map_left_iff, List.forall₂_same]
  exact fun x _ => Row.ofElement_carries x

/-- What any number of calls leaves in a catalog that was empty, if none of them fails: one row for each
identifier, with the last element under it, in the order of the last writes. The rows are counted by
kind and by language, and both counts add up to the number of identifiers. -/
theorem last_write_wins {calls : List (List Element)} (hempty : c.Holds [] [])
    (hok : (c.storeCalls calls).1 = .ok ()) :
    ∃ rows deps byKind byLanguage,
      (c.storeCalls calls).2.Holds rows deps ∧ Tables.Records calls.flatten rows ∧
      rows.length = (calls.flatten.map (·.id)).toFinset.card ∧
      (c.storeCalls calls).2.stats = (.counts rows.length byKind byLanguage, []) ∧
      Counts (·.kind.label) rows byKind ∧ Counts (·.language) rows byLanguage := by
  obtain ⟨deps, hholds⟩ := hempty.storeCalls calls hok
  have hrecords := Tables.records_upsertElements calls.flatten
  exact ⟨_, deps, _, _, hholds, hrecords, hrecords.length_eq, hholds.stats_eq, counts_tally _ _,
    counts_tally _ _⟩

/-- An element of which only the identifier, the kind and the name matter. -/
def sketch (id : String) (kind : ElementKind) (name : String) : Element :=
  { id, kind, name, content := "", filePath := "f", location := ⟨1, 1, 0, 0⟩
    metadata := { language := "text" } }

/-- Calls in which `a` comes back in the same call and `b` in a later one. -/
def overlapping : List (List Element) :=
  [[sketch "a" .module "a₁", sketch "b" .module "b₁", sketch "a" .function "a₂"], [],
    [sketch "c" .function "c₁", sketch "b" .classDef "b₂"]]

/-- A catalog that was just opened. -/
def fresh : Catalog := { tables := some {} }

theorem overlapping_calls :
    ∃ rows deps byKind byLanguage,
      (fresh.storeCalls overlapping).2.Holds rows deps ∧ Tables.Records overlapping.flatten rows ∧
      rows.length = 3 ∧ rows.map (fun r => (r.id, r.name)) = [("a", "a₂"), ("c", "c₁"), ("b", "b₂")] ∧
      (fresh.storeCalls overlapping).2.stats = (.counts 3 byKind byLanguage, []) ∧
      Counts (·.kind.label) rows byKind ∧ Counts (·.language) rows byLanguage := by
  have hempty : fresh.Holds [] [] := ⟨{}, rfl, rfl, rfl⟩
  have hok : (fresh.storeCalls overlapping).1 = .ok () := rfl
  obtain ⟨rows, deps, byKind, byLanguage, hholds, hrecords, hlength, hstats, hkind, hlanguage⟩ :=
    last_write_wins hempty hok
  have hthree : rows.length = 3 := hlength
  have hrows : (fresh.storeCalls overlapping).2.rows.toOption.map
      (·.map fun r => (r.id, r.name)) = some [("a", "a₂"), ("c", "c₁"), ("b", "b₂")] := by
    decide +kernel
  rw [hholds.rows_eq] at hrows
  rw [hthree] at hstats
  exact ⟨rows, deps, byKind, byLanguage, hholds, hrecords, hthree, Option.some.inj hrows, hstats, hkind,
    hlanguage⟩

end Catalog

end CodeAtlas
