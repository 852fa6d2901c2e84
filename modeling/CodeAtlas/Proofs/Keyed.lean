import CodeAtlas.Catalog.Basic
import CodeAtlas.Vectors.Collection
import Mathlib.Tactic

/-!
# Tables with keys

A table holds records under keys, none under two. A record that is put in takes the place of the one
under its key, wherever it goes itself. After any number of records the table has, under each key,
the last record that was put in under it.
-/

namespace CodeAtlas

variable {α β : Type}

/-! ### The last record under a key -/

/-- The last of the records under a key. -/
def lastWith (key : α → String) (k : String) (xs : List α) : Option α :=
  xs.reverse.find? fun x => key x == k

@[simp] lemma lastWith_nil (key : α → String) (k : String) : lastWith key k [] = none := rfl

@[simp] lemma lastWith_concat (key : α → String) (k : String) (xs : List α) (x : α) :
    lastWith key k (xs ++ [x]) = if key x = k then some x else lastWith key k xs := by
  by_cases h : key x = k <;> simp [lastWith, h]

lemma lastWith_mem {key : α → String} {k : String} {xs : List α} {x : α}
    (h : lastWith key k xs = some x) : x ∈ xs :=
  List.mem_reverse.mp (List.mem_of_find?_eq_some h)

lemma lastWith_key {key : α → String} {k : String} {xs : List α} {x : α}
    (h : lastWith key k xs = some x) : key x = k := by
  simpa using List.find?_some h

lemma lastWith_eq_none_iff {key : α → String} {k : String} {xs : List α} :
    lastWith key k xs = none ↔ k ∉ xs.map key := by
  simp [lastWith, List.find?_eq_none]

lemma exists_lastWith_iff {key : α → String} {k : String} {xs : List α} :
    (∃ x, lastWith key k xs = some x) ↔ k ∈ xs.map key := by
  rw [← Option.isSome_iff_exists, ← Option.ne_none_iff_isSome, Ne, lastWith_eq_none_iff, not_not]

/-- Records made of others, under the same keys. -/
lemma lastWith_map {key : α → String} {key' : β → String} {f : α → β}
    (hf : ∀ x, key' (f x) = key x) (k : String) (xs : List α) :
    lastWith key' k (xs.map f) = (lastWith key k xs).map f := by
  induction xs using List.reverseRecOn with
  | nil => rfl
  | append_singleton xs x ih =>
    rw [List.map_append, List.map_singleton, lastWith_concat, lastWith_concat, hf, ih]
    split <;> rfl

/-! ### Putting records in -/

/-- What it takes for `put` to put records in under their keys, in tables with `inv`. -/
structure IsUpsert (key : α → String) (inv : List α → Prop) (put : List α → α → List α) : Prop where
  keeps : ∀ t r, inv t → inv (put t r)
  /-- The keys are those that were there, and the new one. -/
  keys : ∀ t r k, k ∈ (put t r).map key ↔ k = key r ∨ k ∈ t.map key
  /-- The records are the new one, and those that were there under other keys. -/
  mem_iff : ∀ t r x, inv t → (x ∈ put t r ↔ x = r ∨ x ∈ t ∧ key x ≠ key r)

namespace IsUpsert

variable {key : α → String} {inv : List α → Prop} {put : List α → α → List α}

theorem keys_foldl (h : IsUpsert key inv put) (t rs : List α) (k : String) :
    k ∈ (rs.foldl put t).map key ↔ k ∈ rs.map key ∨ k ∈ t.map key := by
  induction rs generalizing t with
  | nil => simp
  | cons r rs ih =>
    rw [List.foldl_cons, ih (put t r), h.keys, List.map_cons, List.mem_cons]
    tauto

theorem keeps_foldl (h : IsUpsert key inv put) {t : List α} (ht : inv t) (rs : List α) :
    inv (rs.foldl put t) := by
  induction rs generalizing t with
  | nil => exact ht
  | cons r rs ih => exact ih (h.keeps t r ht)

/-- The last record under a key wins, and a key that no new record has keeps its old one. -/
theorem mem_foldl_iff (h : IsUpsert key inv put) {t : List α} (ht : inv t) (rs : List α) (x : α) :
    x ∈ rs.foldl put t ↔ lastWith key (key x) rs = some x ∨ x ∈ t ∧ key x ∉ rs.map key := by
  -- The records are taken from the end: the last one decides about its key, the others about the rest.
  induction rs using List.reverseRecOn with
  | nil => simp
  | append_singleton rs r ih =>
    rw [List.foldl_append, List.foldl_cons, List.foldl_nil,
      h.mem_iff _ _ _ (h.keeps_foldl ht rs), ih, lastWith_concat]
    simp only [List.map_append, List.map_singleton, List.mem_append, List.mem_singleton, not_or]
    by_cases hkey : key r = key x
    · rw [if_pos hkey, Option.some.injEq]
      constructor
      · rintro (rfl | ⟨_, hne⟩)
        · exact Or.inl rfl
        · exact absurd hkey.symm hne
      · rintro (rfl | ⟨_, _, hne⟩)
        · exact Or.inl rfl
        · exact absurd hkey.symm hne
    · have hne : key x ≠ key r := fun he => hkey he.symm
      have hxr : x ≠ r := fun he => hne (congrArg key he)
      rw [if_neg hkey]
      simp only [hxr, false_or, hne, ne_eq, not_false_eq_true, and_true]

end IsUpsert

/-! ### The two stores -/

/-- In the catalog a new row goes to the end. -/
theorem isUpsert_rows : IsUpsert Row.id (fun _ => True) (fun rows r => Tables.upsertRow r rows) where
  keeps _ _ h := h
  keys rows r k := by
    simp only [Tables.upsertRow, List.map_append, List.map_singleton, List.mem_append,
      List.mem_singleton, List.mem_map, List.mem_filter, bne_iff_ne]
    constructor
    · rintro (⟨s, ⟨hs, _⟩, rfl⟩ | rfl)
      · exact Or.inr ⟨s, hs, rfl⟩
      · exact Or.inl rfl
    · rintro (rfl | ⟨s, hs, rfl⟩)
      · exact Or.inr rfl
      · by_cases he : s.id = r.id
        · exact Or.inr he
        · exact Or.inl ⟨s, ⟨hs, he⟩, rfl⟩
  mem_iff rows r x _ := by
    simp only [Tables.upsertRow, List.mem_append, List.mem_filter, bne_iff_ne, List.mem_singleton]
    exact Or.comm

lemma Tables.nodup_upsertRow (rows : List Row) (r : Row) (h : (rows.map (·.id)).Nodup) :
    ((Tables.upsertRow r rows).map (·.id)).Nodup := by
  rw [Tables.upsertRow, List.map_append, List.map_singleton]
  refine List.Nodup.append (h.sublist (List.filter_sublist.map _)) (List.nodup_singleton _) ?_
  simp

lemma Collection.keys_upsert (c : Collection) (e : Entry) (k : String) :
    k ∈ (c.upsert e).map (·.id) ↔ k = e.id ∨ k ∈ c.map (·.id) := by
  induction c with
  | nil => simp [Collection.upsert]
  | cons d rest ih =>
    by_cases hd : d.id = e.id
    · simp [Collection.upsert, hd]
    · simp only [Collection.upsert, hd, if_false, List.map_cons, List.mem_cons, ih]
      tauto

lemma Collection.mem_upsert_iff (c : Collection) (e x : Entry) (h : (c.map (·.id)).Nodup) :
    x ∈ c.upsert e ↔ x = e ∨ x ∈ c ∧ x.id ≠ e.id := by
  induction c with
  | nil => simp [Collection.upsert]
  | cons d rest ih =>
    rw [List.map_cons, List.nodup_cons] at h
    by_cases hd : d.id = e.id
    · -- The entry that goes was the only one under its key.
      have hrest : x ∈ rest → x.id ≠ e.id := fun hx he =>
        h.1 (hd ▸ he ▸ List.mem_map_of_mem hx)
      simp only [Collection.upsert, hd, if_true, List.mem_cons]
      constructor
      · rintro (rfl | hx)
        · exact Or.inl rfl
        · exact Or.inr ⟨Or.inr hx, hrest hx⟩
      · rintro (rfl | ⟨rfl | hx, hne⟩)
        · exact Or.inl rfl
        · exact absurd hd hne
        · exact Or.inr hx
    · simp only [Collection.upsert, hd, if_false, List.mem_cons, ih h.2]
      constructor
      · rintro (rfl | rfl | ⟨hx, hne⟩)
        · exact Or.inr ⟨Or.inl rfl, hd⟩
        · exact Or.inl rfl
        · exact Or.inr ⟨Or.inr hx, hne⟩
      · rintro (rfl | ⟨rfl | hx, hne⟩)
        · exact Or.inr (Or.inl rfl)
        · exact Or.inl rfl
        · exact Or.inr (Or.inr ⟨hx, hne⟩)

lemma Collection.nodup_upsert (c : Collection) (e : Entry) (h : (c.map (·.id)).Nodup) :
    ((c.upsert e).map (·.id)).Nodup := by
  induction c with
  | nil => simp [Collection.upsert]
  | cons d rest ih =>
    rw [List.map_cons, List.nodup_cons] at h
    by_cases hd : d.id = e.id
    · simp only [Collection.upsert, hd, if_true, List.map_cons, List.nodup_cons]
      exact hd ▸ h
    · simp only [Collection.upsert, hd, if_false, List.map_cons, List.nodup_cons]
      refine ⟨?_, ih h.2⟩
      rw [Collection.keys_upsert]
      rintro (he | he)
      · exact hd he
      · exact h.1 he

/-- In a collection a new entry takes the place of the old one, if there are no two of them. -/
theorem isUpsert_entries :
    IsUpsert Entry.id (fun c => (c.map (·.id)).Nodup) Collection.upsert where
  keeps := Collection.nodup_upsert
  keys := Collection.keys_upsert
  mem_iff := Collection.mem_upsert_iff

end CodeAtlas
