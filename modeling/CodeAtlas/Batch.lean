/-!
# Parts of lists

A long list is worked through in batches: pieces of a fixed length, the last of which may be shorter.
Of a list that is too long to be shown, only a leading part is.
-/

namespace CodeAtlas

variable {α : Type}

/-- The first `n` items; a negative number leaves out as many at the end. -/
def leading (n : Int) (xs : List α) : List α :=
  if 0 ≤ n then xs.take n.toNat else xs.take (xs.length - n.natAbs)

/-- The pieces of a list, each with `n` items; there are none of length zero. -/
def batches (n : Nat) (xs : List α) : List (List α) :=
  if _h : n = 0 ∨ xs = [] then []
  else xs.take n :: batches n (xs.drop n)
termination_by xs.length
decreasing_by
  have : xs.length ≠ 0 := by
    intro h0
    exact _h (Or.inr (List.length_eq_zero_iff.mp h0))
  simp only [List.length_drop]
  omega

theorem batches_nil (n : Nat) : batches n ([] : List α) = [] := by
  unfold batches
  simp

theorem batches_of_ne_nil {n : Nat} {xs : List α} (hn : n ≠ 0) (hxs : xs ≠ []) :
    batches n xs = xs.take n :: batches n (xs.drop n) := by
  rw [batches]
  simp [hn, hxs]

/-- The batches of a list hold its items in order. -/
theorem flatten_batches {n : Nat} (hn : n ≠ 0) (xs : List α) : (batches n xs).flatten = xs := by
  by_cases hxs : xs = []
  · subst hxs
    simp [batches_nil]
  · rw [batches_of_ne_nil hn hxs, List.flatten_cons, flatten_batches hn (xs.drop n),
      List.take_append_drop]
termination_by xs.length
decreasing_by
  have : xs.length ≠ 0 := fun h0 => hxs (List.length_eq_zero_iff.mp h0)
  simp only [List.length_drop]
  omega

/-- There are as many batches as needed: all but the last are full. -/
theorem length_batches {n : Nat} (hn : n ≠ 0) (xs : List α) :
    (batches n xs).length = (xs.length + n - 1) / n := by
  by_cases hxs : xs = []
  · subst hxs
    rw [batches_nil, List.length_nil, List.length_nil, Nat.div_eq_of_lt (by omega)]
  · have hlength : xs.length ≠ 0 := fun h0 => hxs (List.length_eq_zero_iff.mp h0)
    have hrest : (xs.length - n + n - 1) / n = (xs.length - 1) / n := by
      by_cases hlast : xs.length < n
      · rw [Nat.div_eq_of_lt (by omega), Nat.div_eq_of_lt (by omega)]
      · congr 1
        omega
    have hall : xs.length + n - 1 = xs.length - 1 + n := by omega
    rw [batches_of_ne_nil hn hxs, List.length_cons, length_batches hn (xs.drop n), List.length_drop,
      hrest, hall, Nat.add_div_right _ (by omega)]
termination_by xs.length
decreasing_by
  simp only [List.length_drop]
  omega

/-- Lists that go side by side are cut at the same positions. -/
theorem batches_map {β : Type} (f : α → β) (n : Nat) (xs : List α) :
    batches n (xs.map f) = (batches n xs).map (List.map f) := by
  by_cases h : n = 0 ∨ xs = []
  · have hmap : n = 0 ∨ xs.map f = [] := h.imp_right fun hxs => by rw [hxs, List.map_nil]
    rw [batches, dif_pos hmap, batches, dif_pos h, List.map_nil]
  · have hxs : xs.map f ≠ [] := fun hmap => h (Or.inr (List.map_eq_nil_iff.mp hmap))
    rw [batches_of_ne_nil (fun hn => h (Or.inl hn)) hxs,
      batches_of_ne_nil (fun hn => h (Or.inl hn)) (fun hnil => h (Or.inr hnil)), List.map_cons,
      ← List.map_take, ← List.map_drop, batches_map f n (xs.drop n)]
termination_by xs.length
decreasing_by
  have hlength : xs.length ≠ 0 := fun h0 => h (Or.inr (List.length_eq_zero_iff.mp h0))
  simp only [List.length_drop]
  omega

end CodeAtlas
