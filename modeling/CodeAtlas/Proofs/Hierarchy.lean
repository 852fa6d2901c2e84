import CodeAtlas.Proofs.Outline

/-!
# Parents of headings

The parent of a heading is the nearest heading before it with a smaller level. It is found among the
headings that enclose the place where it stands. What has left them is hidden, whatever the next level
is, by a later heading whose level is not greater.
-/

namespace CodeAtlas.Outline

open CodeAtlas.Text

/-! ### The nearest smaller level -/

/-- Where the last level stands that is smaller than the given one, if there is any. -/
def IsNearest (before : List Int) (level : Int) : Option Nat → Prop
  | none => ∀ (k : Nat) l, before[k]? = some l → level ≤ l
  | some j => (∃ l, before[j]? = some l ∧ l < level) ∧
      ∀ (k : Nat) l, j < k → before[k]? = some l → level ≤ l

/-- Whatever level comes next, the nearest smaller one is the first that encloses it. -/
def Encloses (before : List Int) (enclosing : List (Int × Nat)) : Prop :=
  ∀ level, IsNearest before level ((enclosing.dropWhile fun e => level ≤ e.1).head?.map (·.2))

variable {before : List Int} {enclosing : List (Int × Nat)} {level l : Int}

lemma encloses_nil : Encloses [] [] := by
  intro level k l h
  simp at h

/-- Of a list with one more level, the old part and the new level. -/
lemma getElem?_concat_eq_some {k : Nat} {x : Int} (h : (before ++ [l])[k]? = some x) :
    before[k]? = some x ∨ k = before.length ∧ l = x := by
  rcases lt_trichotomy k before.length with hk | rfl | hk
  · rw [List.getElem?_append_left hk] at h
    exact Or.inl h
  · simp at h
    exact Or.inr ⟨rfl, h⟩
  · simp [hk] at h

/-- A level that is smaller is the nearest one as soon as it is there. -/
lemma isNearest_concat_self (h : l < level) :
    IsNearest (before ++ [l]) level (some before.length) := by
  refine ⟨⟨l, by simp, h⟩, fun k x hk hx => ?_⟩
  rcases getElem?_concat_eq_some hx with hx | ⟨rfl, _⟩
  · rw [List.getElem?_eq_none hk.le] at hx
    cases hx
  · exact absurd hk (lt_irrefl _)

/-- A level that is not smaller changes nothing. -/
lemma IsNearest.concat {p : Option Nat} (h : IsNearest before level p) (hl : level ≤ l) :
    IsNearest (before ++ [l]) level p := by
  cases p with
  | none =>
    intro k x hx
    rcases getElem?_concat_eq_some hx with hx | ⟨_, rfl⟩
    · exact h k x hx
    · exact hl
  | some j =>
    obtain ⟨⟨x, hx, hlt⟩, hlater⟩ := h
    have hj : j < before.length := (List.getElem?_eq_some_iff.mp hx).1
    refine ⟨⟨x, by rw [List.getElem?_append_left hj, hx], hlt⟩, fun k y hk hy => ?_⟩
    rcases getElem?_concat_eq_some hy with hy | ⟨_, rfl⟩
    · exact hlater k y hk hy
    · exact hl

/-- What a weaker condition drops goes with it. -/
lemma dropWhile_dropWhile {α : Type} {p q : α → Bool} (h : ∀ x, q x = true → p x = true)
    (xs : List α) : (xs.dropWhile q).dropWhile p = xs.dropWhile p := by
  induction xs with
  | nil => rfl
  | cons x xs ih =>
    by_cases hq : q x = true
    · rw [List.dropWhile_cons_of_pos hq, List.dropWhile_cons_of_pos (h x hq), ih]
    · rw [List.dropWhile_cons_of_neg hq]

/-- A new heading takes the place of those whose levels are not smaller. -/
theorem Encloses.push (h : Encloses before enclosing) (level : Int) :
    Encloses (before ++ [level])
      ((level, before.length) :: enclosing.dropWhile fun e => level ≤ e.1) := by
  intro next
  by_cases hnext : next ≤ level
  · -- The new heading cannot be the parent, and neither can those that it hides.
    have hhidden : ∀ e : Int × Nat, decide (level ≤ e.1) = true → decide (next ≤ e.1) = true :=
      fun e he => decide_eq_true (hnext.trans (of_decide_eq_true he))
    rw [List.dropWhile_cons_of_pos (by simpa using hnext), dropWhile_dropWhile hhidden]
    exact (h next).concat hnext
  · rw [List.dropWhile_cons_of_neg (by simpa using hnext)]
    exact isNearest_concat_self (not_le.mp hnext)

/-- Every heading gets the nearest one with a smaller level as its parent. -/
theorem parentsFrom_isNearest (h : Encloses before enclosing) {levels : List Int} {i : Nat}
    {p : Option Nat} (hlevel : levels[i]? = some level)
    (hp : (parentsFrom before.length enclosing levels)[i]? = some p) :
    IsNearest (before ++ levels.take i) level p := by
  induction levels generalizing before enclosing i with
  | nil => cases hlevel
  | cons first levels ih =>
    rw [parentsFrom] at hp
    cases i with
    | zero =>
      cases hlevel
      cases hp
      simpa using h level
    | succ i =>
      have hlength : before.length + 1 = (before ++ [first]).length := by simp
      rw [List.getElem?_cons_succ] at hlevel hp
      rw [hlength] at hp
      simpa using ih (h.push first) hlevel hp

/-! ### Elements and their headings -/

/-- The level of a heading, from the kind of its element. Other elements are no headings. -/
def levelOf : ElementKind → Nat
  | .h1 => 1
  | .h2 => 2
  | .h3 => 3
  | .h4 => 4
  | .h5 => 5
  | .h6 => 6
  | _ => 0

lemma levelOf_headingKind {level : Nat} (hone : 1 ≤ level) (hsix : level ≤ 6) :
    levelOf (headingKind level) = level := by
  interval_cases level <;> rfl

/-- The element of a heading is made from what follows it and from its parent. -/
lemma getElem?_headingElements (path : String) (ls : List (List Char)) (all : List Heading)
    {hs : List Heading} {ps : List (Option Nat)} (hlength : ps.length = hs.length) (i : Nat) :
    (headingElements path ls all hs ps)[i]? = hs[i]?.map fun h =>
      headingElement path ls h (hs.drop (i + 1)) (ps[i]?.join.bind fun j => all[j]?) := by
  induction hs generalizing ps i with
  | nil => rfl
  | cons h hs ih =>
    match ps, hlength with
    | p :: ps, hlength =>
      rw [headingElements]
      cases i with
      | zero => rfl
      | succ i => simpa using ih (Nat.succ.inj hlength) i

/-- The headings of a document with their levels, by the elements that they become. -/
lemma getElem?_elements {path : String} {content : List Char} {i : Nat} {x : Element}
    (hx : (elements (some path) content).elements[i]? = some x) :
    ∃ h p, (sortedHeadings content)[i]? = some h ∧ levelOf x.kind = h.level ∧
      (1 ≤ h.level ∧ h.level ≤ 6) ∧ x.id = headingId path.toList h ∧
      (parents ((sortedHeadings content).map fun h => (h.level : Int)))[i]? = some p ∧
      x.dependencies =
        (p.bind fun j => (sortedHeadings content)[j]?).toList.map (headingId path.toList) := by
  have hlength : (parents ((sortedHeadings content).map fun h => (h.level : Int))).length =
      (sortedHeadings content).length := by
    rw [parents, length_parentsFrom, List.length_map]
  rw [elements, documentElements, getElem?_headingElements _ _ _ hlength,
    Option.map_eq_some_iff] at hx
  obtain ⟨h, hh, rfl⟩ := hx
  have hi : i < (sortedHeadings content).length := (List.getElem?_eq_some_iff.mp hh).1
  obtain ⟨p, hp⟩ : ∃ p, (parents ((sortedHeadings content).map fun h => (h.level : Int)))[i]? =
      some p := ⟨_, List.getElem?_eq_getElem (hlength ▸ hi)⟩
  have hlevel : 1 ≤ h.level ∧ h.level ≤ 6 := by
    have hmem := List.mem_of_getElem? hh
    rw [sortedHeadings, List.mem_mergeSort] at hmem
    exact level_of_mem_allHeadings hmem
  refine ⟨h, p, hh, levelOf_headingKind hlevel.1 hlevel.2, hlevel, rfl, hp, ?_⟩
  rw [hp]
  rfl

/-- Every element is a heading with one of six levels, and depends on the last element before it with a
smaller level; if there is none, it depends on nothing. -/
def IsHierarchy (es : List Element) : Prop :=
  ∀ (i : Nat) (x : Element), es[i]? = some x → (1 ≤ levelOf x.kind ∧ levelOf x.kind ≤ 6) ∧
    ((x.dependencies = [] ∧
        ∀ (k : Nat) (y : Element), k < i → es[k]? = some y → levelOf x.kind ≤ levelOf y.kind) ∨
      ∃ (j : Nat) (y : Element), j < i ∧ es[j]? = some y ∧ levelOf y.kind < levelOf x.kind ∧
        x.dependencies = [y.id] ∧ ∀ (k : Nat) (z : Element), j < k → k < i → es[k]? = some z →
          levelOf x.kind ≤ levelOf z.kind)

/-- In every document the dependency of a heading is its parent: the nearest heading above it with a
smaller level. -/
theorem headings_depend_on_parents (path : String) (content : List Char) :
    IsHierarchy (elements (some path) content).elements := by
  intro i x hx
  obtain ⟨h, p, hh, hlevel, hsix, _, hp, hdependencies⟩ := getElem?_elements hx
  refine ⟨hlevel ▸ hsix, ?_⟩
  have hlevels : ((sortedHeadings content).map fun h => (h.level : Int))[i]? = some (h.level : Int) := by
    simp [hh]
  have hnearest := parentsFrom_isNearest encloses_nil hlevels hp
  rw [List.nil_append] at hnearest
  have hbefore : ∀ (k : Nat) (y : Element), k < i →
      (elements (some path) content).elements[k]? = some y →
      (((sortedHeadings content).map fun h => (h.level : Int)).take i)[k]? =
        some (levelOf y.kind : Int) := by
    intro k y hk hy
    obtain ⟨h', _, hh', hlevel', _⟩ := getElem?_elements hy
    simp [List.getElem?_take_of_lt hk, hh', hlevel']
  cases p with
  | none =>
    refine Or.inl ⟨hdependencies, fun k y hk hy => ?_⟩
    rw [hlevel]
    exact_mod_cast hnearest k _ (hbefore k y hk hy)
  | some j =>
    obtain ⟨⟨l, hl, hlt⟩, hlater⟩ := hnearest
    have hj : j < i := by
      have hlength := (List.getElem?_eq_some_iff.mp hl).1
      rw [List.length_take] at hlength
      exact (lt_min_iff.mp hlength).1
    have hi := (List.getElem?_eq_some_iff.mp hx).1
    obtain ⟨y, hy⟩ : ∃ y, (elements (some path) content).elements[j]? = some y :=
      ⟨_, List.getElem?_eq_getElem (hj.trans hi)⟩
    obtain ⟨h', _, hh', _, _, hid, _⟩ := getElem?_elements hy
    refine Or.inr ⟨j, y, hj, hy, ?_, ?_, fun k z hjk hk hz => ?_⟩
    · rw [hbefore j y hj hy, Option.some.injEq] at hl
      rw [hlevel]
      exact_mod_cast hl ▸ hlt
    · rw [hdependencies, hid]
      simp [hh']
    · rw [hlevel]
      exact_mod_cast hlater k _ hjk (hbefore k z hk hz)

lemma label_injective : Function.Injective ElementKind.label := by
  intro k k' h
  have hkind := ElementKind.ofLabel?_label k
  rw [h, ElementKind.ofLabel?_label, Option.some.injEq] at hkind
  exact hkind.symm

lemma closedLate_kinds :
    (elements (some "d.md") (document closedLate)).elements.map (·.kind) = [.h1, .h3, .h2] := by
  have hplaced : (placed 1 closedLate).map (fun p => (p.1.level, p.1.title, p.2)) =
      [(1, "A b".toList, 1), (3, "C1".toList, 5), (2, "D".toList, 6)] := by
    decide +kernel
  have hheadings := congrArg (List.map fun m : Nat × List Char × Nat => (headingKind m.1).label)
    ((allHeadings_document closedLate).trans hplaced)
  have helements := congrArg (List.map Prod.fst) (map_elements "d.md" (document closedLate))
  rw [List.map_map, ← sortedHeadings_document] at hheadings
  rw [List.map_map, List.map_map] at helements
  refine List.map_injective_iff.mpr label_injective ?_
  rw [List.map_map]
  exact helements.trans hheadings

/-- The second and the third section lie below the first. -/
theorem closedLate_parents : ∃ a b c,
    (elements (some "d.md") (document closedLate)).elements = [a, b, c] ∧
    a.dependencies = [] ∧ b.dependencies = [a.id] ∧ c.dependencies = [a.id] := by
  have hhierarchy := headings_depend_on_parents "d.md" (document closedLate)
  have hkinds := closedLate_kinds
  generalize (elements (some "d.md") (document closedLate)).elements = es at hhierarchy hkinds ⊢
  obtain ⟨a, b, c, rfl⟩ := List.length_eq_three.mp (by simpa using congrArg List.length hkinds)
  obtain ⟨ha, hb, hc⟩ : a.kind = .h1 ∧ b.kind = .h3 ∧ c.kind = .h2 := by simpa using hkinds
  refine ⟨a, b, c, rfl, ?_, ?_, ?_⟩
  · rcases (hhierarchy 0 a rfl).2 with ⟨hnone, _⟩ | ⟨j, _, hj, _⟩
    · exact hnone
    · exact absurd hj (Nat.not_lt_zero j)
  · rcases (hhierarchy 1 b rfl).2 with ⟨_, hnone⟩ | ⟨j, y, hj, hy, _, hparent, _⟩
    · have hle := hnone 0 a (by decide) rfl
      rw [ha, hb] at hle
      exact absurd hle (by decide)
    · obtain rfl : j = 0 := by omega
      cases hy
      exact hparent
  · rcases (hhierarchy 2 c rfl).2 with ⟨_, hnone⟩ | ⟨j, y, hj, hy, hlt, hparent, _⟩
    · have hle := hnone 0 a (by decide) rfl
      rw [ha, hc] at hle
      exact absurd hle (by decide)
    · obtain rfl | rfl : j = 0 ∨ j = 1 := by omega
      · cases hy
        exact hparent
      · cases hy
        rw [hb, hc] at hlt
        exact absurd hlt (by decide)

end CodeAtlas.Outline
