import CodeAtlas.Proofs.Stores

/-!
# Clearing in spite of refusals

The collection is cleared batch by batch, and the database may refuse to go on at any of them. Clearing
then fails with some of the entries left. A project is cleared nevertheless: the collection is dropped
and made anew under its name, and by then the rows are gone and committed.
-/

namespace CodeAtlas

open CodeAtlas.Action

namespace Behaviour

variable {b : Behaviour} {op : Operation}

/-- Every operation can be carried out as often as needed. -/
def Suffices (b : Behaviour) (need : Operation → Nat) : Prop :=
  ∀ op, b.Allows op (need op)

lemma operation_of_refusal? {r : Refusal} (h : b.refusal? op = some r) : r.operation = op := by
  simpa using List.find?_some h

/-- What is needed if an operation comes first. -/
def once (op : Operation) (need : Operation → Nat) : Operation → Nat :=
  fun op' => if op' = op then need op' + 1 else need op'

lemma suffices_of_none (h : b.refusal? op = none) (need : Operation → Nat) :
    b.Suffices (once op need) ↔ b.Suffices need := by
  refine forall_congr' fun op' => ?_
  by_cases hop : op' = op
  · subst hop
    simp [Allows, h]
  · rw [once, if_neg hop]

/-- An operation that is carried out takes its part of what is allowed. -/
lemma suffices_wear {r : Refusal} (h : b.refusal? op = some r) (hpatience : r.patience ≠ 0)
    (need : Operation → Nat) : b.Suffices (once op need) ↔ (b.wear op).Suffices need := by
  refine forall_congr' fun op' => ?_
  simp only [Allows, refusal?_wear, once]
  by_cases hop : op' = op
  · subst hop
    have hworn : r.operation = op' := operation_of_refusal? h
    simp only [h, Option.map_some, hworn, Option.some.injEq, forall_eq', beq_self_eq_true, if_true]
    omega
  · simp only [hop, if_false, Option.map_eq_some_iff, forall_exists_index, and_imp]
    constructor
    · rintro hall _ r' hr' rfl
      have hkept : r'.operation ≠ op := operation_of_refusal? hr' ▸ hop
      simpa [hkept] using hall r' hr'
    · intro hall r' hr'
      have hkept : r'.operation ≠ op := operation_of_refusal? hr' ▸ hop
      simpa [hkept] using hall _ r' hr' rfl

end Behaviour

namespace VectorStore

open Behaviour

variable {c : Collection}

/-! ### When clearing fails -/

/-- How often clearing a collection asks for an operation. -/
def callsToClear (c : Collection) : Operation → Nat
  | .count => 1
  | .get => if c.isEmpty then 0 else 1
  | .delete => (c.length + deleteSize - 1) / deleteSize
  | _ => 0

/-- So many batches are deleted, and nothing else is asked for. -/
def deletions (n : Nat) : Operation → Nat
  | .delete => n
  | _ => 0

lemma deletions_succ (n : Nat) : deletions (n + 1) = once .delete (deletions n) := by
  funext op
  cases op <;> rfl

lemma callsToClear_nil : callsToClear [] = once .count (deletions 0) := by
  funext op
  cases op <;> rfl

lemma callsToClear_of_ne_nil (hc : c ≠ []) :
    callsToClear c =
      once .count (once .get (deletions (batches deleteSize (c.map (·.id))).length)) := by
  rw [length_batches (by decide), List.length_map]
  have hempty : c.isEmpty = false := by simpa using hc
  funext op
  cases op <;> simp [callsToClear, once, deletions, hempty]

/-- Whether `P` holds is told by what is allowed from now on; an operation that fails refutes it. -/
lemma permit_suffices {P : Prop} (op : Operation) (need : Operation → Nat) :
    Spec (fun v => P ↔ v.behaviour.Suffices (once op need)) (permit op)
      (fun _ v => P ↔ v.behaviour.Suffices need) (fun _ _ => ¬ P) := by
  refine permit_rule (fun v hv hr => ?_) (fun v r hv hr hpatience => ?_)
    fun v r hv hr hpatience hP => ?_
  · exact hv.trans (suffices_of_none hr need)
  · exact hv.trans (suffices_wear hr hpatience need)
  · have hallowed := hv.mp hP op r hr
    simp [once, hpatience] at hallowed

lemma deleteBatch_suffices {P : Prop} {n : Nat} (ids : List String) :
    Spec (fun v => P ↔ v.behaviour.Suffices (deletions (n + 1))) (deleteBatch ids)
      (fun _ v => P ↔ v.behaviour.Suffices (deletions n)) (fun _ _ => ¬ P) := by
  unfold deleteBatch
  rw [deletions_succ]
  refine Spec.bind (permit_suffices .delete _) fun _ => Spec.modify fun v hv => ?_
  rw [update_behaviour]
  exact hv

lemma suffices_deletions_zero (b : Behaviour) : b.Suffices (deletions 0) := by
  intro op r _
  cases op <;> exact Nat.zero_le _

/-- Clearing a collection succeeds if every operation is allowed as often as it is needed, and fails
otherwise. -/
lemma clear_suffices {v : VectorStore} (hholds : v.Holds c) (hlists : v.behaviour.ids = none) :
    Spec (· = v) clear (fun _ _ => v.behaviour.Suffices (callsToClear c))
      (fun _ _ => ¬ v.behaviour.Suffices (callsToClear c)) := by
  generalize hP : v.behaviour.Suffices (callsToClear c) = P
  unfold clear
  refine Spec.get_bind fun w hw => ?_
  subst hw
  rw [hholds.collection?_eq]
  refine Spec.rescue ?_ (fun _ _ _ h => h) fun f _ =>
    Spec.bind Spec.record fun _ => Spec.fail fun _ h => h
  have hcount : ∀ need, callsToClear c = once .count need → Spec (· = w) (permit .count)
      (fun _ v => P ↔ v.behaviour.Suffices need) (fun _ _ => ¬ P) := by
    intro need hneed
    refine (permit_suffices .count need).weaken ?_ (fun _ _ h => h) fun _ _ h => h
    rintro _ rfl
    rw [← hneed, hP]
  by_cases hc : c = []
  · subst hc
    refine Spec.bind (hcount _ callsToClear_nil) fun _ => Spec.pure fun w hw => ?_
    exact hw.mpr (suffices_deletions_zero _)
  · refine Spec.bind (hcount _ (callsToClear_of_ne_nil hc)) fun _ => ?_
    have hlisted : listed w.behaviour c = c.map (·.id) := by
      simp [listed, hlists]
    rw [if_neg (by simpa using hc), hlisted]
    refine Spec.bind (permit_suffices .get _) fun _ => ?_
    -- As many deletions are needed as there are batches left.
    let inv : List (List String) → VectorStore → Prop := fun rest w =>
      P ↔ w.behaviour.Suffices (deletions rest.length)
    have hall : Spec (inv (batches deleteSize (c.map (·.id))))
        (Action.forEach deleteBatch (batches deleteSize (c.map (·.id)))) (fun _ => inv [])
        (fun _ _ => ¬ P) :=
      Spec.forEach (fun batch rest => deleteBatch_suffices batch) _
    exact Spec.bind hall fun _ => Spec.pure fun w hw => hw.mpr (suffices_deletions_zero _)

/-- When clearing gives a result, and which. -/
theorem clear_eq_ok_iff {v : VectorStore} (hholds : v.Holds c) (hlists : v.behaviour.ids = none)
    (log : Log) (n : Nat) :
    (clear (v, log)).1 = .ok n ↔ n = c.length ∧ v.behaviour.Suffices (callsToClear c) := by
  have hserves : Serves [] c v := ⟨hholds, hlists, List.forall_mem_nil _⟩
  have hclear : Spec (Serves [] c) clear _ _ := Serves.clear
  have hend := (hclear.and (clear_suffices hholds hlists)) (v, log) ⟨hserves, rfl⟩
  cases hrun : clear (v, log) with
  | mk outcome s =>
    rw [hrun] at hend
    cases outcome with
    | ok m =>
      obtain ⟨⟨_, rfl⟩, hsuffices⟩ := hend
      simp only [Except.ok.injEq, hsuffices, and_true]
      exact eq_comm
    | error f =>
      refine iff_of_false (by simp) fun h => hend.2 h.2

/-! ### What clearing leaves alone -/

/-- The collection has a name, and clearing it is refused at most, not interrupted. -/
structure Untroubled (name : String) (v : VectorStore) : Prop where
  name_eq : v.name = name
  calm : ∀ op ∈ clearing, ∀ r, v.behaviour.refusal? op = some r → r.kind ≠ .interrupt

variable {name : String}

lemma isInterruption_fault {kind : FaultKind} (h : kind ≠ .interrupt) (text : String) :
    isInterruption (.fault kind text) = false := by
  cases kind with
  | interrupt => exact absurd rfl h
  | _ => rfl

lemma Untroubled.permit {op : Operation} (hop : op ∈ clearing) :
    Spec (Untroubled name) (permit op) (fun _ => Untroubled name)
      (fun f v => isInterruption f = false ∧ Untroubled name v) := by
  refine permit_rule (fun v hv _ => hv) (fun v r hv _ _ => ?_) fun v r hv hr _ => ?_
  · refine ⟨hv.name_eq, fun op' hop' r' hr' => ?_⟩
    rw [refusal?_wear, Option.map_eq_some_iff] at hr'
    obtain ⟨old, hold, rfl⟩ := hr'
    have hkind := hv.calm op' hop' old hold
    split <;> exact hkind
  · exact ⟨isInterruption_fault (hv.calm op hop r hr) r.text, hv⟩

lemma update_name (v : VectorStore) (f : Collection → Collection) : (v.update f).name = v.name := by
  unfold VectorStore.update
  split <;> rfl

lemma Untroubled.deleteBatch (ids : List String) :
    Spec (Untroubled name) (deleteBatch ids) (fun _ => Untroubled name)
      (fun f v => isInterruption f = false ∧ Untroubled name v) := by
  unfold VectorStore.deleteBatch
  refine Spec.bind (Untroubled.permit (by decide)) fun _ => Spec.modify fun v hv => ?_
  refine ⟨(update_name _ _).trans hv.name_eq, ?_⟩
  rw [update_behaviour]
  exact hv.calm

lemma Untroubled.deleteBatches (bs : List (List String)) :
    Spec (Untroubled name) (Action.forEach VectorStore.deleteBatch bs) (fun _ => Untroubled name)
      (fun f v => isInterruption f = false ∧ Untroubled name v) := by
  induction bs with
  | nil => exact Spec.pure fun _ h => h
  | cons ids bs ih => exact Spec.bind (Untroubled.deleteBatch ids) fun _ => ih

/-- Clearing keeps the name, and is not interrupted. -/
lemma Untroubled.clear :
    Spec (Untroubled name) clear (fun _ => Untroubled name)
      (fun f v => isInterruption f = false ∧ Untroubled name v) := by
  unfold VectorStore.clear
  refine Spec.get_bind fun v hv => ?_
  cases v.collection? with
  | none => exact Spec.bind Spec.record fun _ => Spec.pure fun _ h => h ▸ hv
  | some c =>
    refine Spec.rescue ?_ (fun _ _ _ h => h) fun f _ =>
      Spec.bind Spec.record fun _ => Spec.fail fun _ h => h
    refine Spec.bind ((Untroubled.permit (by decide)).weaken (fun _ h => h ▸ hv) (fun _ _ h => h)
      fun _ _ h => h) fun _ => ?_
    split
    · exact Spec.pure fun _ h => h
    · refine Spec.bind (Untroubled.permit (by decide)) fun _ => ?_
      exact Spec.bind (Untroubled.deleteBatches _) fun _ => Spec.pure fun _ h => h

/-- A collection that is made anew gets the name of the old one. -/
lemma recreate_name :
    Spec (·.name = name) recreate (fun _ v => v.name = name) (fun _ _ => True) := by
  have hpermit : ∀ op, Spec (·.name = name) (permit op) (fun _ v => v.name = name)
      (fun _ _ => True) := fun op =>
    permit_rule (fun _ h _ => h) (fun _ _ h _ _ => h) fun _ _ _ _ _ => trivial
  unfold recreate
  refine Spec.get_bind fun v hv => ?_
  cases v.collection? with
  | none => exact Spec.pure fun _ h => h ▸ hv
  | some c =>
    refine Spec.bind ((hpermit .deleteCollection).weaken (fun _ h => h ▸ hv) (fun _ _ h => h)
      fun _ _ h => h) fun _ => ?_
    refine Spec.bind (m := fun _ w => w.name = name) (Spec.modify fun _ h => h) fun _ => ?_
    unfold createCollection
    exact Spec.bind (hpermit .createCollection) fun _ => Spec.modify fun _ _ => hv

/-! ### Both together -/

/-- If clearing fails, the collection still can be made anew. -/
lemma clear_recoverable :
    Spec (fun v => Serves recreating c v ∧ Untroubled name v) clear
      (fun _ v => v.Holds [] ∧ v.name = name)
      (fun f v => isInterruption f = false ∧ ∃ c', Serves recreating c' v ∧ v.name = name) := by
  refine (Serves.clear.and Untroubled.clear).weaken (fun _ h => h) ?_ ?_
  · rintro _ v ⟨⟨hserves, _⟩, hname⟩
    exact ⟨hserves.holds, hname.name_eq⟩
  · rintro f v ⟨⟨⟨c', _, hserves⟩, _⟩, hcalm, hname⟩
    exact ⟨hcalm, c', hserves, hname.name_eq⟩

lemma recreate_recovers :
    Spec (fun v => Serves recreating c v ∧ v.name = name) recreate
      (fun _ v => v.Holds [] ∧ v.name = name) (fun _ _ => False) := by
  refine (Serves.recreate.and recreate_name).weaken (fun _ h => h) ?_ ?_
  · rintro _ v ⟨hserves, hname⟩
    exact ⟨hserves.holds, hname⟩
  · rintro _ v ⟨⟨_, hrefused⟩, _⟩
    exact hrefused (List.Subset.refl _)

end VectorStore

namespace Index.Engine

variable {e₀ e : Engine} {C : Catalog → Prop} {c : Collection} {name : String} {rows : List Row}
  {deps : List DependencyRow}

/-- What is left in the vector store does not matter, if the collection can be made anew. -/
lemma clearVectors_recovers :
    Spec (e₀.Holding C fun v => VectorStore.Serves VectorStore.recreating c v ∧ v.Untroubled name)
      clearVectors
      (fun _ => e₀.Holding C fun v => v.Holds [] ∧ v.name = name)
      (fun f _ => isInterruption f = true ∧ False) := by
  unfold clearVectors
  refine Spec.rescue (m := fun f => e₀.Holding C fun v => isInterruption f = false ∧
    ∃ c', VectorStore.Serves VectorStore.recreating c' v ∧ v.name = name) ?_ ?_ fun f _ => ?_
  · exact Spec.bind (onVectors_holding VectorStore.clear_recoverable) fun n => Spec.pure fun _ h => h
  · intro f hf e he
    have hcalm := he.vectors.1
    rw [hf] at hcalm
    cases hcalm
  · refine Spec.bind Spec.record fun _ => Spec.at_each fun e he => ?_
    obtain ⟨halike, hcatalog, _, c', hserves⟩ := he
    refine Spec.rescue (m := fun _ _ => False) ?_ (fun _ _ _ h => h.elim)
      fun _ _ => fun _ h => h.elim
    refine (onVectors_holding (VectorStore.recreate_recovers (c := c'))).weaken ?_
      (fun _ _ h => h) fun _ _ h => h.vectors
    rintro _ rfl
    exact ⟨halike, hcatalog, hserves⟩

lemma committed_withoutProject (e : Engine) (path : Path) {catalog : Catalog}
    (h : catalog.Holds rows deps) :
    (e.withoutProject path catalog).tables = some (e.withoutProject path catalog).committed ∧
      (e.withoutProject path catalog).committed.Holds (keptRows e path rows)
        (keptDependencies e path deps) := by
  have hdeleted : (catalog.deleteWhere (projectRows e.disk path).1
      (projectRows e.disk path).2).2.Holds (keptRows e path rows) (keptDependencies e path deps) := h.deleteWhere _ _
  obtain ⟨t, ht, hholds⟩ := hdeleted
  simp only [withoutProject, Catalog.commit, ht]
  exact ⟨trivial, hholds⟩

lemma countP_add_length_keptRows (e : Engine) (path : Path) (rows : List Row) :
    rows.countP (projectRows e.disk path).1 + (keptRows e path rows).length = rows.length := by
  rw [keptRows, ← List.countP_eq_length_filter,
    List.length_eq_countP_add_countP (projectRows e.disk path).1 (l := rows)]
  congr 1
  exact List.countP_congr (by simp)

/-- The database may refuse to count, to list or to delete, at any batch: clearing the collection gives
the number of its entries if it never does, and fails otherwise. The project is cleared in both cases.
Its rows are gone, which is committed, and the result is their number. The collection is empty and has
its old name. The name of the project's folder is never too long for a pattern of the database. -/
theorem clearing_survives_refusals (path : Path) (log : Log) (hcatalog : e.catalog.Holds rows deps)
    (hvectors : VectorStore.Serves VectorStore.recreating c e.vectors)
    (hcalm : ∀ op ∈ VectorStore.clearing, ∀ r, e.vectors.behaviour.refusal? op = some r →
      r.kind ≠ .interrupt) :
    (∀ n, (VectorStore.clear (e.vectors, log)).1 = .ok n ↔
      n = c.length ∧ e.vectors.behaviour.Suffices (VectorStore.callsToClear c)) ∧
    ∃ n e' log', clearProject path (e, log) = (.ok n, (e', log')) ∧
      n + (keptRows e path rows).length = rows.length ∧
      e'.catalog.tables = some e'.catalog.committed ∧
      e'.catalog.committed.Holds (keptRows e path rows) (keptDependencies e path deps) ∧
      e'.vectors.Holds [] ∧ e'.vectors.name = e.vectors.name := by
  refine ⟨VectorStore.clear_eq_ok_iff hvectors.holds hvectors.lists log, ?_⟩
  have hspec : Spec (e.Holding (· = e.catalog) fun v =>
      VectorStore.Serves VectorStore.recreating c v ∧ v.Untroubled e.vectors.name)
      (clearProject path) _ _ :=
    clearProject_spec path (fun _ h => h ▸ hcatalog.rows_eq) fun _ => clearVectors_recovers
  obtain ⟨n, ⟨e', log'⟩, hrun, hn, _, ⟨catalog, rfl, hcleared⟩, hempty, hname⟩ :=
    hspec.exists_result (s := (e, log)) ⟨⟨rfl, rfl, rfl⟩, rfl, hvectors, rfl, hcalm⟩
  obtain ⟨htables, hcommitted⟩ := committed_withoutProject e path hcatalog
  rw [← hcleared] at htables hcommitted
  refine ⟨n, e', log', hrun, ?_, htables, hcommitted, hempty, hname⟩
  rw [hn]
  exact countP_add_length_keptRows e path rows

/-- An index of the project `p` and of a file next to it. Its vector store has two thousand five hundred
entries, and the database deletes only the first batch of them. -/
def refusedDeletion : Engine where
  surroundings := {}
  disk := ⟨.folder (.cons ['w'] (.folder .nil) .nil), ⟨['/'], [['w']]⟩⟩
  catalog := { tables := some {
    elements := some [⟨"a", .module, "a", "", "p/a.txt", 1, 1, "", none, none, none⟩,
      ⟨"b", .module, "b", "", "b.txt", 1, 1, "", none, none, none⟩]
    dependencies := some [] } }
  vectors := {
    behaviour := { refusals := [⟨.delete, .runtime, "busy", 1⟩] }
    kept := some ((List.range 2500).map fun i =>
      ⟨toString i, [], "", .module, "a", "p/a.txt", "", 1, 1, none, none, none⟩)
    handle := .shared
    name := "entries" }

theorem refusedDeletion_recovers :
    (∀ n, (VectorStore.clear (refusedDeletion.vectors, [])).1 ≠ .ok n) ∧
    ∃ e' log', clearProject (.ofString "p") (refusedDeletion, []) = (.ok 1, (e', log')) ∧
      e'.catalog.tables = some e'.catalog.committed ∧ e'.vectors.Holds [] ∧
      e'.vectors.name = "entries" := by
  obtain ⟨hclear, n, e', log', hrun, hcount, htables, _, hempty, hname⟩ :=
    clearing_survives_refusals (e := refusedDeletion) (.ofString "p") []
      ⟨_, rfl, rfl, rfl⟩ ⟨rfl, rfl, by decide⟩ (by decide)
  refine ⟨fun n hn => ?_, e', log', ?_, htables, hempty, hname⟩
  · -- Three batches are needed, and one is allowed.
    have hallowed := ((hclear n).mp hn).2 .delete _ rfl
    simp [VectorStore.callsToClear, VectorStore.deleteSize] at hallowed
  · have hkept : (keptRows refusedDeletion (.ofString "p")
        [⟨"a", .module, "a", "", "p/a.txt", 1, 1, "", none, none, none⟩,
          ⟨"b", .module, "b", "", "b.txt", 1, 1, "", none, none, none⟩]).length = 1 := by
      decide +kernel
    rw [hkept] at hcount
    obtain rfl : n = 1 := Nat.succ.inj hcount
    exact hrun

end Index.Engine

end CodeAtlas
