import CodeAtlas.Proofs.Action
import CodeAtlas.Proofs.Keyed
import CodeAtlas.Vectors.Store

/-!
# Storing and clearing in the vector store

`Serves ops c` says that the store is open and works on the collection `c`, that its database lists
what is there, and that it never refuses the operations `ops`. Other operations may be refused at any
time; each action is described for that case too.
-/

namespace CodeAtlas

open CodeAtlas.Action

namespace Collection

@[simp] lemma upsertAll_nil (c : Collection) : c.upsertAll [] = c := rfl

lemma upsertAll_append (c : Collection) (es fs : List Entry) :
    c.upsertAll (es ++ fs) = (c.upsertAll es).upsertAll fs :=
  List.foldl_append

@[simp] lemma deleteAll_nil (c : Collection) : c.deleteAll [] = c := by
  simp [deleteAll]

lemma deleteAll_append (c : Collection) (ids jds : List String) :
    c.deleteAll (ids ++ jds) = (c.deleteAll ids).deleteAll jds := by
  simp only [deleteAll, List.filter_filter]
  congr 1
  funext e
  simp [Bool.and_comm]

lemma deleteAll_sublist (c : Collection) (ids : List String) : (c.deleteAll ids).Sublist c :=
  List.filter_sublist

/-- Deleting every identifier leaves nothing. -/
lemma deleteAll_ids (c : Collection) : c.deleteAll (c.map (·.id)) = [] := by
  rw [deleteAll, List.filter_eq_nil_iff]
  intro e he
  simpa using ⟨e, he, rfl⟩

end Collection

/-- A refusal that wears off stays where it is. -/
lemma Behaviour.refusal?_wear (b : Behaviour) (worn op : Operation) :
    (b.wear worn).refusal? op = (b.refusal? op).map fun r =>
      if r.operation == worn then { r with patience := r.patience - 1 } else r := by
  simp only [refusal?, wear, List.find?_map]
  congr 2
  funext r
  simp only [Function.comp_apply]
  split <;> rfl

/-- An operation can be carried out so many times. -/
def Behaviour.Allows (b : Behaviour) (op : Operation) (times : Nat) : Prop :=
  ∀ r, b.refusal? op = some r → times ≤ r.patience

/-- An operation that was never refused stays so. -/
lemma Behaviour.refusal?_wear_eq_none {b : Behaviour} {op : Operation} (worn : Operation)
    (h : b.refusal? op = none) : (b.wear worn).refusal? op = none := by
  rw [refusal?_wear, h, Option.map_none]

namespace VectorStore

/-! ### What does not touch the collection -/

/-- The store works on the same collection, and nothing is refused that was not. -/
structure Unmoved (v v' : VectorStore) : Prop where
  kept : v'.kept = v.kept
  handle : v'.handle = v.handle
  ids : v'.behaviour.ids = v.behaviour.ids
  refusals : ∀ op, v.behaviour.refusal? op = none → v'.behaviour.refusal? op = none

lemma Unmoved.refl (v : VectorStore) : v.Unmoved v :=
  ⟨rfl, rfl, rfl, fun _ h => h⟩

lemma Unmoved.trans {v v' v'' : VectorStore} (h : v.Unmoved v') (h' : v'.Unmoved v'') :
    v.Unmoved v'' :=
  ⟨h'.kept.trans h.kept, h'.handle.trans h.handle, h'.ids.trans h.ids,
    fun op hop => h'.refusals op (h.refusals op hop)⟩

/-- A property that does not depend on how often an operation was refused. -/
def Steady (P : VectorStore → Prop) : Prop :=
  ∀ v v', P v → v.Unmoved v' → P v'

lemma steady_true : Steady fun _ => True :=
  fun _ _ h _ => h

/-- What asking for an operation can lead to: it is not refused, not yet, or it is. -/
theorem permit_rule {op : Operation} {pre : VectorStore → Prop} {post : Unit → VectorStore → Prop}
    {exit : Failure → VectorStore → Prop}
    (hfree : ∀ v, pre v → v.behaviour.refusal? op = none → post () v)
    (hworn : ∀ v r, pre v → v.behaviour.refusal? op = some r → r.patience ≠ 0 →
      post () { v with behaviour := v.behaviour.wear op })
    (hrefused : ∀ v r, pre v → v.behaviour.refusal? op = some r → r.patience = 0 →
      exit (.fault r.kind r.text) v) :
    Spec pre (permit op) post exit := by
  unfold permit
  refine Spec.get_bind fun v hv => ?_
  cases hr : v.behaviour.refusal? op with
  | none => exact Spec.pure fun _ h => h ▸ hfree v hv hr
  | some r =>
    by_cases hpatience : r.patience = 0
    · simp only [hpatience, if_true]
      exact Spec.fail fun _ h => h ▸ hrefused v r hv hr hpatience
    · simp only [hpatience, if_false]
      exact Spec.modify fun _ h => h ▸ hworn v r hv hr hpatience

theorem permit_spec (op : Operation) (v : VectorStore) :
    Spec (· = v) (permit op) (fun _ => v.Unmoved)
      (fun _ v' => v' = v ∧ v.behaviour.refusal? op ≠ none) := by
  refine permit_rule ?_ ?_ ?_
  · rintro _ rfl _
    exact Unmoved.refl _
  · rintro _ r rfl _ _
    exact ⟨rfl, rfl, rfl, fun _ => Behaviour.refusal?_wear_eq_none op⟩
  · rintro _ r rfl hr _
    exact ⟨rfl, by simp [hr]⟩

lemma permit_of_allows {op : Operation} {v : VectorStore} (h : v.behaviour.Allows op 1) (log : Log) :
    ∃ v', permit op (v, log) = (.ok (), (v', log)) := by
  simp only [permit, bind, andThen, Action.get]
  cases hr : v.behaviour.refusal? op with
  | none => exact ⟨v, rfl⟩
  | some r =>
    have hpatience : r.patience ≠ 0 := Nat.one_le_iff_ne_zero.mp (h r hr)
    simp only [hpatience, if_false]
    exact ⟨_, rfl⟩

/-! ### A store at work -/

/-- The store is open and works on a collection. -/
def Holds (v : VectorStore) (c : Collection) : Prop :=
  match v.handle with
  | .none => False
  | .shared => v.kept = some c
  | .forgotten d => d = c

lemma Holds.collection?_eq {v : VectorStore} {c : Collection} (h : v.Holds c) :
    v.collection? = some c := by
  unfold Holds at h
  unfold collection?
  match hv : v.handle with
  | .none => simp [hv] at h
  | .shared =>
    simp only [hv] at h
    simp [h]
  | .forgotten d =>
    simp only [hv] at h
    simp [h]

lemma Holds.update {v : VectorStore} {c : Collection} (h : v.Holds c) (f : Collection → Collection) :
    (v.update f).Holds (f c) := by
  unfold Holds at h
  unfold VectorStore.update
  match hv : v.handle with
  | .none => simp [hv] at h
  | .shared =>
    simp only [hv] at h
    simp [Holds, h]
  | .forgotten d =>
    simp only [hv] at h
    simp [Holds, h]

lemma Holds.unmoved {v v' : VectorStore} {c : Collection} (h : v.Holds c) (hv : v.Unmoved v') :
    v'.Holds c := by
  unfold Holds at h ⊢
  rw [hv.handle, hv.kept]
  exact h

lemma update_behaviour (v : VectorStore) (f : Collection → Collection) :
    (v.update f).behaviour = v.behaviour := by
  unfold VectorStore.update
  split <;> rfl

/-- The store works on a collection, and its database carries out the given operations. -/
structure Serves (ops : List Operation) (c : Collection) (v : VectorStore) : Prop where
  holds : v.Holds c
  lists : v.behaviour.ids = none
  obliging : ∀ op ∈ ops, v.behaviour.refusal? op = none

variable {ops : List Operation} {c : Collection}

lemma Serves.unmoved {v v' : VectorStore} (h : Serves ops c v) (hv : v.Unmoved v') :
    Serves ops c v' :=
  ⟨h.holds.unmoved hv, hv.ids.trans h.lists, fun op hop => hv.refusals op (h.obliging op hop)⟩

lemma steady_serves : Steady (Serves ops c) :=
  fun _ _ h hv => h.unmoved hv

/-- What is written down and what is changed in the collection. -/
lemma Serves.update {v : VectorStore} (h : Serves ops c v) (r : Request)
    (f : Collection → Collection) : Serves ops (f c) ((v.note r).update f) := by
  have hnote : (v.note r).Holds c := h.holds
  refine ⟨hnote.update f, ?_, ?_⟩
  · rw [update_behaviour]
    exact h.lists
  · rw [update_behaviour]
    exact h.obliging

lemma Serves.permit (op : Operation) :
    Spec (Serves ops c) (permit op) (fun _ => Serves ops c)
      (fun _ v => Serves ops c v ∧ op ∉ ops) := by
  refine Spec.at_each fun v hv => ?_
  refine (permit_spec op v).weaken (fun _ h => h) (fun _ v' h => hv.unmoved h) ?_
  rintro f v' ⟨rfl, hrefused⟩
  exact ⟨hv, fun hop => hrefused (hv.obliging op hop)⟩

/-! ### Storing -/

/-- How a batch is stored: `P` tells what the store is like when it works on a collection. -/
theorem storeBatch_rule {P : Collection → VectorStore → Prop} {exit : Failure → VectorStore → Prop}
    (hholds : ∀ v, P c v → v.Holds c) (hpermit : Spec (P c) (permit .upsert) (fun _ => P c) exit)
    (hupdate : ∀ v r f, P c v → P (f c) ((v.note r).update f)) (es : List Element) :
    Spec (P c) (storeBatch es) (fun _ => P (c.upsertAll (es.filterMap Entry.ofElement?))) exit := by
  unfold storeBatch
  refine Spec.bind Spec.recordAll fun _ => ?_
  by_cases hempty : (es.filterMap Entry.ofElement?).isEmpty = true
  · simp only [hempty, if_true]
    rw [List.isEmpty_iff.mp hempty]
    exact Spec.pure fun _ h => h
  · simp only [hempty]
    refine Spec.get_bind fun v hv => ?_
    rw [(hholds v hv).collection?_eq]
    refine Spec.bind (hpermit.weaken (fun _ h => h ▸ hv) (fun _ _ h => h) fun _ _ h => h) fun _ => ?_
    exact Spec.modify fun w hw => hupdate w _ (fun d => d.upsertAll _) hw

theorem Serves.storeBatch (es : List Element) :
    Spec (Serves ops c) (storeBatch es)
      (fun _ => Serves ops (c.upsertAll (es.filterMap Entry.ofElement?)))
      (fun _ v => Serves ops c v ∧ .upsert ∉ ops) :=
  storeBatch_rule (fun _ h => h.holds) (Serves.permit .upsert) (fun _ r f h => h.update r f) es

/-- The entries of a list are stored batch by batch; if that fails, those of the batches before. -/
theorem Serves.store (es : List Element) {size : Int} (hsize : es ≠ [] → 0 < size) :
    Spec (Serves ops c) (store es size)
      (fun _ => Serves ops (c.upsertAll (es.filterMap Entry.ofElement?)))
      (fun _ v => ∃ done, done <+: es ∧
        Serves ops (c.upsertAll (done.filterMap Entry.ofElement?)) v) := by
  unfold VectorStore.store
  by_cases hes : es = []
  · subst hes
    exact Spec.pure fun _ h => h
  have hpos := hsize hes
  have hne : es.isEmpty = false := by simpa using hes
  rw [if_neg (by simp [hne]), if_neg (by omega), if_neg (by omega)]
  -- What was stored and the batches that are left make up the list.
  let inv : List (List Element) → VectorStore → Prop := fun rest v =>
    ∃ done, done ++ rest.flatten = es ∧
      Serves ops (c.upsertAll (done.filterMap Entry.ofElement?)) v
  have hstep : ∀ batch rest, Spec (inv (batch :: rest)) (VectorStore.storeBatch batch)
      (fun _ => inv rest) (fun _ v => ∃ done, done <+: es ∧
        Serves ops (c.upsertAll (done.filterMap Entry.ofElement?)) v) := by
    intro batch rest
    refine Spec.of_exists fun done => Spec.of_fact fun hdone => ?_
    refine (Serves.storeBatch batch).weaken (fun _ h => h) (fun _ v h => ?_) (fun _ v h => ?_)
    · refine ⟨done ++ batch, by simpa using hdone, ?_⟩
      rwa [List.filterMap_append, Collection.upsertAll_append]
    · exact ⟨done, ⟨_, hdone⟩, h.1⟩
  refine (Spec.forEach hstep (batches size.toNat es)).weaken (fun v h => ?_) (fun _ v h => ?_)
    fun _ _ h => h
  · exact ⟨[], by rw [List.nil_append, flatten_batches (by omega)], h⟩
  · obtain ⟨done, hdone, hserves⟩ := h
    rw [List.flatten_nil, List.append_nil] at hdone
    exact hdone ▸ hserves

/-! ### Clearing -/

/-- The operations that clearing asks for. -/
def clearing : List Operation := [.count, .get, .delete]

/-- The operations that making the collection anew asks for. -/
def recreating : List Operation := [.deleteCollection, .createCollection]

lemma Serves.deleteBatch (ids : List String) :
    Spec (Serves ops c) (deleteBatch ids) (fun _ => Serves ops (c.deleteAll ids))
      (fun _ v => Serves ops c v ∧ .delete ∉ ops) := by
  unfold VectorStore.deleteBatch
  refine Spec.bind (Serves.permit .delete) fun _ => Spec.modify fun v hv => ?_
  exact hv.update _ fun d => d.deleteAll ids

lemma Serves.deleteBatches (ids : List String) {size : Nat} (hsize : size ≠ 0) :
    Spec (Serves ops c) (Action.forEach VectorStore.deleteBatch (batches size ids))
      (fun _ => Serves ops (c.deleteAll ids))
      (fun _ v => (∃ c', c'.Sublist c ∧ Serves ops c' v) ∧ .delete ∉ ops) := by
  let inv : List (List String) → VectorStore → Prop := fun rest v =>
    ∃ done, done ++ rest.flatten = ids ∧ Serves ops (c.deleteAll done) v
  have hstep : ∀ batch rest, Spec (inv (batch :: rest)) (VectorStore.deleteBatch batch)
      (fun _ => inv rest)
      (fun _ v => (∃ c', c'.Sublist c ∧ Serves ops c' v) ∧ .delete ∉ ops) := by
    intro batch rest
    refine Spec.of_exists fun done => Spec.of_fact fun hdone => ?_
    refine (Serves.deleteBatch batch).weaken (fun _ h => h) (fun _ v h => ?_) (fun _ v h => ?_)
    · refine ⟨done ++ batch, by simpa using hdone, ?_⟩
      rwa [Collection.deleteAll_append]
    · exact ⟨⟨_, c.deleteAll_sublist done, h.1⟩, h.2⟩
  refine (Spec.forEach hstep (batches size ids)).weaken (fun v h => ?_) (fun _ v h => ?_)
    fun _ _ h => h
  · exact ⟨[], by rw [List.nil_append, flatten_batches hsize], by simpa using h⟩
  · obtain ⟨done, hdone, hserves⟩ := h
    rw [List.flatten_nil, List.append_nil] at hdone
    exact hdone ▸ hserves

/-- Clearing leaves nothing; if it fails, some of the entries are left, and an operation was refused. -/
theorem Serves.clear :
    Spec (Serves ops c) clear (fun n v => Serves ops [] v ∧ n = c.length)
      (fun _ v => (∃ c', c'.Sublist c ∧ Serves ops c' v) ∧ ¬ clearing ⊆ ops) := by
  unfold VectorStore.clear
  refine Spec.get_bind fun v hv => ?_
  rw [hv.holds.collection?_eq]
  refine Spec.rescue ?_ (fun _ _ _ h => h) fun f _ =>
    Spec.bind Spec.record fun _ => Spec.fail fun _ h => h
  have hlisted : listed v.behaviour c = c.map (·.id) := by
    simp [listed, hv.lists]
  -- A refused operation is one of those that clearing asks for.
  have hrefused : ∀ op ∈ clearing, ∀ w, Serves ops c w ∧ op ∉ ops →
      (∃ c', c'.Sublist c ∧ Serves ops c' w) ∧ ¬ clearing ⊆ ops := fun op hop w h =>
    ⟨⟨c, List.Sublist.refl c, h.1⟩, fun hsub => h.2 (hsub hop)⟩
  refine Spec.bind ((Serves.permit .count).weaken (fun _ h => h ▸ hv) (fun _ _ h => h)
    fun _ => hrefused .count (by decide)) fun _ => ?_
  by_cases hc : c = []
  · subst hc
    exact Spec.pure fun _ h => ⟨h, rfl⟩
  rw [if_neg (by simpa using hc)]
  refine Spec.bind ((Serves.permit .get).weaken (fun _ h => h) (fun _ _ h => h)
    fun _ => hrefused .get (by decide)) fun _ => ?_
  rw [hlisted]
  refine Spec.bind ((Serves.deleteBatches (c.map (·.id)) (by decide)).weaken (fun _ h => h)
    (fun _ _ h => h) fun _ w h => ?_) fun _ => Spec.pure fun w hw => ?_
  · exact ⟨h.1, fun hsub => h.2 (hsub (by decide))⟩
  · rw [c.deleteAll_ids] at hw
    exact ⟨hw, List.length_map _⟩

/-- A collection made anew is empty; if it cannot be made, the old one is still in use. -/
theorem Serves.recreate :
    Spec (Serves ops c) recreate (fun _ => Serves ops [])
      (fun _ v => Serves ops c v ∧ ¬ recreating ⊆ ops) := by
  unfold VectorStore.recreate
  refine Spec.get_bind fun v hv => ?_
  rw [hv.holds.collection?_eq]
  refine Spec.bind ((Serves.permit .deleteCollection).weaken (fun _ h => h ▸ hv) (fun _ _ h => h)
    fun _ w h => ⟨h.1, fun hsub => h.2 (hsub (by decide))⟩) fun _ => ?_
  refine Spec.bind (m := fun _ => Serves ops c) (Spec.modify fun w hw => ?_) fun _ => ?_
  · exact ⟨rfl, hw.lists, hw.obliging⟩
  unfold createCollection
  refine Spec.bind ((Serves.permit .createCollection).weaken (fun _ h => h) (fun _ _ h => h)
    fun _ w h => ⟨h.1, fun hsub => h.2 (hsub (by decide))⟩) fun _ => ?_
  exact Spec.modify fun w hw => ⟨rfl, hw.lists, hw.obliging⟩

end VectorStore

end CodeAtlas
