import CodeAtlas.Proofs.Stores

/-!
# Working in batches

Elements go to the vector store in batches, and those without an embedding are skipped. What the store
holds afterwards does not show the batches: it is what one gets by putting in the entries one by one.

A batch size of zero makes storing fail, unless there is nothing to store. The batch size of a project is
zero only if there is nothing to store, so no project fails that way.

The model is asked for vectors in batches, too. The texts and the elements are cut side by side, so that
each element gets the vector of its own text.
-/

namespace CodeAtlas

open CodeAtlas.Action

/-! ### Entries of elements -/

/-- An element has an embedding that is not empty. -/
def Element.isEmbedded (e : Element) : Bool :=
  e.embedding.any (!·.isEmpty)

/-- The entry that stands for an element. Facts that are zero or empty are left out. -/
def Entry.ofElement (e : Element) : Entry where
  id := e.id
  embedding := e.embedding.getD []
  document := e.content
  kind := e.kind
  name := e.name
  filePath := e.filePath
  language := e.metadata.language
  lineStart := e.location.lineStart
  lineEnd := e.location.lineEnd
  complexity := e.metadata.complexity.filter (· != 0)
  linesOfCode := e.metadata.linesOfCode.filter (· != 0)
  author := e.metadata.author.filter (!·.isEmpty)

lemma Entry.ofElement?_eq (e : Element) :
    Entry.ofElement? e = if e.isEmbedded then some (Entry.ofElement e) else none := by
  unfold Entry.ofElement? Element.isEmbedded
  cases hembedding : e.embedding with
  | none => simp
  | some embedding =>
    cases embedding with
    | nil => simp
    | cons x xs => simp [Entry.ofElement, hembedding]

/-- The entries of a list are those of the elements with embeddings. -/
lemma filterMap_ofElement? (es : List Element) :
    es.filterMap Entry.ofElement? = (es.filter Element.isEmbedded).map Entry.ofElement := by
  induction es with
  | nil => rfl
  | cons e es ih =>
    rw [List.filterMap_cons, Entry.ofElement?_eq, List.filter_cons]
    split <;> simp_all

namespace VectorStore

/-! ### One batch -/

/-- The store is open on a collection, and its database takes what it is given. -/
structure Takes (c : Collection) (v : VectorStore) : Prop where
  holds : v.Holds c
  obliging : v.behaviour.refusal? .upsert = none

/-- The store after a batch. Nothing is asked of the database if there is nothing to store. -/
def afterBatch (es : List Element) (v : VectorStore) : VectorStore :=
  let entries := es.filterMap Entry.ofElement?
  if entries.isEmpty then v
  else (v.note (.upsert (entries.map (·.id)))).update fun c => c.upsertAll entries

/-- What is said about the elements that are skipped. -/
def warnings (es : List Element) : Log :=
  (es.filter (!·.isEmbedded)).map skipped

variable {c : Collection} {v : VectorStore}

lemma permit_of_obliging {op : Operation} (h : v.behaviour.refusal? op = none) (log : Log) :
    permit op (v, log) = (.ok (), (v, log)) := by
  simp only [permit, bind, andThen, Action.get, h]
  rfl

lemma storeBatch_eq (h : v.Takes c) (es : List Element) (log : Log) :
    storeBatch es (v, log) = (.ok (), (v.afterBatch es, log ++ warnings es)) := by
  have hskipped : (es.filter fun e => (Entry.ofElement? e).isNone) = es.filter (!·.isEmbedded) := by
    apply List.filter_congr
    intro e _
    rw [Entry.ofElement?_eq]
    cases e.isEmbedded <;> rfl
  simp only [storeBatch, bind, andThen, recordAll, hskipped, afterBatch]
  split
  · rfl
  · simp only [andThen, Action.get, h.holds.collection?_eq, permit_of_obliging h.obliging]
    rfl

lemma Takes.afterBatch (h : v.Takes c) (es : List Element) :
    (v.afterBatch es).Takes (c.upsertAll (es.filterMap Entry.ofElement?)) := by
  unfold VectorStore.afterBatch
  dsimp only
  split
  · rename_i hempty
    rw [List.isEmpty_iff.mp hempty]
    exact h
  · have hnote : (v.note (.upsert ((es.filterMap Entry.ofElement?).map (·.id)))).Holds c := h.holds
    refine ⟨hnote.update _, ?_⟩
    rw [update_behaviour]
    exact h.obliging

/-! ### All batches -/

lemma warnings_append (es fs : List Element) : warnings (es ++ fs) = warnings es ++ warnings fs := by
  simp [warnings]

/-- Batches are stored as their elements are, in order. -/
lemma forEach_storeBatch (h : v.Takes c) (bs : List (List Element)) (log : Log) :
    ∃ v', Action.forEach storeBatch bs (v, log) = (.ok (), (v', log ++ warnings bs.flatten)) ∧
      v'.Takes (c.upsertAll (bs.flatten.filterMap Entry.ofElement?)) := by
  induction bs generalizing c v log with
  | nil => exact ⟨v, by simp [Action.forEach, warnings, pure], h⟩
  | cons es bs ih =>
    obtain ⟨v', hrun, htakes⟩ := ih (h.afterBatch es) (log ++ warnings es)
    refine ⟨v', ?_, ?_⟩
    · simp only [Action.forEach, bind, andThen, storeBatch_eq h]
      rw [hrun, List.flatten_cons, warnings_append, List.append_assoc]
    · rwa [List.flatten_cons, List.filterMap_append, Collection.upsertAll_append]

lemma store_of_pos {es : List Element} {size : Int} (hes : es ≠ []) (hsize : 1 ≤ size) :
    store es size = Action.forEach storeBatch (batches size.toNat es) := by
  rw [store, if_neg (by simpa using hes), if_neg (by omega), if_neg (by omega)]

/-- What storing does to a store that takes what it is given. -/
lemma store_eq (h : v.Takes c) {es : List Element} {size : Int} (hsize : es ≠ [] → 1 ≤ size)
    (log : Log) :
    ∃ v', store es size (v, log) = (.ok (), (v', log ++ warnings es)) ∧
      v'.Holds (((es.filter Element.isEmbedded).map Entry.ofElement).foldl Collection.upsert c) := by
  by_cases hes : es = []
  · subst hes
    exact ⟨v, by simp [store, warnings, pure], h.holds⟩
  · obtain ⟨v', hrun, htakes⟩ := forEach_storeBatch h (batches size.toNat es) log
    have hpos := hsize hes
    rw [flatten_batches (by omega), filterMap_ofElement?] at htakes
    rw [flatten_batches (by omega)] at hrun
    exact ⟨v', by rw [store_of_pos hes hpos, hrun], htakes.holds⟩

end VectorStore

/-! ### A batch size of zero -/

/-- An action that never fails in a certain way. -/
abbrev Avoids {σ α : Type} (f : Failure) (x : Action σ α) : Prop :=
  Spec (fun _ => True) x (fun _ _ => True) fun g _ => g ≠ f

lemma Avoids.outcome_ne {σ α : Type} {f : Failure} {x : Action σ α} (h : Avoids f x) (s : σ × Log) :
    (x s).1 ≠ .error f := by
  intro hfail
  have hend := h s trivial
  rw [← Prod.eta (x s), hfail] at hend
  exact hend rfl

lemma Avoids.forEach {σ α : Type} {f : Failure} {x : α → Action σ Unit} (h : ∀ a, Avoids f (x a))
    (as : List α) : Avoids f (Action.forEach x as) := by
  induction as with
  | nil => exact Spec.pure fun _ _ => trivial
  | cons a as ih => exact Spec.bind (h a) fun _ => ih

namespace VectorStore

lemma permit_avoids (op : Operation) : Avoids .zeroStep (permit op) :=
  permit_rule (fun _ _ _ => trivial) (fun _ _ _ _ _ => trivial) fun _ _ _ _ _ => Failure.noConfusion

lemma storeBatch_avoids (es : List Element) : Avoids .zeroStep (storeBatch es) := by
  unfold storeBatch
  refine Spec.bind Spec.recordAll fun _ => ?_
  dsimp only
  split
  · exact Spec.pure fun _ _ => trivial
  · refine Spec.get_bind fun v _ => ?_
    split
    · exact Spec.fail fun _ _ => Failure.noConfusion
    · refine Spec.bind (m := fun _ _ => True) ?_ fun _ => Spec.modify fun _ _ => trivial
      exact (permit_avoids .upsert).weaken (fun _ _ => trivial) (fun _ _ h => h) fun _ _ h => h

lemma store_avoids {es : List Element} {size : Int} (h : es ≠ [] → size ≠ 0) :
    Avoids .zeroStep (store es size) := by
  unfold store
  split
  · exact Spec.pure fun _ _ => trivial
  · rename_i hes
    rw [List.isEmpty_iff] at hes
    rw [if_neg (h hes)]
    split
    · exact Spec.fail fun _ _ => Failure.noConfusion
    · exact Avoids.forEach storeBatch_avoids _

/-- Storing takes steps of size zero only if it is told to and there is something to store. -/
lemma store_zeroStep_iff (es : List Element) (size : Int) (s : VectorStore × Log) :
    (store es size s).1 = .error .zeroStep ↔ es ≠ [] ∧ size = 0 := by
  constructor
  · intro hfail
    by_contra hsize
    exact (store_avoids fun hes hzero => hsize ⟨hes, hzero⟩).outcome_ne s hfail
  · rintro ⟨hes, rfl⟩
    simp [store, hes, Action.fail]

end VectorStore

/-! What the catalog can fail with: a table that is missing, or a number that is too large for it. -/

lemma Tables.addDependencies_ne (source : String) (targets : List String) (t : Tables) :
    (addDependencies source targets t).1 ≠ .error .zeroStep := by
  induction targets generalizing t with
  | nil => exact fun h => by cases h
  | cons target targets ih =>
    unfold addDependencies addDependency
    cases t.dependencies with
    | none => exact fun h => by cases h
    | some deps => exact ih _

lemma Tables.storeOne_ne (e : Element) (t : Tables) : (storeOne e t).1 ≠ .error .zeroStep := by
  unfold storeOne
  cases t.elements with
  | none => exact fun h => by cases h
  | some rows =>
    dsimp only
    split
    · exact addDependencies_ne e.id e.dependencies _
    · exact fun h => by cases h

lemma Tables.storeAll_ne (es : List Element) (t : Tables) : (storeAll es t).1 ≠ .error .zeroStep := by
  induction es generalizing t with
  | nil => exact fun h => by cases h
  | cons e es ih =>
    have hone := storeOne_ne e t
    unfold storeAll
    split
    · rename_i f t' hrun
      rw [hrun] at hone
      exact hone
    · exact ih _

lemma Catalog.store_ne (c : Catalog) (es : List Element) : (c.store es).1 ≠ .error .zeroStep := by
  unfold store
  split
  · exact fun h => by cases h
  · split
    · exact fun h => by cases h
    · rename_i t _
      have hall := t.storeAll_ne es
      split
      · exact fun h => by cases h
      · rename_i f t' hrun
        rw [hrun] at hall
        exact hall

namespace Index.Engine

lemma announce_avoids (text : String) : Avoids .zeroStep (announce text) := by
  unfold announce
  refine Spec.bind (m := fun _ _ => True) (Spec.modify fun _ _ => trivial) fun _ => ?_
  refine Spec.get_bind fun e _ => ?_
  split
  · split
    · exact Spec.fail fun _ _ => Failure.noConfusion
    · exact Spec.pure fun _ _ => trivial
  · exact Spec.pure fun _ _ => trivial

lemma onVectors_avoids {α : Type} {x : Action VectorStore α} (h : Avoids .zeroStep x) :
    Avoids .zeroStep (onVectors x) := by
  have hframe := onVectors_spec (R := fun _ => True) (fun _ _ _ => trivial) h
  exact hframe.weaken (fun _ _ => ⟨trivial, trivial⟩) (fun _ _ _ => trivial) fun _ _ h => h.2

/-- Clearing fails only if it is interrupted. -/
lemma clearProject_avoids (path : Path) : Avoids .zeroStep (clearProject path) := by
  unfold clearProject
  refine Spec.rescue (m := fun _ _ => True) Spec.trivial ?_ ?_
  · rintro f hf _ _ rfl
    cases hf
  · intro f _
    exact Spec.bind Spec.record fun _ => Spec.pure fun _ _ => trivial

lemma clearExisting_avoids (path : Path) : Avoids .zeroStep (clearExisting path) := by
  unfold clearExisting
  refine Spec.bind (announce_avoids _) fun _ => ?_
  refine Spec.bind (clearProject_avoids path) fun count => ?_
  split
  · exact announce_avoids _
  · exact Spec.pure fun _ _ => trivial

/-- A pattern that cannot be read is all that can be wrong with the extensions. -/
lemma extensionPatterns_ne (extensions : List (List Char)) :
    extensions.mapM extensionPattern ≠ .error .zeroStep := by
  induction extensions with
  | nil => simp [pure, Except.pure]
  | cons extension extensions ih =>
    rw [List.mapM_cons]
    cases hpattern : extensionPattern extension with
    | error f =>
      simp only [extensionPattern, PathPattern.ofChars] at hpattern
      split at hpattern <;> cases hpattern
      simp [bind, Except.bind]
    | ok p =>
      cases hpatterns : extensions.mapM extensionPattern with
      | error f =>
        rw [hpatterns] at ih
        simpa [bind, Except.bind] using ih
      | ok ps => simp [bind, Except.bind, pure, Except.pure]

lemma discoverFiles_ne (path : Path) (patterns : List String) (e : Engine) :
    discoverFiles path patterns e ≠ .error .zeroStep := by
  unfold discoverFiles discover
  have hpatterns := extensionPatterns_ne (e.surroundings.extensions.map (·.1.toList))
  cases hread : (e.surroundings.extensions.map (·.1.toList)).mapM extensionPattern with
  | error f =>
    rw [hread] at hpatterns
    simpa [bind, Except.bind] using hpatterns
  | ok ps => simp [bind, Except.bind, pure, Except.pure]

lemma extractProject_avoids (path : Path) (patterns : List String) :
    Avoids .zeroStep (extractProject path patterns) := by
  unfold extractProject
  refine Spec.bind (announce_avoids _) fun _ => ?_
  refine Spec.get_bind fun e _ => ?_
  refine Spec.bind (m := fun _ _ => True) ?_ fun files => ?_
  · apply Spec.ofExcept
    · exact fun _ _ _ _ => trivial
    · rintro f hf _ _ rfl
      exact discoverFiles_ne path patterns e hf
  refine Spec.bind (announce_avoids _) fun _ => Spec.bind (announce_avoids _) fun _ => ?_
  refine Spec.bind (m := fun _ _ => True) ?_ fun found => ?_
  · refine Spec.at_each fun e _ => ?_
    have hfiles : Spec e.Unmoved (processFiles path files.length files 0 []) _ fun g _ => g ≠ .zeroStep :=
      processFiles_spec path files.length files 0 []
    apply hfiles.weaken
    · rintro e' rfl
      exact Unmoved.refl e'
    · exact fun _ _ _ => trivial
    · exact fun _ _ h => h
  · exact Spec.bind (announce_avoids _) fun _ => Spec.pure fun _ _ => trivial

lemma keptByEmbedding_avoids : KeptByEmbedding (fun _ _ => True) fun g _ => g ≠ .zeroStep := by
  constructor
  · exact fun _ text => announce_avoids text
  · exact fun _ => onVectors_avoids (VectorStore.permit_avoids .encode)
  · exact fun _ _ _ _ => trivial

lemma embed_avoids (es : List Element) {size : Int} (hsize : 0 < size) :
    Avoids .zeroStep (embed es size) := by
  refine Spec.at_each fun e _ => ?_
  have hleave : Spec (· = e) (leaveUnembedded es) (fun _ _ => True) fun g _ => g ≠ .zeroStep :=
    Spec.bind Spec.record fun _ => Spec.pure fun _ _ => trivial
  by_cases hloaded : e.surroundings.model.isSome = true ∧ e.loaded = true
  · obtain ⟨model, hmodel⟩ := Option.isSome_iff_exists.mp hloaded.1
    apply (keptByEmbedding_avoids.embed [] trivial hmodel hloaded.2 es hsize).weaken
    · exact fun _ h => h
    · exact fun _ _ _ => trivial
    · exact fun _ _ h => h
  · unfold embed
    apply Spec.get_bind
    rintro _ rfl
    split
    · rename_i model hmodel
      rw [if_neg fun h => hloaded ⟨by rw [hmodel]; rfl, h⟩]
      exact hleave
    · exact hleave

lemma embedProject_avoids (found : List Element) : Avoids .zeroStep (embedProject found) := by
  unfold embedProject
  split
  · exact Spec.pure fun _ _ => trivial
  · refine Spec.bind (announce_avoids _) fun _ => Spec.bind (embed_avoids found (by decide)) fun _ => ?_
    exact Spec.bind (announce_avoids _) fun _ => Spec.pure fun _ _ => trivial

lemma storeInCatalog_avoids (es : List Element) : Avoids .zeroStep (storeInCatalog es) := by
  intro s _
  have hstore := s.1.catalog.store_ne es
  unfold storeInCatalog
  split
  rename_i r c hrun
  rw [hrun] at hstore
  cases r with
  | ok => exact trivial
  | error f =>
    rintro rfl
    exact hstore rfl

/-- A project is stored in batches of some size. -/
lemma storeProject_avoids (es : List Element) : Avoids .zeroStep (storeProject es) := by
  have hvectors : Avoids .zeroStep (VectorStore.store es (min 100 es.length : Nat)) :=
    VectorStore.store_avoids fun hes => (batchSize_pos hes).ne'
  unfold storeProject
  refine Spec.bind (announce_avoids _) fun _ => Spec.bind (announce_avoids _) fun _ => ?_
  refine Spec.bind (storeInCatalog_avoids es) fun _ => ?_
  exact Spec.bind (announce_avoids _) fun _ => onVectors_avoids hvectors

theorem indexProject_avoids (path : Path) (patterns : List String) (clearFirst : Bool) :
    Avoids .zeroStep (indexProject path patterns clearFirst) := by
  have hproject : ∀ found : Nat × List Element, Avoids .zeroStep
      (do
        let embedded ← embedProject found.2
        storeProject embedded
        announce "Project indexing completed in 0.00s"
        return {
          path := path.toString
          files := found.1
          elements := embedded.length
          languages := sortOn id (distinct (embedded.map (·.metadata.language))) } :
        Action Engine ProjectIndex) := by
    intro found
    refine Spec.bind (embedProject_avoids found.2) fun es => ?_
    refine Spec.bind (storeProject_avoids es) fun _ => ?_
    exact Spec.bind (announce_avoids _) fun _ => Spec.pure fun _ _ => trivial
  unfold indexProject
  refine Spec.rescue (m := fun g _ => g ≠ .zeroStep) ?_ (fun _ _ _ h => h) fun f _ => ?_
  · dsimp only
    split
    · refine Spec.bind (clearExisting_avoids path) fun _ => ?_
      exact Spec.bind (extractProject_avoids path patterns) hproject
    · exact Spec.bind (extractProject_avoids path patterns) hproject
  · intro s hf
    have hhandler : Avoids .zeroStep
        (do
          announce s!"Project indexing failed: {f.message}"
          Action.record (.err s!"Project indexing failed: {f.message}")
          Action.fail f : Action Engine ProjectIndex) := by
      refine Spec.bind (announce_avoids _) fun _ => Spec.bind Spec.record fun _ => ?_
      exact Spec.fail fun _ _ => hf
    exact hhandler s trivial

end Index.Engine

/-! ### Storing in batches of any size -/

section Storing

open VectorStore Index.Engine

/-- However large the batches are, the store ends up with what it gets from the elements with embeddings
one by one, and the others are skipped with a warning. A batch size of zero is refused exactly if there is
something to store, and no project comes to that. -/
theorem storing_ignores_batches (es : List Element) :
    (∀ (c : Collection) (v : VectorStore) (log : Log), v.Takes c →
      (∀ size : Int, (es ≠ [] → 1 ≤ size) →
        ∃ v', store es size (v, log) = (.ok (), (v', log ++ warnings es)) ∧
          v'.Holds (((es.filter Element.isEmbedded).map Entry.ofElement).foldl Collection.upsert c)) ∧
      ∀ size size' : Int, 1 ≤ size → 1 ≤ size' →
        (store es size (v, log)).2.1.collection? = (store es size' (v, log)).2.1.collection?) ∧
    (∀ (size : Int) (s : VectorStore × Log),
      (store es size s).1 = .error .zeroStep ↔ es ≠ [] ∧ size = 0) ∧
    ∀ path patterns clearFirst s,
      (indexProject path patterns clearFirst s).1 ≠ .error .zeroStep := by
  refine ⟨fun c v log htakes => ⟨fun size hsize => store_eq htakes hsize log, ?_⟩,
    store_zeroStep_iff es, fun path patterns clearFirst => ?_⟩
  · intro size size' hsize hsize'
    obtain ⟨v₁, hrun₁, hholds₁⟩ := store_eq htakes (fun _ : es ≠ [] => hsize) log
    obtain ⟨v₂, hrun₂, hholds₂⟩ := store_eq htakes (fun _ : es ≠ [] => hsize') log
    rw [hrun₁, hrun₂]
    exact hholds₁.collection?_eq.trans hholds₂.collection?_eq.symm
  · exact (indexProject_avoids path patterns clearFirst).outcome_ne

/-- A store with an entry, and elements of which one has no embedding and another an empty one. Two of
the others have the identifier of the entry. -/
def repetitive : VectorStore × List Element :=
  ({ kept := some [⟨"a", [], "old", .module, "", "", "", 1, 1, none, none, none⟩], handle := .shared },
    [("b", "", none), ("a", "new", some [1.0]), ("c", "", some [2.0]), ("d", "", some []),
      ("a", "newer", some [3.0])].map fun (id, content, embedding) =>
        ⟨id, .module, "", content, "", { lineStart := 1, lineEnd := 1 }, { language := "" }, embedding,
          [], none⟩)

theorem repetitive_store :
    repetitive.1.Takes [⟨"a", [], "old", .module, "", "", "", 1, 1, none, none, none⟩] ∧
    (∃ v c, store repetitive.2 2 (repetitive.1, []) = (.ok (), (v, warnings repetitive.2)) ∧
      v.Holds c ∧ c.map (fun x => (x.id, x.document)) = [("a", "newer"), ("c", "")]) ∧
    (store repetitive.2 1 (repetitive.1, [])).2.1.collection? =
      (store repetitive.2 5 (repetitive.1, [])).2.1.collection? := by
  have htakes : repetitive.1.Takes
      [⟨"a", [], "old", .module, "", "", "", 1, 1, none, none, none⟩] := ⟨rfl, rfl⟩
  obtain ⟨hstored, hsame⟩ := (storing_ignores_batches repetitive.2).1 _ _ [] htakes
  obtain ⟨v, hrun, hholds⟩ := hstored 2 (fun _ => by decide)
  exact ⟨htakes, ⟨v, _, hrun, hholds, by decide +kernel⟩, hsame 1 5 (by decide) (by decide)⟩

end Storing

/-! ### Embedding in batches of any size -/

namespace Index.Engine

/-- The client listens, the model answers, and it was given these texts so far. -/
structure Answers (given : List (List String)) (e : Engine) : Prop where
  listens : e.refused = none
  willing : e.vectors.behaviour.refusal? .encode = none
  encoded : e.encoded = given

variable {given : List (List String)}

lemma announce_answers (text : String) :
    Spec (Answers given) (announce text) (fun _ => Answers given) fun _ _ => False := by
  unfold announce
  refine Spec.bind (m := fun _ => Answers given) (Spec.modify fun e h => ?_) fun _ => ?_
  · exact ⟨h.listens, h.willing, h.encoded⟩
  · refine Spec.get_bind fun e h => ?_
    rw [h.listens]
    apply Spec.pure
    rintro e' rfl
    exact h

lemma permit_answers :
    Spec (Answers given) (onVectors (VectorStore.permit .encode)) (fun _ => Answers given)
      fun _ _ => False := by
  rintro ⟨e, log⟩ h
  simp only [onVectors, Action.within, VectorStore.permit_of_obliging h.willing log]
  exact h

lemma keptByEmbedding_answers : KeptByEmbedding Answers fun _ _ => False := by
  constructor
  · exact fun _ text => announce_answers text
  · exact fun _ => permit_answers
  · intro given texts e h
    exact ⟨h.listens, h.willing, by rw [h.encoded]⟩

/-- However large the batches are, each element gets the vector of its own text and stays as it is
otherwise. If the client listens and the model answers, nothing goes wrong, and the model is given the
texts batch by batch. -/
theorem embedding_ignores_batches {e : Engine} {model : Model}
    (hmodel : e.surroundings.model = some model) (hloaded : e.loaded = true) (es : List Element)
    (log : Log) :
    ∃ fs : List Element, fs.length = es.length ∧
      (∀ (k : Nat) (x : Element), es[k]? = some x →
        fs[k]? = some { x with embedding := some (model (summary x)) }) ∧
      ∀ size : Int, 1 ≤ size →
        (∀ gs s, embed es size (e, log) = (.ok gs, s) → gs = fs) ∧
        (e.refused = none → e.vectors.behaviour.refusal? .encode = none →
          ∃ s, embed es size (e, log) = (.ok fs, s) ∧
            s.1.encoded = e.encoded ++ batches size.toNat (es.map summary)) := by
  refine ⟨es.map (withEmbedding model), List.length_map _, ?_, ?_⟩
  · intro k x hx
    rw [List.getElem?_map, hx]
    rfl
  · intro size hsize
    constructor
    · intro gs s hrun
      have hspec : Spec e.Unmoved (embed es size) _ _ := embed_spec es (by omega)
      have hgs := (hspec.result (Unmoved.refl e) hrun).1
      rwa [embedded_of_loaded hmodel hloaded] at hgs
    · intro hlistens hwilling
      have hanswers : e.Answers e.encoded := ⟨hlistens, hwilling, rfl⟩
      have hspec := keptByEmbedding_answers.embed e.encoded hanswers hmodel hloaded es
        (show 0 < size by omega)
      obtain ⟨gs, s, hrun, rfl, hafter⟩ := hspec.exists_result (s := (e, log)) rfl
      exact ⟨s, hrun, hafter.encoded⟩

/-- An engine with a model that counts characters. -/
def counting : Engine where
  surroundings := { model := some fun text => [Float.ofNat text.length] }
  disk := ⟨.folder .nil, ⟨['/'], []⟩⟩
  loaded := true

/-- An import, a method and a class that has an embedding already. -/
def threeKinds : List Element :=
  [(.importing, "os", none), (.method, "f", none), (.classDef, "C", some [0.0])].map
    fun (kind, name, embedding) =>
      ⟨name, kind, name, "", "m.py", { lineStart := 1, lineEnd := 1 }, { language := "" }, embedding, [],
        none⟩

theorem counting_embedding :
    ∃ fs, (∃ s, embed threeKinds 2 (counting, []) = (.ok fs, s) ∧
        s.1.encoded = [["import statement: os", "method f in m"], ["class C in m"]]) ∧
      (∃ s, embed threeKinds 5 (counting, []) = (.ok fs, s)) ∧ fs.length = 3 ∧
      (fs[2]?.map fun x => (x.name, x.embedding)) = some ("C", some [Float.ofNat 12]) := by
  have htexts : batches 2 (threeKinds.map summary) =
      [["import statement: os", "method f in m"], ["class C in m"]] := by
    rw [batches_of_ne_nil (by decide) (by simp [threeKinds])]
    decide +kernel
  have hclass : (threeKinds[2]?.map fun x => (x.name, (summary x).length)) = some ("C", 12) := by
    decide +kernel
  have hmodel : counting.surroundings.model = some fun text => [Float.ofNat text.length] := rfl
  obtain ⟨fs, hlength, hvectors, hsizes⟩ := embedding_ignores_batches hmodel rfl threeKinds []
  obtain ⟨s, hrun, hencoded⟩ := (hsizes 2 (by decide)).2 rfl rfl
  obtain ⟨s', hrun', _⟩ := (hsizes 5 (by decide)).2 rfl rfl
  refine ⟨fs, ⟨s, hrun, ?_⟩, ⟨s', hrun'⟩, hlength, ?_⟩
  · rw [hencoded]
    exact htexts
  · obtain ⟨x, hx, hnamed⟩ := Option.map_eq_some_iff.mp hclass
    obtain ⟨hname, hcount⟩ := Prod.mk.inj hnamed
    rw [hvectors 2 x hx, Option.map_some, hname, hcount]

end Index.Engine

end CodeAtlas
