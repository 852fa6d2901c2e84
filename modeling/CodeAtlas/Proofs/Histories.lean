import CodeAtlas.Proofs.Stores
import CodeAtlas.Service.Tools

/-!
# Histories of requests

Projects are indexed and cleared in any order, while files, model and client change in between, and
many of the requests fail halfway. Through all of it the vector store holds nothing that the catalog
does not know. The catalog loses rows only together with all entries of the vector store, and gains
the rows of elements before the vector store gains their entries.
-/

namespace CodeAtlas

namespace Collection

/-- The identifiers of the entries of elements are those of the elements. -/
lemma ids_filterMap_ofElement (es : List Element) {k : String}
    (hk : k ∈ (es.filterMap Entry.ofElement?).map (·.id)) : k ∈ es.map (·.id) := by
  obtain ⟨d, hd, rfl⟩ := List.mem_map.mp hk
  obtain ⟨x, hx, hentry⟩ := List.mem_filterMap.mp hd
  refine List.mem_map.mpr ⟨x, hx, ?_⟩
  unfold Entry.ofElement? at hentry
  split at hentry
  · cases hentry
  · cases hentry
  · cases hentry
    rfl

end Collection

namespace Index.Engine

open CodeAtlas.Action

/-- Both stores are open, the vector store empties its collection when asked to, and every entry there
has a row in the catalog; so have the elements with the given identifiers. -/
def Knows (ids : List String) (e : Engine) : Prop :=
  ∃ rows deps c, e.catalog.Holds rows deps ∧
    VectorStore.Serves VectorStore.clearing c e.vectors ∧
    (∀ k ∈ c.map (·.id), k ∈ rows.map (·.id)) ∧ ∀ k ∈ ids, k ∈ rows.map (·.id)

variable {ids : List String}

lemma steady_knows : Steady (Knows ids) := by
  rintro e e' ⟨rows, deps, c, hcatalog, hvectors, hknown, hids⟩ hmoved
  exact ⟨rows, deps, c, hmoved.catalog ▸ hcatalog, hvectors.unmoved hmoved.vectors, hknown, hids⟩

/-- A catalog that has grown knows what it knew before, and the elements that were stored. -/
lemma knows_of_grown {e₀ e : Engine} {rows : List Row} {deps : List DependencyRow} {c : Collection}
    {es : List Element} (h : e₀.Holding
      (·.Grown (Tables.upsertElements rows es) deps (dependencyPairs es))
      (VectorStore.Serves VectorStore.clearing c) e)
    (hknown : ∀ k ∈ c.map (·.id), k ∈ rows.map (·.id)) : Knows (es.map (·.id)) e := by
  obtain ⟨_, ⟨new, _, hcatalog⟩, hvectors⟩ := h
  refine ⟨_, _, c, hcatalog, hvectors, fun k hk => ?_, fun k hk => ?_⟩
  · rw [Tables.ids_upsertElements]
    exact Or.inr (hknown k hk)
  · rw [Tables.ids_upsertElements]
    exact Or.inl hk

lemma Knows.weaken {e : Engine} (h : Knows ids e) : Knows [] e := by
  obtain ⟨rows, deps, c, hcatalog, hvectors, hknown, _⟩ := h
  exact ⟨rows, deps, c, hcatalog, hvectors, hknown, by simp⟩

/-! ### Requests to the engine -/

/-- Clearing a project takes all entries away. -/
theorem clearProject_knows (path : Path) : Keeps (Knows []) (clearProject path) := by
  refine Spec.at_each fun e h => ?_
  obtain ⟨rows, deps, c, hcatalog, hvectors, _⟩ := h
  have hspec : Spec (e.Holding (·.Holds rows deps) (VectorStore.Serves VectorStore.clearing c))
      (clearProject path) _ _ :=
    clearProject_rule path fun C => clearVectors_spec (Or.inl (List.Subset.refl _))
  refine hspec.weaken ?_ (fun _ e' h => ?_) fun _ _ h => ?_
  · rintro e' rfl
    exact ⟨⟨rfl, rfl, rfl⟩, hcatalog, hvectors⟩
  · exact ⟨_, _, [], h.catalog, h.vectors, by simp, by simp⟩
  · exact absurd (List.Subset.refl _) h

/-- Elements are stored in the catalog first. -/
lemma storeInCatalog_knows (es : List Element) :
    Spec (Knows []) (storeInCatalog es) (fun _ => Knows (es.map (·.id))) (fun _ => Knows []) := by
  refine Spec.at_each fun e h => ?_
  obtain ⟨rows, deps, c, hcatalog, hvectors, hknown, _⟩ := h
  have hspec : Spec (e.Holding (·.Holds rows deps) (VectorStore.Serves VectorStore.clearing c))
      (storeInCatalog es) _ _ := storeInCatalog_spec es
  refine hspec.weaken ?_ (fun _ e' h => ?_) fun _ e' h => ?_
  · rintro e' rfl
    exact ⟨⟨rfl, rfl, rfl⟩, hcatalog, hvectors⟩
  · exact knows_of_grown h hknown
  · obtain ⟨done, _, h⟩ := h
    exact (knows_of_grown h hknown).weaken

/-- The entries that are stored next are those of elements that the catalog knows. -/
lemma storeInVectors_knows (es : List Element) :
    Spec (Knows (es.map (·.id))) (onVectors (VectorStore.store es (min 100 es.length : Nat)))
      (fun _ => Knows []) (fun _ => Knows []) := by
  refine Spec.at_each fun e h => ?_
  obtain ⟨rows, deps, c, hcatalog, hvectors, hknown, hids⟩ := h
  have hstored : ∀ done : List Element, done <+: es → ∀ e', e.Holding (·.Holds rows deps)
      (VectorStore.Serves VectorStore.clearing
        (c.upsertAll (done.filterMap Entry.ofElement?))) e' → Knows [] e' := by
    intro done hdone e' h
    refine ⟨rows, deps, _, h.catalog, h.vectors, fun k hk => ?_, by simp⟩
    rcases (isUpsert_entries.keys_foldl _ _ _).mp hk with hnew | hold
    · have hmem := Collection.ids_filterMap_ofElement done hnew
      exact hids k ((hdone.map _).subset hmem)
    · exact hknown k hold
  have hspec : Spec (e.Holding (·.Holds rows deps) (VectorStore.Serves VectorStore.clearing c))
      (onVectors (VectorStore.store es (min 100 es.length : Nat))) _ _ :=
    onVectors_holding (VectorStore.Serves.store es batchSize_pos)
  refine hspec.weaken ?_ (fun _ e' h => hstored es (List.prefix_refl es) e' h) fun _ e' h => ?_
  · rintro e' rfl
    exact ⟨⟨rfl, rfl, rfl⟩, hcatalog, hvectors⟩
  · obtain ⟨halike, hcatalog', done, hdone, hserves⟩ := h
    exact hstored done hdone e' ⟨halike, hcatalog', hserves⟩

lemma storeProject_knows (es : List Element) : Keeps (Knows []) (storeProject es) :=
  storeProject_rule (storeInCatalog_knows es) (storeInVectors_knows es) steady_knows steady_knows
    (fun _ h => h) fun _ h => h.weaken

/-- Whether it fails or not, and wherever it fails, indexing leaves no entry without a row. -/
theorem indexProject_knows (path : Path) (patterns : List String) (clearFirst : Bool) :
    Keeps (Knows []) (indexProject path patterns clearFirst) := by
  refine indexProject_rule (m := Knows []) ?_ (fun _ _ h => h) ?_ (fun _ h => h) (fun _ h => h)
    steady_knows steady_knows
  · intro _
    exact clearExisting_rule (clearProject_knows path) steady_knows steady_knows (fun _ h => h)
      fun _ h => h
  · intro e he found _
    exact (storeProject_knows _).weaken (fun e' hmoved => steady_knows e e' he hmoved)
      (fun _ _ h => h) fun _ _ h => h

end Index.Engine

namespace Service

open CodeAtlas.Action CodeAtlas.Index App

variable {α : Type}

/-! ### Requests to the application -/

/-- The application is ready, and so is its engine for a property. -/
def ReadyWith (P : Engine → Prop) (a : App) : Prop :=
  a.ready = true ∧ P a.engine

lemma onEngine_spec {P : Engine → Prop} {x : Action Engine α} {post : α → Engine → Prop}
    {exit : Failure → Engine → Prop} (hx : Spec P x post exit) :
    Spec (ReadyWith P) (onEngine x) (fun r => ReadyWith (post r)) (fun f => ReadyWith (exit f)) :=
  Spec.within (fun _ _ => rfl) (fun _ _ h => h) hx

lemma tell_spec {P : Engine → Prop} (hP : Engine.Steady P) (severity : Severity) (text : String)
    {exit : Failure → App → Prop} :
    Spec (ReadyWith P) (tell severity text) (fun _ => ReadyWith P) exit := by
  refine Spec.modify fun a ha => ⟨ha.1, hP a.engine _ ha.2 ?_⟩
  exact ⟨⟨rfl, rfl, rfl⟩, rfl, .refl _⟩

lemma ensureReady_spec {P : Engine → Prop} {exit : Failure → App → Prop} :
    Spec (ReadyWith P) ensureReady (fun _ => ReadyWith P) exit := by
  unfold ensureReady
  refine Spec.get_bind fun a ha => ?_
  rw [if_pos ha.1]
  exact Spec.pure fun a' h => h ▸ ha

/-- Taking all rows away commits what is left, and tells how many there were. -/
lemma removeRows_rule {pre : App → Prop} {post : Nat → App → Prop} {exit : Failure → App → Prop}
    (h : ∀ a, pre a →
      let deleted := a.engine.catalog.deleteWhere (fun _ => true) fun _ => false
      post deleted.1 { a with engine := { a.engine with catalog := deleted.2.commit } }) :
    Spec pre removeRows post exit := by
  unfold removeRows
  refine Spec.get_bind fun a ha => ?_
  refine Spec.bind (m := fun _ => post _) (Spec.modify fun a' heq => ?_) fun _ => Spec.pure fun _ h => h
  subst heq
  exact h a' ha

/-- The catalog has no rows left, while the vector store has not been cleared yet. -/
def Emptied (e : Engine) : Prop :=
  ∃ deps c, e.catalog.Holds [] deps ∧ VectorStore.Serves VectorStore.clearing c e.vectors

lemma removeRows_spec {exit : Failure → App → Prop} :
    Spec (ReadyWith (Engine.Knows [])) removeRows (fun _ => ReadyWith Emptied) exit := by
  refine removeRows_rule fun a ha => ?_
  obtain ⟨hready, rows, deps, c, hcatalog, hvectors, _⟩ := ha
  have hholds := (hcatalog.deleteWhere (fun _ => true) fun _ => false).commit
  rw [List.filter_eq_nil_iff.mpr (by simp)] at hholds
  exact ⟨hready, _, c, hholds, hvectors⟩

lemma cleanVectors_spec : Spec (ReadyWith Emptied) cleanVectors
    (fun _ => ReadyWith (Engine.Knows [])) (fun _ => ReadyWith (Engine.Knows [])) := by
  refine Spec.at_each fun a ⟨hready, deps, c, hcatalog, hvectors⟩ => ?_
  have hclear : Spec (ReadyWith (a.engine.Holding (·.Holds [] deps)
      (VectorStore.Serves VectorStore.clearing c))) (onVectors VectorStore.clear) _ _ :=
    onEngine_spec (Engine.onVectors_holding VectorStore.Serves.clear)
  unfold cleanVectors
  refine Spec.rescue (m := fun _ _ => False) ?_ (fun _ _ _ h => h.elim) fun _ _ _ h => h.elim
  refine Spec.bind (m := fun _ => ReadyWith (Engine.Knows [])) ?_ fun n => ?_
  · refine hclear.weaken ?_ (fun n a' h => ⟨h.1, ?_⟩) fun _ _ h => h.2.vectors.2 (List.Subset.refl _)
    · rintro a' rfl
      exact ⟨hready, ⟨rfl, rfl, rfl⟩, hcatalog, hvectors⟩
    · exact ⟨[], deps, [], h.2.catalog, h.2.vectors.1, by simp, by simp⟩
  · exact Spec.bind (tell_spec Engine.steady_knows _ _) fun _ => Spec.pure fun _ h => h

/-- A confirmed clean-up takes all rows and all entries away, and a dry run none. -/
theorem cleanAll_knows (project : String) (dryRun : Bool) :
    Keeps (ReadyWith (Engine.Knows [])) (cleanAll project true dryRun) := by
  unfold cleanAll
  refine Spec.bind ensureReady_spec fun _ => ?_
  refine Spec.rescue (m := fun _ => ReadyWith (Engine.Knows [])) ?_ (fun _ _ _ h => h) fun f _ => ?_
  · refine Spec.get_bind fun a ha => ?_
    refine Spec.bind (m := fun _ => ReadyWith (Engine.Knows []))
      ((tell_spec Engine.steady_knows _ _).weaken (fun a' h => h ▸ ha) (fun _ _ h => h)
        fun _ _ h => h) fun _ => ?_
    rw [if_neg (by simp)]
    refine Spec.bind (m := fun _ => ReadyWith (Engine.Knows []))
      (Spec.ofExcept (fun _ _ _ h => h) fun _ _ _ h => h) fun rows => ?_
    dsimp only
    split
    · exact Spec.bind (tell_spec Engine.steady_knows _ _) fun _ => Spec.pure fun _ h => h
    · refine Spec.bind (tell_spec Engine.steady_knows _ _) fun _ => ?_
      -- Between the two stores the entries have no rows; clearing the vector store cannot fail here.
      refine Spec.bind removeRows_spec fun _ => ?_
      refine Spec.bind cleanVectors_spec fun cleaned => Spec.get_bind fun a ha => ?_
      refine Spec.bind (m := fun _ => ReadyWith (Engine.Knows []))
        (Spec.ofExcept (fun _ _ _ h => h ▸ ha) fun _ _ _ h => h ▸ ha) fun after => ?_
      exact Spec.bind (tell_spec Engine.steady_knows _ _) fun _ => Spec.pure fun _ h => h
  · refine Spec.bind Spec.record fun _ => ?_
    exact Spec.bind (tell_spec Engine.steady_knows _ _) fun _ => Spec.pure fun _ h => h

/-! ### Histories -/

/-- A vector database that lists what it has, and never refuses to count, list or delete. Other
operations may be refused. -/
structure Reliable where
  behaviour : Behaviour
  lists : behaviour.ids = none
  obliging : ∀ op ∈ VectorStore.clearing, behaviour.refusal? op = none

/-- What may happen to the application: its surroundings change, or it gets a request. -/
inductive Happening where
  /-- The files, the options and the model, the client or the vector database change. -/
  | change (disk : Disk) (surroundings : Surroundings) (loaded : Bool) (refused : Option String)
      (database : Reliable)
  | index (path : Path) (patterns : List String) (clearFirst : Bool)
  | clear (path : Path)
  /-- A clean-up that the client has confirmed. -/
  | clean (project : String) (dryRun : Bool)

/-- What the application does; a request that fails is over. -/
def Happening.perform : Happening → Action App Unit
  | .change disk surroundings loaded refused database =>
    Action.modify fun a => { a with engine := { a.engine with
      disk := disk
      surroundings := surroundings
      loaded := loaded
      refused := refused
      vectors := { a.engine.vectors with behaviour := database.behaviour } } }
  | .index path patterns clearFirst => do
    let _ ← Action.attempt (onEngine (Engine.indexProject path patterns clearFirst))
  | .clear path => do
    let _ ← Action.attempt (onEngine (Engine.clearProject path))
  | .clean project dryRun => do
    let _ ← Action.attempt (cleanAll project true dryRun)

/-- Whatever happens, no entry is without a row. -/
theorem perform_knows (h : Happening) : Keeps (ReadyWith (Engine.Knows [])) h.perform := by
  match h with
  | .change disk surroundings loaded refused database =>
    unfold Happening.perform
    refine Spec.modify fun a ha => ?_
    obtain ⟨hready, rows, deps, c, hcatalog, hvectors, hknown, hids⟩ := ha
    have hserves : VectorStore.Serves VectorStore.clearing c
        { a.engine.vectors with behaviour := database.behaviour } :=
      ⟨hvectors.holds, database.lists, database.obliging⟩
    exact ⟨hready, rows, deps, c, hcatalog, hserves, hknown, hids⟩
  | .index path patterns clearFirst =>
    exact Keeps.attempt (onEngine_spec (Engine.indexProject_knows path patterns clearFirst))
  | .clear path => exact Keeps.attempt (onEngine_spec (Engine.clearProject_knows path))
  | .clean project dryRun => exact Keeps.attempt (cleanAll_knows project dryRun)

/-- The application after a history. -/
def afterHistory (history : List Happening) (a : App) (log : Log) : App :=
  (Action.forEach Happening.perform history (a, log)).2.1

/-- After every history that began with two empty stores both are open, and the identifier of every
entry in the vector store is that of a row of the catalog. -/
theorem entries_have_rows {a : App} (history : List Happening) (log : Log) (hready : a.ready = true)
    (hcatalog : a.engine.catalog.Holds [] [])
    (hvectors : VectorStore.Serves VectorStore.clearing [] a.engine.vectors) :
    ∃ rows deps c, (afterHistory history a log).engine.catalog.Holds rows deps ∧
      (afterHistory history a log).engine.vectors.Holds c ∧
      ∀ d ∈ c, d.id ∈ rows.map (·.id) := by
  have hstart : ReadyWith (Engine.Knows []) a :=
    ⟨hready, [], [], [], hcatalog, hvectors, by simp, by simp⟩
  have hrun : Keeps (ReadyWith (Engine.Knows [])) (Action.forEach Happening.perform history) :=
    Keeps.forEach perform_knows history
  obtain ⟨_, rows, deps, c, hcatalog', hvectors', hknown, _⟩ := hrun.state (s := (a, log)) hstart
  exact ⟨rows, deps, c, hcatalog', hvectors'.holds, fun d hd => hknown _ (List.mem_map_of_mem hd)⟩

/-- A working directory with one file. -/
def folderWith (name : String) : Disk :=
  ⟨.folder (.cons ['w'] (.folder (.cons name.toList (.file [104]) .nil)) .nil), ⟨['/'], [['w']]⟩⟩

def textFiles : Surroundings where
  model := some fun _ => [1.0]
  extensions := [(".txt", "text")]

def newcomer : App where
  engine := {
    surroundings := textFiles
    disk := folderWith "a.txt"
    catalog := { tables := some {} }
    vectors := {
      kept := some []
      handle := .shared }
    loaded := true }
  ready := true

/-- The file `a.txt` is indexed and gives way to `b.txt`; then the client goes away while that is being
stored. -/
def interrupted : List Happening :=
  [.index (.ofString ".") [] true,
    .change (folderWith "b.txt") textFiles true (some "vector database") ⟨{}, rfl, fun _ _ => rfl⟩,
    .index (.ofString ".") [] false]

theorem interrupted_entries_have_rows :
    (afterHistory interrupted newcomer []).engine.vectors.collection?.map (·.map (·.id)) =
      some ["file_a.txt"] ∧
    (afterHistory interrupted newcomer []).engine.catalog.rows.toOption.map (·.map (·.id)) =
      some ["file_a.txt", "file_b.txt"] ∧
    ∃ rows deps c, (afterHistory interrupted newcomer []).engine.catalog.Holds rows deps ∧
      (afterHistory interrupted newcomer []).engine.vectors.Holds c ∧
      ∀ d ∈ c, d.id ∈ rows.map (·.id) := by
  have hholds : newcomer.engine.vectors.Holds [] := rfl
  rw [← and_assoc]
  refine ⟨by decide +kernel, ?_⟩
  exact entries_have_rows interrupted [] rfl ⟨_, rfl, rfl, rfl⟩ ⟨hholds, rfl, fun _ _ => rfl⟩

end Service

end CodeAtlas
