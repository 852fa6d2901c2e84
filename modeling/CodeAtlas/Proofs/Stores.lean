import CodeAtlas.Proofs.Indexing

/-!
# Clearing and storing a project

What happens to the catalog when a project is cleared or stored does not depend on the vector store,
and the other way round. `Holding C V` therefore describes an engine by a property of each store, and
every step is described by what it does to the one of them, whatever the other is like.
-/

namespace CodeAtlas.Index.Engine

open CodeAtlas.Action

variable {α : Type} {e₀ : Engine} {C : Catalog → Prop} {V W : VectorStore → Prop}
  {rows : List Row} {deps : List DependencyRow} {ops : List Operation} {c : Collection}

/-- An engine like another one, with such a catalog and such a vector store. -/
structure Holding (e₀ : Engine) (C : Catalog → Prop) (V : VectorStore → Prop) (e : Engine) :
    Prop where
  alike : e₀.Alike e
  catalog : C e.catalog
  vectors : V e.vectors

lemma Holding.mono {C' : Catalog → Prop} {e : Engine} (h : e₀.Holding C V e)
    (hC : ∀ c, C c → C' c) (hV : ∀ v, V v → W v) : e₀.Holding C' W e :=
  ⟨h.alike, hC _ h.catalog, hV _ h.vectors⟩

lemma steady_holding (hV : VectorStore.Steady V) : Steady (e₀.Holding C V) := by
  rintro e e' ⟨halike, hcatalog, hvectors⟩ hmoved
  exact ⟨halike.trans hmoved.toAlike, hmoved.catalog ▸ hcatalog, hV _ _ hvectors hmoved.vectors⟩

lemma steady_true : Steady fun _ => True :=
  fun _ _ h _ => h

lemma onVectors_holding {x : Action VectorStore α} {post : α → VectorStore → Prop}
    {exit : Failure → VectorStore → Prop} (hx : Spec V x post exit) :
    Spec (e₀.Holding C V) (onVectors x) (fun a => e₀.Holding C (post a))
      (fun f => e₀.Holding C (exit f)) := by
  have hframe : ∀ (e : Engine) (v : VectorStore), e₀.Alike e ∧ C e.catalog →
      e₀.Alike { e with vectors := v } ∧ C e.catalog :=
    fun _ _ h => ⟨⟨h.1.surroundings, h.1.disk, h.1.loaded⟩, h.2⟩
  exact (onVectors_spec hframe hx).weaken (fun _ h => ⟨⟨h.alike, h.catalog⟩, h.vectors⟩)
    (fun _ _ h => ⟨h.1.1, h.1.2, h.2⟩) fun _ _ h => ⟨h.1.1, h.1.2, h.2⟩

/-! ### Clearing -/

/-- Nothing but an interruption makes the clearing of the vector store fail; `R` is what the rest of the
engine keeps. -/
lemma clearVectors_frame {R : Engine → Prop} (hR : ∀ e v, R e → R { e with vectors := v }) :
    Spec R clearVectors (fun _ => R) (fun f e => isInterruption f = true ∧ R e) := by
  have hany : ∀ {β : Type} (x : Action VectorStore β), Keeps R (onVectors x) := fun x =>
    (onVectors_spec hR Spec.trivial).weaken (fun _ h => ⟨h, trivial⟩) (fun _ _ h => h.1)
      fun _ _ h => h.1
  unfold clearVectors
  refine Spec.rescue (m := fun _ => R) ?_ (fun f hf _ h => ⟨hf, h⟩) fun f _ => ?_
  · exact Spec.bind (hany _) fun _ => Spec.pure fun _ h => h
  · refine Spec.bind Spec.record fun _ => ?_
    refine Spec.rescue (m := fun _ => R) (hany _) (fun f hf _ h => ⟨hf, h⟩) fun g _ => ?_
    exact Spec.record

lemma clearVectors_keeps :
    Spec (e₀.Holding C fun _ => True) clearVectors (fun _ => e₀.Holding C fun _ => True)
      (fun f _ => isInterruption f = true ∧ True) := by
  have hframe : ∀ (e : Engine) v, e₀.Holding C (fun _ => True) e →
      e₀.Holding C (fun _ => True) { e with vectors := v } :=
    fun _ _ h => ⟨⟨h.alike.surroundings, h.alike.disk, h.alike.loaded⟩, h.catalog, trivial⟩
  exact (clearVectors_frame hframe).weaken (fun _ h => h) (fun _ _ h => h)
    fun _ _ h => ⟨h.1, trivial⟩

/-- The vector store is empty afterwards, if its database clears a collection or makes it anew. -/
lemma clearVectors_spec (hops : VectorStore.clearing ⊆ ops ∨ VectorStore.recreating ⊆ ops) :
    Spec (e₀.Holding C (VectorStore.Serves ops c)) clearVectors
      (fun _ => e₀.Holding C (VectorStore.Serves ops []))
      (fun f _ => isInterruption f = true ∧ ¬ VectorStore.clearing ⊆ ops) := by
  unfold clearVectors
  refine Spec.rescue (m := fun _ => e₀.Holding C fun v => (∃ c' : Collection, c'.Sublist c ∧
    VectorStore.Serves ops c' v) ∧ ¬ VectorStore.clearing ⊆ ops) ?_ ?_ fun f _ => ?_
  · refine Spec.bind (onVectors_holding VectorStore.Serves.clear) fun n => Spec.pure fun e h => ?_
    exact h.mono (fun _ h => h) fun _ h => h.1
  · exact fun f hf e h => ⟨hf, h.vectors.2⟩
  · refine Spec.bind Spec.record fun _ => ?_
    refine Spec.at_each fun e h => ?_
    obtain ⟨halike, hcatalog, ⟨c', _, hserves⟩, hclearing⟩ := h
    have hrecreating := hops.resolve_left hclearing
    -- The collection is made anew, which is not refused.
    refine Spec.rescue (m := fun _ _ => False) ?_ (fun _ _ _ h => h.elim) fun _ _ => ?_
    · refine (onVectors_holding (VectorStore.Serves.recreate (c := c'))).weaken ?_
        (fun _ _ h => h) fun _ _ h => h.vectors.2 hrecreating
      rintro e' rfl
      exact ⟨halike, hcatalog, hserves⟩
    · exact fun _ h => h.elim

/-- Rows and dependencies that stay when a project is cleared. -/
def keptRows (e : Engine) (path : Path) (rows : List Row) : List Row :=
  rows.filter fun r => !(projectRows e.disk path).1 r

def keptDependencies (e : Engine) (path : Path) (deps : List DependencyRow) : List DependencyRow :=
  deps.filter fun d => !(projectRows e.disk path).2 d

/-- The catalog without the rows and dependencies of a project. -/
def withoutProject (e : Engine) (path : Path) (c : Catalog) : Catalog :=
  (c.deleteWhere (projectRows e.disk path).1 (projectRows e.disk path).2).2.commit

lemma rows_withoutProject {catalog : Catalog} (e : Engine) (path : Path)
    (h : catalog.rows = .ok rows) :
    (e.withoutProject path catalog).rows = .ok (keptRows e path rows) :=
  Catalog.rows_deleteWhere h _ _

/-- What clearing a project does to a catalog that can be read, and `clearVectors` to the vector store.
The result is the number of rows that go. -/
theorem clearProject_spec {E : Prop} (path : Path) (hrows : ∀ c, C c → c.rows = .ok rows)
    (hvectors : ∀ C, Spec (e₀.Holding C V) clearVectors (fun _ => e₀.Holding C W)
      (fun f _ => isInterruption f = true ∧ E)) :
    Spec (e₀.Holding C V) (clearProject path)
      (fun n e => n = rows.countP (projectRows e₀.disk path).1 ∧
        e₀.Holding (fun c' => ∃ c, C c ∧ c' = e₀.withoutProject path c) W e)
      (fun _ _ => E) := by
  unfold clearProject
  refine Spec.rescue (m := fun f _ => isInterruption f = true ∧ E) ?_ (fun _ _ _ h => h.2) ?_
  · refine Spec.get_bind fun e ⟨halike, hcatalog, hV⟩ => ?_
    rw [hrows _ hcatalog, halike.disk]
    refine Spec.bind (m := fun a e' => a = rows ∧ e' = e) (Spec.pure fun _ h => ⟨rfl, h⟩)
      fun a => Spec.of_fact fun ha => ?_
    subst ha
    dsimp only
    refine Spec.bind (m := fun _ => e₀.Holding (fun c' => ∃ c, C c ∧ c' = e₀.withoutProject path c) V)
      (Spec.modify fun e' h => ?_) fun _ => ?_
    · subst h
      exact ⟨⟨halike.surroundings, halike.disk, halike.loaded⟩, ⟨_, hcatalog, rfl⟩, hV⟩
    · exact Spec.bind (hvectors _) fun _ => Spec.pure fun e' h => ⟨rfl, h⟩
  · -- Only an interruption gets here, and it is not rescued.
    intro f hf
    refine Spec.at_each fun e h => ?_
    rw [hf] at h
    cases h.1

/-- The same for a catalog with both tables. -/
theorem clearProject_rule {E : Prop} (path : Path)
    (hvectors : ∀ C, Spec (e₀.Holding C V) clearVectors (fun _ => e₀.Holding C W)
      (fun f _ => isInterruption f = true ∧ E)) :
    Spec (e₀.Holding (·.Holds rows deps) V) (clearProject path)
      (fun _ => e₀.Holding (·.Holds (keptRows e₀ path rows) (keptDependencies e₀ path deps)) W)
      (fun _ _ => E) := by
  have hspec : Spec (e₀.Holding (·.Holds rows deps) V) (clearProject path) _ _ :=
    clearProject_spec path (fun _ h => h.rows_eq) hvectors
  refine hspec.weaken (fun _ h => h) (fun _ e h => h.2.mono ?_ fun _ h => h) fun _ _ h => h
  rintro _ ⟨c, hc, rfl⟩
  exact (hc.deleteWhere _ _).commit

/-- Clearing a project touches nothing but the stores. -/
lemma clearProject_alike (path : Path) : Keeps e₀.Alike (clearProject path) := by
  have hstores : ∀ (e : Engine) k v, e₀.Alike e → e₀.Alike { e with catalog := k, vectors := v } :=
    fun _ _ _ h => ⟨h.surroundings, h.disk, h.loaded⟩
  unfold clearProject
  refine Spec.rescue (m := fun _ => e₀.Alike) ?_ (fun _ _ _ h => h) fun f _ => ?_
  · refine Spec.get_bind fun e he => ?_
    refine Spec.bind (m := fun _ => e₀.Alike) ?_ fun _ => ?_
    · exact Spec.ofExcept (fun _ _ _ h => h ▸ he) fun _ _ _ h => h ▸ he
    refine Spec.bind (m := fun _ => e₀.Alike) (Spec.modify fun e h => hstores e _ e.vectors h)
      fun _ => ?_
    refine Spec.bind ((clearVectors_frame fun e v => hstores e e.catalog v).weaken (fun _ h => h)
      (fun _ _ h => h) fun _ _ h => h.2) fun _ => Spec.pure fun _ h => h
  · exact Spec.bind Spec.record fun _ => Spec.pure fun _ h => h

/-- A catalog that cannot be read is left alone, and so is the vector store. -/
lemma clearProject_of_error {e : Engine} {f : Failure} (path : Path) (h : e.catalog.rows = .error f)
    (log : Log) : ∃ log', clearProject path (e, log) = (.ok 0, (e, log')) := by
  have hf : isInterruption f = false := by
    unfold Catalog.rows at h
    split at h
    · cases h
      rfl
    · split at h <;> cases h
      rfl
  refine ⟨log ++ [.warn s!"Failed to clear project data: {f.message}"], ?_⟩
  simp only [clearProject, Action.rescue, bind, Action.andThen, Action.get, h, Action.ofExcept,
    Action.fail, hf, Bool.false_eq_true, if_false, Action.record]
  rfl

lemma clearExisting_rule {pre post exit : Engine → Prop} {path : Path}
    (hclear : Spec pre (clearProject path) (fun _ => post) (fun _ => exit)) (hpre : Steady pre)
    (hpost : Steady post) (hpre' : ∀ e, pre e → exit e) (hpost' : ∀ e, post e → exit e) :
    Spec pre (clearExisting path) (fun _ => post) (fun _ => exit) := by
  unfold clearExisting
  refine Spec.bind ((announce_keeps hpre _).weaken (fun _ h => h) (fun _ _ h => h) fun _ => hpre')
    fun _ => Spec.bind hclear fun count => ?_
  split
  · exact (announce_keeps hpost _).weaken (fun _ h => h) (fun _ _ h => h) fun _ => hpost'
  · exact Spec.pure fun _ h => h

/-! ### Storing -/

/-- Storing in the catalog: all elements, or those before the first that does not fit. -/
lemma storeInCatalog_spec (es : List Element) :
    Spec (e₀.Holding (·.Holds rows deps) V) (storeInCatalog es)
      (fun _ => e₀.Holding
        (·.Grown (Tables.upsertElements rows es) deps (dependencyPairs es)) V)
      (fun _ e => ∃ done, done <+: es ∧ e₀.Holding
        (·.Grown (Tables.upsertElements rows done) deps (dependencyPairs done)) V e) := by
  rintro s ⟨halike, hcatalog, hvectors⟩
  obtain ⟨done, hdone, hgrown, hend⟩ := hcatalog.store es
  have halike' : ∀ c, e₀.Alike { s.1 with catalog := c } :=
    fun _ => ⟨halike.surroundings, halike.disk, halike.loaded⟩
  unfold storeInCatalog
  rcases hend with ⟨hok, rfl⟩ | herror
  · rw [← Prod.eta (s.1.catalog.store done)]
    simp only [hok]
    exact ⟨halike' _, hgrown, hvectors⟩
  · rw [← Prod.eta (s.1.catalog.store es)]
    simp only [herror]
    exact ⟨done, hdone, halike' _, hgrown, hvectors⟩

/-- How many elements go to the vector store at once. -/
lemma batchSize_pos {es : List Element} (hes : es ≠ []) : 0 < ((min 100 es.length : Nat) : Int) := by
  have hlength : 0 < es.length := List.length_pos_iff.mpr hes
  omega

lemma storeProject_rule {pre m post exit : Engine → Prop} {es : List Element}
    (hcatalog : Spec pre (storeInCatalog es) (fun _ => m) (fun _ => exit))
    (hvectors : Spec m (onVectors (VectorStore.store es (min 100 es.length : Nat)))
      (fun _ => post) (fun _ => exit))
    (hpre : Steady pre) (hmid : Steady m) (hpre' : ∀ e, pre e → exit e)
    (hmid' : ∀ e, m e → exit e) :
    Spec pre (storeProject es) (fun _ => post) (fun _ => exit) := by
  have hannounce : ∀ text, Spec pre (announce text) (fun _ => pre) (fun _ => exit) := fun text =>
    (announce_keeps hpre text).weaken (fun _ h => h) (fun _ _ h => h) fun _ => hpre'
  unfold storeProject
  refine Spec.bind (hannounce _) fun _ => Spec.bind (hannounce _) fun _ => ?_
  refine Spec.bind hcatalog fun _ => ?_
  refine Spec.bind ((announce_keeps hmid _).weaken (fun _ h => h) (fun _ _ h => h) fun _ => hmid')
    fun _ => hvectors

/-- Both stores after elements were stored. -/
lemma storeProject_spec (es : List Element)
    (hstore : Spec V (VectorStore.store es (min 100 es.length : Nat)) (fun _ => W)
      (fun _ _ => True)) (hV : VectorStore.Steady V) :
    Spec (e₀.Holding (·.Holds rows deps) V) (storeProject es)
      (fun _ => e₀.Holding
        (·.Grown (Tables.upsertElements rows es) deps (dependencyPairs es)) W)
      (fun _ _ => True) := by
  refine storeProject_rule (m := e₀.Holding (·.Grown (Tables.upsertElements rows es) deps
    (dependencyPairs es)) V) ?_ ?_ (steady_holding hV) (steady_holding hV) (fun _ _ => trivial)
    fun _ _ => trivial
  · exact (storeInCatalog_spec es).weaken (fun _ h => h) (fun _ _ h => h) fun _ _ _ => trivial
  · exact (onVectors_holding hstore).weaken (fun _ h => h) (fun _ _ h => h) fun _ _ _ => trivial

/-! ### Embeddings and the catalog -/

/-- An embedding makes no difference to the catalog. -/
lemma ofElement_embedded (e : Engine) (x : Element) :
    Row.ofElement (e.embedded x) = Row.ofElement x := by
  unfold embedded
  split
  · split <;> rfl
  · rfl

lemma dependencies_embedded (e : Engine) (x : Element) :
    (e.embedded x).dependencies = x.dependencies ∧ (e.embedded x).id = x.id := by
  unfold embedded
  split
  · split <;> exact ⟨rfl, rfl⟩
  · exact ⟨rfl, rfl⟩

lemma upsertElements_embedded (e : Engine) (rows : List Row) (es : List Element) :
    Tables.upsertElements rows (es.map e.embedded) = Tables.upsertElements rows es := by
  rw [Tables.upsertElements, Tables.upsertElements, List.map_map]
  congr 1
  exact List.map_congr_left fun x _ => ofElement_embedded e x

lemma dependencyPairs_embedded (e : Engine) (es : List Element) :
    dependencyPairs (es.map e.embedded) = dependencyPairs es := by
  induction es with
  | nil => rfl
  | cons x es ih =>
    obtain ⟨hdependencies, hid⟩ := dependencies_embedded e x
    rw [List.map_cons, dependencyPairs_cons, dependencyPairs_cons, ih, hdependencies, hid]

/-! ### The stores after indexing -/

/-- The rows and dependencies that indexing starts from. -/
def startRows (e : Engine) (path : Path) (clearFirst : Bool) (rows : List Row) : List Row :=
  if clearFirst then keptRows e path rows else rows

def startDependencies (e : Engine) (path : Path) (clearFirst : Bool) (deps : List DependencyRow) :
    List DependencyRow :=
  if clearFirst then keptDependencies e path deps else deps

/-- The stores after a project was indexed: in the catalog the rows of what is found have taken the
places of those of the project, if it was cleared first. `S` is what becomes of the vector store. -/
def Indexed (e₀ : Engine) (path : Path) (patterns : List String) (clearFirst : Bool)
    (rows : List Row) (deps : List DependencyRow) (S : List Element → VectorStore → Prop)
    (e : Engine) : Prop :=
  ∃ found, foundElements path patterns e₀ = .ok found ∧
    e₀.Holding (·.Grown (Tables.upsertElements (startRows e₀ path clearFirst rows) found)
      (startDependencies e₀ path clearFirst deps) (dependencyPairs found))
      (S (found.map e₀.embedded)) e

/-- What indexing does to both stores. In the vector store clearing leads from `V` to `W`, and storing
elements from there to what `S` says. -/
theorem indexProject_stores {path : Path} {patterns : List String} {clearFirst : Bool}
    {S : List Element → VectorStore → Prop}
    (hclear : clearFirst = true → ∀ C, Spec (e₀.Holding C V) clearVectors
      (fun _ => e₀.Holding C W) (fun f _ => isInterruption f = true ∧ True))
    (hskip : clearFirst = false → ∀ v, V v → W v)
    (hstore : ∀ es : List Element, Spec W (VectorStore.store es (min 100 es.length : Nat))
      (fun _ => S es) (fun _ _ => True))
    (hV : VectorStore.Steady V) (hW : VectorStore.Steady W)
    (hS : ∀ es, VectorStore.Steady (S es)) :
    Spec (e₀.Holding (·.Holds rows deps) V) (indexProject path patterns clearFirst)
      (fun _ => e₀.Indexed path patterns clearFirst rows deps S) (fun _ _ => True) := by
  refine indexProject_rule (m := e₀.Holding (·.Holds (startRows e₀ path clearFirst rows)
    (startDependencies e₀ path clearFirst deps)) W) ?_ ?_ ?_ (fun _ _ => trivial)
    (fun _ _ => trivial) ?_ steady_true
  · rintro rfl
    refine clearExisting_rule (clearProject_rule path (hclear rfl)) (steady_holding hV)
      (steady_holding hW) (fun _ _ => trivial) fun _ _ => trivial
  · rintro rfl e h
    exact h.mono (fun _ h => h) (hskip rfl)
  · intro e he found hfound
    rw [he.alike.foundElements] at hfound
    rw [he.alike.embedded]
    refine (storeProject_spec (found.map e₀.embedded) (hstore _) hW).weaken
      (fun e' hmoved => steady_holding hW e e' he hmoved) (fun _ e' h => ?_) fun _ _ h => h
    rw [upsertElements_embedded, dependencyPairs_embedded] at h
    exact ⟨found, hfound, h⟩
  · rintro e e' ⟨found, hfound, h⟩ hmoved
    exact ⟨found, hfound, steady_holding (hS _) e e' h hmoved⟩

/-- The catalog after indexing, whatever becomes of the vector store. -/
theorem indexProject_catalog (path : Path) (patterns : List String) (clearFirst : Bool) :
    Spec (e₀.Holding (·.Holds rows deps) fun _ => True) (indexProject path patterns clearFirst)
      (fun _ => e₀.Indexed path patterns clearFirst rows deps fun _ _ => True)
      (fun _ _ => True) :=
  indexProject_stores (W := fun _ => True) (fun _ _ => clearVectors_keeps) (fun _ _ h => h)
    (fun _ => Spec.trivial) VectorStore.steady_true VectorStore.steady_true
    fun _ => VectorStore.steady_true

/-- The collection after a project was cleared and indexed. -/
theorem indexProject_collection (hops : VectorStore.clearing ⊆ ops ∨ VectorStore.recreating ⊆ ops)
    (path : Path) (patterns : List String) :
    Spec (e₀.Holding (·.Holds rows deps) (VectorStore.Serves ops c))
      (indexProject path patterns true)
      (fun _ => e₀.Indexed path patterns true rows deps fun es =>
        VectorStore.Serves ops (Collection.upsertAll [] (es.filterMap Entry.ofElement?)))
      (fun _ _ => True) := by
  refine indexProject_stores (W := VectorStore.Serves ops []) ?_ (fun h => by cases h) ?_
    VectorStore.steady_serves VectorStore.steady_serves fun _ => VectorStore.steady_serves
  · intro _ C
    exact (clearVectors_spec hops).weaken (fun _ h => h) (fun _ _ h => h)
      fun _ _ h => ⟨h.1, trivial⟩
  · intro es
    exact (VectorStore.Serves.store es batchSize_pos).weaken (fun _ h => h) (fun _ _ h => h)
      fun _ _ _ => trivial

end CodeAtlas.Index.Engine
