import CodeAtlas.Proofs.Catalog
import CodeAtlas.Proofs.Extraction
import CodeAtlas.Proofs.Vectors

/-!
# Indexing a project, step by step

Finding files, reading them and giving elements their embeddings leaves both stores alone; only
clearing and storing touch them. `indexProject_rule` brings the steps together: to know what indexing
does it is enough to know what clearing and storing do.
-/

namespace CodeAtlas.Index.Engine

open CodeAtlas.Text CodeAtlas.Extract CodeAtlas.Action

variable {α : Type}

/-! ### What is found -/

/-- The elements that the engine finds in a file. -/
def fileElements (e : Engine) (root path : Path) : List Element :=
  match e.disk.read path, path.relativeTo? root with
  | .ok content, some relative =>
    (elementsOf e.surroundings.options path relative.toString content).elements
  | _, _ => []

/-- The elements that the engine finds in the files of a project, in order. -/
def foundElements (path : Path) (patterns : List String) (e : Engine) :
    Except Failure (List Element) :=
  (discoverFiles path patterns e).map fun files => files.flatMap (fileElements e path)

/-- What the index of a project says about the number of its files and elements. -/
def Counts (e : Engine) (path : Path) (patterns : List String) (p : ProjectIndex) : Prop :=
  ∃ files, discoverFiles path patterns e = .ok files ∧ p.files = files.length ∧
    p.elements = (files.flatMap (fileElements e path)).length

/-- A file is indexed with a project, and has a path inside it. -/
def Discovers (e : Engine) (path : Path) (patterns : List String) (file relative : Path) : Prop :=
  (∃ files, discoverFiles path patterns e = .ok files ∧ file ∈ files) ∧
    file.relativeTo? path = some relative

lemma mem_fileElements {e : Engine} {root file : Path} {x : Element}
    (hx : x ∈ fileElements e root file) :
    ∃ relative, file.relativeTo? root = some relative ∧ x.filePath = relative.toString := by
  unfold fileElements at hx
  match hread : e.disk.read file, hrelative : file.relativeTo? root with
  | .ok content, some relative =>
    rw [hread, hrelative] at hx
    exact ⟨relative, rfl, elementsOf_filePath hx⟩
  | .ok _, none => simp [hread, hrelative] at hx
  | .error _, _ => simp [hread] at hx

/-- What is found was found in a file, and carries its path inside the project. -/
lemma mem_foundElements {e : Engine} {path : Path} {patterns : List String} {found : List Element}
    {x : Element} (hfound : foundElements path patterns e = .ok found) (hx : x ∈ found) :
    ∃ file relative, e.Discovers path patterns file relative ∧ x ∈ fileElements e path file ∧
      x.filePath = relative.toString := by
  unfold foundElements at hfound
  match hfiles : discoverFiles path patterns e with
  | .ok files =>
    rw [hfiles] at hfound
    cases hfound
    obtain ⟨file, hfile, hx⟩ := List.mem_flatMap.mp hx
    obtain ⟨relative, hrelative, hpath⟩ := mem_fileElements hx
    exact ⟨file, relative, ⟨⟨files, hfiles, hfile⟩, hrelative⟩, hx, hpath⟩
  | .error f =>
    rw [hfiles] at hfound
    cases hfound

/-- An element with the vector of its summary. -/
def withEmbedding (model : Model) (e : Element) : Element :=
  { e with embedding := some (model (summary e)) }

/-- What an element becomes before it is stored: it has an embedding if there is a model. -/
def embedded (e : Engine) (x : Element) : Element :=
  match e.surroundings.model with
  | some model => if e.loaded then withEmbedding model x else x
  | none => x

/-- Two engines with the same files, options and model. -/
structure Alike (e e' : Engine) : Prop where
  surroundings : e'.surroundings = e.surroundings
  disk : e'.disk = e.disk
  loaded : e'.loaded = e.loaded

/-- What is found depends on nothing else. -/
lemma Alike.discoverFiles {e e' : Engine} (h : e.Alike e') (path : Path) (patterns : List String) :
    discoverFiles path patterns e' = discoverFiles path patterns e := by
  rw [Engine.discoverFiles, Engine.discoverFiles, h.disk, h.surroundings]

lemma Alike.fileElements {e e' : Engine} (h : e.Alike e') (path : Path) :
    fileElements e' path = fileElements e path := by
  funext f
  rw [Engine.fileElements, Engine.fileElements, h.disk, h.surroundings]

lemma Alike.foundElements {e e' : Engine} (h : e.Alike e') (path : Path) (patterns : List String) :
    foundElements path patterns e' = foundElements path patterns e := by
  rw [Engine.foundElements, Engine.foundElements, h.fileElements, h.discoverFiles]

lemma Alike.counts {e e' : Engine} {path : Path} {patterns : List String} {p : ProjectIndex}
    (h : e.Alike e') (hp : e'.Counts path patterns p) : e.Counts path patterns p := by
  rwa [Counts, h.fileElements, h.discoverFiles] at hp

lemma Alike.embedded {e e' : Engine} (h : e.Alike e') : e'.embedded = e.embedded := by
  funext x
  rw [Engine.embedded, Engine.embedded, h.surroundings, h.loaded]

/-! ### Steps that leave the stores alone -/

/-- The engine after steps that tell the client something or ask the model. -/
structure Unmoved (e e' : Engine) : Prop extends Alike e e' where
  catalog : e'.catalog = e.catalog
  vectors : e.vectors.Unmoved e'.vectors

lemma Unmoved.refl (e : Engine) : e.Unmoved e :=
  ⟨⟨rfl, rfl, rfl⟩, rfl, .refl _⟩

lemma Alike.trans {e e' e'' : Engine} (h : e.Alike e') (h' : e'.Alike e'') : e.Alike e'' :=
  ⟨h'.surroundings.trans h.surroundings, h'.disk.trans h.disk, h'.loaded.trans h.loaded⟩

lemma Unmoved.trans {e e' e'' : Engine} (h : e.Unmoved e') (h' : e'.Unmoved e'') : e.Unmoved e'' :=
  ⟨h.toAlike.trans h'.toAlike, h'.catalog.trans h.catalog, h.vectors.trans h'.vectors⟩

/-- A property that such steps cannot break. -/
def Steady (P : Engine → Prop) : Prop :=
  ∀ e e', P e → e.Unmoved e' → P e'

lemma announce_spec {P : Engine → Prop} (hP : Steady P) (text : String) :
    Spec P (announce text) (fun _ => P) (fun f e => P e ∧ isInterruption f = false) := by
  unfold announce
  refine Spec.bind (m := fun _ => P) (Spec.modify fun e he => ?_) fun _ => ?_
  · exact hP e _ he ⟨⟨rfl, rfl, rfl⟩, rfl, .refl _⟩
  refine Spec.get_bind fun e he => ?_
  split
  · split
    · exact Spec.fail fun e' h => ⟨h ▸ he, rfl⟩
    · exact Spec.pure fun e' h => h ▸ he
  · exact Spec.pure fun e' h => h ▸ he

lemma announce_keeps {P : Engine → Prop} (hP : Steady P) (text : String) : Keeps P (announce text) :=
  (announce_spec hP text).weaken (fun _ h => h) (fun _ _ h => h) fun _ _ h => h.1

/-- An action on the vector store; `R` is what the rest of the engine keeps. -/
lemma onVectors_spec {R : Engine → Prop} {pre : VectorStore → Prop} {x : Action VectorStore α}
    {post : α → VectorStore → Prop} {exit : Failure → VectorStore → Prop}
    (hR : ∀ e v, R e → R { e with vectors := v }) (hx : Spec pre x post exit) :
    Spec (fun e => R e ∧ pre e.vectors) (onVectors x) (fun a e => R e ∧ post a e.vectors)
      (fun f e => R e ∧ exit f e.vectors) :=
  Spec.within (fun _ _ => rfl) hR hx

section Quiet

variable {e₀ : Engine}

lemma steady_unmoved : Steady e₀.Unmoved :=
  fun _ _ h h' => h.trans h'

lemma processFile_spec (path root : Path) {exit : Failure → Engine → Prop} :
    Spec e₀.Unmoved (processFile path root)
      (fun es e => es = fileElements e₀ root path ∧ e₀.Unmoved e) exit := by
  unfold processFile
  refine Spec.get_bind fun e he => ?_
  rw [← he.fileElements]
  unfold fileElements
  match hread : e.disk.read path, hrel : path.relativeTo? root with
  | .ok content, some relative =>
    simp only [bind, Except.bind]
    exact Spec.bind Spec.recordAll fun _ => Spec.pure fun e' h => ⟨rfl, h ▸ he⟩
  | .ok content, none =>
    simp only [bind, Except.bind]
    exact Spec.bind Spec.record fun _ => Spec.pure fun e' h => ⟨rfl, h ▸ he⟩
  | .error f, _ =>
    simp only [bind, Except.bind]
    exact Spec.bind Spec.record fun _ => Spec.pure fun e' h => ⟨rfl, h ▸ he⟩

lemma processFiles_spec (root : Path) (total : Nat) (paths : List Path) (count : Nat)
    (found : List Element) {exit : Failure → Engine → Prop} :
    Spec e₀.Unmoved (processFiles root total paths count found)
      (fun es e => es = found ++ paths.flatMap (fileElements e₀ root) ∧ e₀.Unmoved e) exit := by
  induction paths generalizing count found with
  | nil => exact Spec.pure fun _ h => ⟨by simp, h⟩
  | cons path paths ih =>
    unfold processFiles
    refine Spec.bind (processFile_spec path root) fun es => Spec.of_fact fun hes => ?_
    -- A client that does not want to know does not stop the work.
    refine Spec.bind (m := fun _ => e₀.Unmoved) ?_ fun _ => ?_
    · refine Spec.rescue (m := fun f e => e₀.Unmoved e ∧ isInterruption f = false) ?_ ?_ ?_
      · split
        · exact announce_spec steady_unmoved _
        · exact Spec.pure fun _ h => h
      · rintro f hf e ⟨_, hno⟩
        rw [hf] at hno
        cases hno
      · intro f _
        exact Spec.record.weaken (fun _ h => h.1) (fun _ _ h => h) fun _ _ h => h
    · refine (ih (count + 1) (found ++ es)).weaken (fun _ h => h) (fun es' e h => ?_) fun _ _ h => h
      refine ⟨?_, h.2⟩
      rw [h.1, hes, List.flatMap_cons, List.append_assoc]

/-- Extraction finds what there is to be found, and counts the files. -/
theorem extractProject_spec (path : Path) (patterns : List String) :
    Spec e₀.Unmoved (extractProject path patterns)
      (fun r e => (∃ files, discoverFiles path patterns e₀ = .ok files ∧
        r = (files.length, files.flatMap (fileElements e₀ path))) ∧ e₀.Unmoved e)
      (fun _ => e₀.Unmoved) := by
  unfold extractProject
  refine Spec.bind (announce_keeps steady_unmoved _) fun _ => ?_
  refine Spec.get_bind fun e he => ?_
  rw [he.discoverFiles]
  refine Spec.bind (m := fun files e => discoverFiles path patterns e₀ = .ok files ∧ e₀.Unmoved e)
    ?_ fun files => Spec.of_fact fun hok => ?_
  · exact Spec.ofExcept (fun files hok e' h => ⟨hok, h ▸ he⟩) fun _ _ e' h => h ▸ he
  refine Spec.bind (announce_keeps steady_unmoved _) fun _ => ?_
  refine Spec.bind (announce_keeps steady_unmoved _) fun _ => ?_
  refine Spec.bind (processFiles_spec path files.length files 0 []) fun found =>
    Spec.of_fact fun hfound => ?_
  refine Spec.bind (announce_keeps steady_unmoved _) fun _ => Spec.pure fun _ h => ⟨?_, h⟩
  exact ⟨files, hok, by rw [hfound, List.nil_append]⟩

lemma permit_encode_keeps : Keeps e₀.Unmoved (onVectors (VectorStore.permit .encode)) := by
  refine Spec.at_each fun e he => ?_
  have hframe : ∀ (e' : Engine) (v : VectorStore), (e₀.Alike e' ∧ e'.catalog = e₀.catalog) →
      e₀.Alike { e' with vectors := v } ∧ e'.catalog = e₀.catalog :=
    fun _ _ h => ⟨⟨h.1.surroundings, h.1.disk, h.1.loaded⟩, h.2⟩
  refine (onVectors_spec hframe (VectorStore.permit_spec .encode e.vectors)).weaken ?_ ?_ ?_
  · rintro e' rfl
    exact ⟨⟨he.toAlike, he.catalog⟩, rfl⟩
  · rintro _ e' ⟨⟨halike, hcatalog⟩, hvectors⟩
    exact ⟨halike, hcatalog, he.vectors.trans hvectors⟩
  · rintro _ e' ⟨⟨halike, hcatalog⟩, hvectors, _⟩
    exact ⟨halike, hcatalog, hvectors ▸ he.vectors⟩

/-- The vectors of a batch go to the elements that they were made for. -/
lemma assignVectors_encode (model : Model) (es : List Element) :
    assignVectors es (model.encode (es.map summary)) = es.map (withEmbedding model) := by
  rw [assignVectors, Model.encode, List.map_map, List.zipWith_map_right, List.zipWith_self]
  rfl

/-- What holds while elements get their vectors; `inv` may depend on the texts that the model was given. -/
structure KeptByEmbedding (inv : List (List String) → Engine → Prop) (exit : Failure → Engine → Prop) :
    Prop where
  announce : ∀ given text, Spec (inv given) (announce text) (fun _ => inv given) exit
  permit : ∀ given, Spec (inv given) (onVectors (VectorStore.permit .encode)) (fun _ => inv given) exit
  encode : ∀ given texts e, inv given e →
    inv (given ++ [texts]) { e with encoded := e.encoded ++ [texts] }

namespace KeptByEmbedding

variable {inv : List (List String) → Engine → Prop} {exit : Failure → Engine → Prop}
  {given : List (List String)}

lemma embedBatch (h : KeptByEmbedding inv exit) (model : Model) (total : Int) (batch : List Element)
    (number : Nat) :
    Spec (inv given) (embedBatch model total (batch.map summary) batch number)
      (fun es e => es = batch.map (withEmbedding model) ∧ inv (given ++ [batch.map summary]) e) exit := by
  have hencode : Spec (inv given)
      (do
        onVectors (VectorStore.permit .encode)
        Action.modify fun e => { e with encoded := e.encoded ++ [batch.map summary] }
        return assignVectors batch (model.encode (batch.map summary)))
      (fun es e => es = batch.map (withEmbedding model) ∧ inv (given ++ [batch.map summary]) e)
      exit := by
    refine Spec.bind (h.permit given) fun _ => ?_
    refine Spec.bind (m := fun _ => inv (given ++ [batch.map summary]))
      (Spec.modify (h.encode given (batch.map summary))) fun _ => ?_
    exact Spec.pure fun e he => ⟨assignVectors_encode model batch, he⟩
  unfold Engine.embedBatch
  dsimp only
  split
  · exact Spec.bind (h.announce given _) fun _ => hencode
  · exact hencode

lemma embedBatches (h : KeptByEmbedding inv exit) (model : Model) (total : Int) (number : Nat)
    (bs : List (List Element)) :
    Spec (inv given) (embedBatches model total number (bs.map (List.map summary)) bs)
      (fun es e => es = bs.flatten.map (withEmbedding model) ∧
        inv (given ++ bs.map (List.map summary)) e) exit := by
  induction bs generalizing number given with
  | nil =>
    apply Spec.pure
    intro e he
    exact ⟨rfl, by rwa [List.map_nil, List.append_nil]⟩
  | cons batch bs ih =>
    rw [List.map_cons]
    unfold Engine.embedBatches
    refine Spec.bind (h.embedBatch model total batch number) fun done =>
      Spec.of_fact fun hdone => ?_
    refine Spec.bind (ih (number + 1)) fun more => Spec.of_fact fun hmore => ?_
    apply Spec.pure
    intro e he
    rw [List.append_assoc, List.singleton_append] at he
    exact ⟨by rw [hdone, hmore, List.flatten_cons, List.map_append], he⟩

/-- In batches or not, every element gets the vector of its own summary, and the model is given the
summaries batch by batch. -/
theorem embed (h : KeptByEmbedding inv exit) (given : List (List String)) {e : Engine}
    (he : inv given e) {model : Model} (hmodel : e.surroundings.model = some model)
    (hloaded : e.loaded = true) (es : List Element) {size : Int} (hsize : 0 < size) :
    Spec (· = e) (embed es size)
      (fun fs e' => fs = es.map (withEmbedding model) ∧
        inv (given ++ batches size.toNat (es.map summary)) e') exit := by
  unfold Engine.embed
  apply Spec.get_bind
  rintro _ rfl
  rw [hmodel]
  simp only
  rw [if_pos hloaded, if_neg (by omega), if_neg (by omega), batches_map]
  apply (h.embedBatches model _ 1 (batches size.toNat es)).weaken
  · rintro e rfl
    exact he
  · intro fs e' hfs
    rwa [flatten_batches (by omega)] at hfs
  · exact fun _ _ h => h

end KeptByEmbedding

lemma keptByEmbedding_unmoved :
    KeptByEmbedding (fun _ => e₀.Unmoved) (fun _ => e₀.Unmoved) := by
  constructor
  · exact fun _ text => announce_keeps steady_unmoved text
  · exact fun _ => permit_encode_keeps
  · intro _ texts e he
    exact he.trans ⟨⟨rfl, rfl, rfl⟩, rfl, .refl _⟩

lemma embedded_of_loaded {e : Engine} {model : Model} (hmodel : e.surroundings.model = some model)
    (hloaded : e.loaded = true) : e.embedded = withEmbedding model := by
  funext x
  simp [embedded, hmodel, hloaded]

/-- What becomes of elements that are to get their vectors. -/
theorem embed_spec (es : List Element) {size : Int} (hsize : 0 < size) :
    Spec e₀.Unmoved (embed es size) (fun fs e => fs = es.map e₀.embedded ∧ e₀.Unmoved e)
      (fun _ => e₀.Unmoved) := by
  refine Spec.at_each fun e he => ?_
  have hleave : (∀ x, e₀.embedded x = x) → Spec (· = e) (leaveUnembedded es)
      (fun fs e' => fs = es.map e₀.embedded ∧ e₀.Unmoved e') (fun _ => e₀.Unmoved) := by
    intro hid
    refine Spec.bind Spec.record fun _ => Spec.pure fun e' h => ⟨?_, h ▸ he⟩
    rw [funext hid, List.map_id']
  match hmodel : e₀.surroundings.model with
  | none =>
    unfold embed
    apply Spec.get_bind
    rintro _ rfl
    rw [he.surroundings, hmodel]
    exact hleave fun x => by simp [embedded, hmodel]
  | some model =>
    by_cases hloaded : e₀.loaded = true
    · rw [embedded_of_loaded hmodel hloaded]
      exact keptByEmbedding_unmoved.embed [] he (he.surroundings ▸ hmodel) (he.loaded ▸ hloaded) es
        hsize
    · unfold embed
      apply Spec.get_bind
      rintro _ rfl
      rw [he.surroundings, he.loaded, hmodel]
      simp only
      rw [if_neg hloaded]
      exact hleave fun x => by simp [embedded, hmodel, hloaded]

theorem embedProject_spec (found : List Element) :
    Spec e₀.Unmoved (embedProject found)
      (fun es e => es = found.map e₀.embedded ∧ e₀.Unmoved e) (fun _ => e₀.Unmoved) := by
  unfold embedProject
  split
  · rename_i hempty
    rw [List.isEmpty_iff] at hempty
    subst hempty
    exact Spec.pure fun e he => ⟨rfl, he⟩
  · refine Spec.bind (announce_keeps steady_unmoved _) fun _ => ?_
    refine Spec.bind (embed_spec found (by decide)) fun es => Spec.of_fact fun hes => ?_
    exact Spec.bind (announce_keeps steady_unmoved _) fun _ => Spec.pure fun e he => ⟨hes, he⟩

end Quiet

/-! ### Indexing as a whole -/

section Rule

variable {pre m post exit : Engine → Prop} {path : Path} {patterns : List String} {clearFirst : Bool}

/-- What indexing does, by what clearing and storing do. From the states with `pre` clearing leads to
`m`, and from there storing what is found leads to `post`; failures lead to `exit`. The index counts what
is found in between. -/
theorem indexProject_counts
    (hclear : clearFirst = true → Spec pre (clearExisting path) (fun _ => m) (fun _ => exit))
    (hskip : clearFirst = false → ∀ e, pre e → m e)
    (hstore : ∀ e, m e → ∀ found, foundElements path patterns e = .ok found →
      Spec e.Unmoved (storeProject (found.map e.embedded)) (fun _ => post) (fun _ => exit))
    (hmid : ∀ e, m e → exit e) (hpost : ∀ e, post e → exit e) (hsteady : Steady post)
    (hexit : Steady exit) :
    Spec pre (indexProject path patterns clearFirst)
      (fun p e => (∃ e', m e' ∧ e'.Counts path patterns p) ∧ post e) (fun _ => exit) := by
  have hrest : ∀ answer : Nat × List Element → List Element → ProjectIndex,
      (∀ r es, (answer r es).files = r.1 ∧ (answer r es).elements = es.length) → Spec m
      (do
        let r ← extractProject path patterns
        let embedded ← embedProject r.2
        storeProject embedded
        announce "Project indexing completed in 0.00s"
        return answer r embedded)
      (fun p e => (∃ e', m e' ∧ e'.Counts path patterns p) ∧ post e) (fun _ => exit) := by
    intro answer hanswer
    refine Spec.at_each fun e he => ?_
    have hquiet : ∀ (f : Failure) e', e.Unmoved e' → exit e' := fun _ e' => hexit e e' (hmid e he)
    refine Spec.bind ((extractProject_spec path patterns).weaken (fun e' h => h ▸ .refl e)
      (fun _ _ h => h) hquiet) fun r => Spec.of_fact fun ⟨files, hfiles, hr⟩ => ?_
    refine Spec.bind ((embedProject_spec r.2).weaken (fun _ h => h) (fun _ _ h => h) hquiet)
      fun es => Spec.of_fact fun hes => ?_
    subst hes hr
    have hfound : foundElements path patterns e = .ok (files.flatMap (fileElements e path)) := by
      rw [foundElements, hfiles]
      rfl
    refine Spec.bind (hstore e he _ hfound) fun _ => ?_
    refine Spec.bind ((announce_keeps hsteady _).weaken (fun _ h => h) (fun _ _ h => h)
      fun _ => hpost) fun _ => ?_
    refine Spec.pure fun _ h => ⟨⟨e, he, files, hfiles, (hanswer _ _).1, ?_⟩, h⟩
    rw [(hanswer _ _).2, List.length_map]
  unfold indexProject
  refine Spec.rescue (m := fun _ => exit) ?_ (fun _ _ _ h => h) fun f _ => ?_
  · dsimp only
    split
    · rename_i hfirst
      exact Spec.bind (hclear hfirst) fun _ => hrest _ fun _ _ => ⟨rfl, rfl⟩
    · rename_i hfirst
      have hmid' := hskip (by simpa using hfirst)
      exact (hrest _ fun _ _ => ⟨rfl, rfl⟩).weaken hmid' (fun _ _ h => h) fun _ _ h => h
  · refine Spec.bind (announce_keeps hexit _) fun _ => ?_
    exact Spec.bind Spec.record fun _ => Spec.fail fun _ h => h

/-- The same without what is counted. -/
theorem indexProject_rule
    (hclear : clearFirst = true → Spec pre (clearExisting path) (fun _ => m) (fun _ => exit))
    (hskip : clearFirst = false → ∀ e, pre e → m e)
    (hstore : ∀ e, m e → ∀ found, foundElements path patterns e = .ok found →
      Spec e.Unmoved (storeProject (found.map e.embedded)) (fun _ => post) (fun _ => exit))
    (hmid : ∀ e, m e → exit e) (hpost : ∀ e, post e → exit e) (hsteady : Steady post)
    (hexit : Steady exit) :
    Spec pre (indexProject path patterns clearFirst) (fun _ => post) (fun _ => exit) :=
  (indexProject_counts hclear hskip hstore hmid hpost hsteady hexit).weaken (fun _ h => h)
    (fun _ _ h => h.2) fun _ _ h => h

end Rule

end CodeAtlas.Index.Engine
