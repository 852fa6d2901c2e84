import CodeAtlas.Proofs.Histories
import CodeAtlas.Proofs.Recovery

/-!
# Cleaning up, and previewing it

A clean-up has to be confirmed, and it can be previewed. Every request that is not confirmed, or that
is a dry run, leaves both stores as they are. A dry run counts the rows that a confirmed run would take
away, and the confirmed run takes away just these. Whether the entries of the vector store are gone too
is told by the answer, since the database may refuse to delete them.
-/

namespace CodeAtlas

open CodeAtlas.Action

/-- A catalog that cannot be read does not interrupt anything. -/
lemma Catalog.isInterruption_of_rows {c : Catalog} {f : Failure} (h : c.rows = .error f) :
    isInterruption f = false := by
  unfold Catalog.rows at h
  split at h
  · cases h
    rfl
  · split at h
    · cases h
    · cases h
      rfl

namespace VectorStore

/-- Clearing the collection is refused at most, not interrupted. -/
def Calm (v : VectorStore) : Prop :=
  ∀ op ∈ clearing, ∀ r, v.behaviour.refusal? op = some r → r.kind ≠ .interrupt

lemma Unmoved.collection?_eq {v v' : VectorStore} (h : v.Unmoved v') :
    v'.collection? = v.collection? := by
  simp [collection?, h.handle, h.kept]

lemma holds_of_collection? {v : VectorStore} {c : Collection} (h : v.collection? = some c)
    (hc : c ≠ []) : v.Holds c := by
  unfold collection? at h
  unfold Holds
  cases hhandle : v.handle with
  | none => simp [hhandle] at h
  | forgotten d => simpa [hhandle] using h
  | shared =>
    cases hkept : v.kept with
    | none =>
      simp only [hhandle, hkept, Option.getD_none, Option.some.injEq] at h
      exact absurd h.symm hc
    | some d => simpa [hhandle, hkept] using h

/-- Clearing that gives a result leaves no entry, if the database lists all that there are. -/
lemma clear_empties : Spec (·.behaviour.ids = none) clear
    (fun _ v => ∀ c, v.collection? = some c → c = []) (fun _ _ => True) := by
  refine Spec.at_each fun v hlists => ?_
  by_cases hentries : ∃ c, v.collection? = some c ∧ c ≠ []
  · obtain ⟨c, hcollection, hc⟩ := hentries
    have hserves : Serves [] c v :=
      ⟨holds_of_collection? hcollection hc, hlists, List.forall_mem_nil _⟩
    refine Serves.clear.weaken (fun _ h => h ▸ hserves) ?_ fun _ _ _ => trivial
    rintro _ w ⟨hempty, _⟩ d hd
    rw [hempty.holds.collection?_eq] at hd
    exact (Option.some.inj hd).symm
  · -- Where there is nothing to delete, the collection is not touched.
    have hnothing : ∀ w, v.Unmoved w → ∀ c, w.collection? = some c → c = [] := by
      intro w hw c hc
      by_contra hne
      exact hentries ⟨c, hw.collection?_eq ▸ hc, hne⟩
    unfold clear
    refine Spec.get_bind fun w hw => ?_
    subst hw
    cases hcollection : w.collection? with
    | none =>
      refine Spec.bind Spec.record fun _ => Spec.pure ?_
      rintro _ rfl
      exact hnothing _ (Unmoved.refl _)
    | some c =>
      obtain rfl := hnothing w (Unmoved.refl w) c hcollection
      refine Spec.rescue (m := fun _ _ => True) ?_ (fun _ _ _ h => h) fun f _ =>
        Spec.bind Spec.record fun _ => Spec.fail fun _ h => h
      refine Spec.bind ((permit_spec .count w).weaken (fun _ h => h) (fun _ _ h => h)
        fun _ _ _ => trivial) fun _ => Spec.pure ?_
      exact hnothing

/-- What the outcome of clearing tells. -/
lemma clear_tells (v : VectorStore) : Spec (· = v) clear
    (fun _ w => v.behaviour.ids = none → (∀ c, w.collection? = some c → c = []) ∧
      ∀ c, v.Holds c → v.behaviour.Suffices (callsToClear c))
    (fun f _ => (v.Calm → isInterruption f = false) ∧ (v.behaviour.ids = none →
      ∀ c, v.Holds c → ¬ v.behaviour.Suffices (callsToClear c))) := by
  rintro ⟨w, log⟩ hw
  obtain rfl : w = v := hw
  cases hrun : clear (w, log) with
  | mk outcome s =>
    cases outcome with
    | ok n =>
      intro hlists
      refine ⟨clear_empties.result hlists hrun, fun c hholds => ?_⟩
      exact (clear_suffices hholds hlists).result rfl hrun
    | error f =>
      refine ⟨fun hcalm => ?_, fun hlists c hholds => ?_⟩
      · have huntroubled : Untroubled w.name w := ⟨rfl, hcalm⟩
        exact (Untroubled.clear.failure huntroubled hrun).1
      · exact (clear_suffices hholds hlists).failure rfl hrun

end VectorStore

namespace Service

open CodeAtlas.Index App

variable {e₀ : Engine} {C : Catalog → Prop} {V : VectorStore → Prop} {catalog : Catalog}
  {rows : List Row} {confirm dryRun : Bool}

/-- Telling the client something touches neither store. -/
lemma tell_holding (severity : Severity) (text : String) {exit : Failure → App → Prop} :
    Spec (ReadyWith (e₀.Holding C V)) (tell severity text)
      (fun _ => ReadyWith (e₀.Holding C V)) exit := by
  refine Spec.modify fun a ha => ⟨ha.1, ?_⟩
  obtain ⟨halike, hcatalog, hvectors⟩ := ha.2
  exact ⟨⟨halike.surroundings, halike.disk, halike.loaded⟩, hcatalog, hvectors⟩

lemma tell_at (severity : Severity) (text : String) {a : App} (ha : ReadyWith (e₀.Holding C V) a)
    {exit : Failure → App → Prop} :
    Spec (· = a) (tell severity text) (fun _ => ReadyWith (e₀.Holding C V)) exit :=
  (tell_holding severity text).weaken (fun _ h => h ▸ ha) (fun _ _ h => h) fun _ _ h => h

/-! ### Requests that change nothing -/

/-- What the answer to a request tells that changes nothing: that the catalog cannot be read, or how much
would be taken away. -/
structure Reports (found : Except Failure (List Row)) (dryRun : Bool) (answer : Value) : Prop where
  failed : ∀ f, found = .error f → answer.field? "status" = some (.text "error")
  elements : ∀ rows, found = .ok rows → dryRun = true →
    answer.field? "elements_to_remove" = some (.int rows.length)
  files : ∀ rows, found = .ok rows → dryRun = true →
    answer.field? "files_to_affect" = some (.int (distinct (rows.map (·.filePath))).length)

/-- A request changes nothing if it is not confirmed, if it is a dry run, or if the catalog cannot be
read. -/
lemma cleanAll_harmless (project : String)
    (h : confirm = false ∨ dryRun = true ∨ ∃ f, catalog.rows = .error f) :
    Spec (ReadyWith (e₀.Holding (· = catalog) V)) (cleanAll project confirm dryRun)
      (fun answer a => Reports catalog.rows dryRun answer ∧ ReadyWith (e₀.Holding (· = catalog) V) a)
      (fun _ _ => False) := by
  unfold cleanAll
  refine Spec.bind ensureReady_spec fun _ => ?_
  refine Spec.rescue (m := fun f a => catalog.rows = .error f ∧
    ReadyWith (e₀.Holding (· = catalog) V) a) ?_ ?_ fun f _ => ?_
  · refine Spec.get_bind fun a ha => ?_
    dsimp only
    rw [ha.2.catalog]
    refine Spec.bind (tell_at _ _ ha) fun _ => ?_
    by_cases hrefused : (!confirm && !dryRun) = true
    · rw [if_pos hrefused]
      simp only [Bool.and_eq_true, Bool.not_eq_true'] at hrefused
      refine Spec.pure fun a ha => ⟨⟨?_, ?_, ?_⟩, ha⟩
      · simp [Value.field?]
      · simp [hrefused.2]
      · simp [hrefused.2]
    · rw [if_neg hrefused]
      refine Spec.bind (m := fun found a => catalog.rows = .ok found ∧
        ReadyWith (e₀.Holding (· = catalog) V) a)
        (Spec.ofExcept (fun _ hfound _ ha => ⟨hfound, ha⟩) fun _ hfound _ ha => ⟨hfound, ha⟩)
        fun found => Spec.of_fact fun hfound => ?_
      have hdry : dryRun = true := by
        rcases h with rfl | hdry | ⟨f, hf⟩
        · simpa using hrefused
        · exact hdry
        · simp [hfound] at hf
      rw [if_pos hdry]
      refine Spec.bind (tell_holding _ _) fun _ => Spec.pure fun a ha => ⟨⟨?_, ?_, ?_⟩, ha⟩
      · simp [hfound]
      · simp [hfound, Value.field?]
      · simp [hfound, Value.field?]
  · rintro f hf a ⟨hrows, _⟩
    rw [Catalog.isInterruption_of_rows hrows] at hf
    cases hf
  · refine Spec.of_fact fun hrows => ?_
    refine Spec.bind Spec.record fun _ => Spec.bind (tell_holding _ _) fun _ => ?_
    refine Spec.pure fun a ha => ⟨⟨?_, ?_, ?_⟩, ha⟩
    · simp [Value.field?]
    · simp [hrows]
    · simp [hrows]

/-! ### Confirmed requests -/

/-- As many rows are taken away as there are. -/
lemma removeRows_holding (hrows : catalog.rows = .ok rows) {exit : Failure → App → Prop} :
    Spec (ReadyWith (e₀.Holding (· = catalog) V)) removeRows
      (fun removed a => removed = rows.length ∧ ReadyWith (e₀.Holding (·.rows = .ok []) V) a) exit := by
  refine removeRows_rule fun a ha => ?_
  obtain ⟨hready, halike, rfl, hvectors⟩ := ha
  refine ⟨?_, hready, ⟨halike.surroundings, halike.disk, halike.loaded⟩, ?_, hvectors⟩
  · simpa using Catalog.count_deleteWhere hrows (fun _ => true) fun _ => false
  · simpa using Catalog.rows_deleteWhere hrows (fun _ => true) fun _ => false

/-- What clearing the vector store does is told by the result. -/
lemma cleanVectors_rule {post : Nat → VectorStore → Prop} {exit : Failure → VectorStore → Prop}
    (h : Spec V VectorStore.clear post exit) :
    Spec (ReadyWith (e₀.Holding C V)) cleanVectors
      (fun cleaned => ReadyWith (e₀.Holding C fun v =>
        if cleaned then ∃ n, post n v else ∃ f, exit f v))
      (fun f a => isInterruption f = true ∧ ReadyWith (e₀.Holding C (exit f)) a) := by
  unfold cleanVectors
  refine Spec.rescue (m := fun f => ReadyWith (e₀.Holding C (exit f))) ?_ (fun _ hf _ ha => ⟨hf, ha⟩)
    fun f _ => ?_
  · refine Spec.bind (onEngine_spec (Engine.onVectors_holding h)) fun n => ?_
    refine Spec.bind (tell_holding _ _) fun _ => Spec.pure fun a ha => ?_
    exact ⟨ha.1, ha.2.mono (fun _ h => h) fun _ hv => ⟨n, hv⟩⟩
  · refine Spec.bind (tell_holding _ _) fun _ => Spec.pure fun a ha => ?_
    exact ⟨ha.1, ha.2.mono (fun _ h => h) fun _ hv => ⟨f, hv⟩⟩

/-- What the answer to a confirmed request tells: what was taken away, that no row is left, and whether
the vector store was cleared. -/
structure Confirms (rows : List Row) (cleaned : Bool) (answer : Value) : Prop where
  elements : answer.field? "elements_removed" = some (.int rows.length)
  files : answer.field? "files_affected" =
    some (.int (distinct (rows.map (·.filePath))).length)
  after : answer.field? "elements_after" = some (.int 0)
  vectors : answer.field? "vector_store_cleaned" = some (.bool cleaned)

/-- A confirmed request takes all rows away, and then does to the vector store what clearing does. -/
lemma cleanAll_confirmed (project : String) (hrows : catalog.rows = .ok rows)
    {post : Nat → VectorStore → Prop} {exit : Failure → VectorStore → Prop}
    (h : Spec V VectorStore.clear post exit) :
    Spec (ReadyWith (e₀.Holding (· = catalog) V)) (cleanAll project true false)
      (fun answer a => ∃ cleaned, Confirms rows cleaned answer ∧
        ReadyWith (e₀.Holding (·.rows = .ok []) fun v =>
          if cleaned then ∃ n, post n v else ∃ f, exit f v) a)
      (fun f a => isInterruption f = true ∧
        ReadyWith (e₀.Holding (·.rows = .ok []) (exit f)) a) := by
  unfold cleanAll
  refine Spec.bind ensureReady_spec fun _ => ?_
  refine Spec.rescue (m := fun f a => isInterruption f = true ∧
    ReadyWith (e₀.Holding (·.rows = .ok []) (exit f)) a) ?_ (fun _ _ _ ha => ha) fun f hf => ?_
  · refine Spec.get_bind fun a ha => ?_
    dsimp only
    rw [ha.2.catalog, hrows, if_neg (by simp)]
    refine Spec.bind (tell_at _ _ ha) fun _ => ?_
    refine Spec.bind (m := fun found a => found = rows ∧ ReadyWith (e₀.Holding (· = catalog) V) a)
      (Spec.pure fun _ ha => ⟨rfl, ha⟩) fun found => Spec.of_fact fun hfound => ?_
    subst hfound
    rw [if_neg (by simp)]
    refine Spec.bind (tell_holding _ _) fun _ => ?_
    refine Spec.bind (removeRows_holding hrows) fun removed => Spec.of_fact fun hremoved => ?_
    subst hremoved
    refine Spec.bind (cleanVectors_rule h) fun cleaned => Spec.get_bind fun a ha => ?_
    rw [ha.2.catalog]
    refine Spec.bind (m := fun after a' => after = [] ∧ a' = a) (Spec.pure fun _ ha => ⟨rfl, ha⟩)
      fun after => Spec.of_fact fun hafter => ?_
    subst hafter
    refine Spec.bind (tell_at _ _ ha) fun _ => Spec.pure fun a ha => ⟨cleaned, ?_, ha⟩
    constructor <;> simp [Value.field?]
  · intro s hs
    rw [hs.1] at hf
    cases hf

/-- The answer to a confirmed request tells what was done to the vector store. There is one unless the
database interrupts the request. -/
lemma cleanAll_tells {e : Engine} (project : String) (hrows : e.catalog.rows = .ok rows) :
    Spec (ReadyWith (e.Holding (· = e.catalog) (· = e.vectors))) (cleanAll project true false)
      (fun answer a => ∃ cleaned, Confirms rows cleaned answer ∧
        (e.vectors.behaviour.ids = none →
          (cleaned = true → ∀ c, a.engine.vectors.collection? = some c → c = []) ∧
          ∀ c, e.vectors.Holds c →
            (cleaned = true ↔ e.vectors.behaviour.Suffices (VectorStore.callsToClear c))))
      (fun _ _ => ¬ e.vectors.Calm) := by
  have hspec : Spec (ReadyWith (e.Holding (· = e.catalog) (· = e.vectors)))
      (cleanAll project true false) _ _ :=
    cleanAll_confirmed project hrows (VectorStore.clear_tells e.vectors)
  refine hspec.weaken (fun _ h => h) ?_ ?_
  · rintro answer a ⟨cleaned, hconfirms, _, hholding⟩
    refine ⟨cleaned, hconfirms, fun hlists => ?_⟩
    have hvectors := hholding.vectors
    cases cleaned with
    | true =>
      obtain ⟨n, hcleared⟩ := hvectors
      obtain ⟨hempty, hsuffices⟩ := hcleared hlists
      exact ⟨fun _ => hempty, fun c hc => iff_of_true rfl (hsuffices c hc)⟩
    | false =>
      obtain ⟨f, _, hrefused⟩ := hvectors
      refine ⟨?_, fun c hc => iff_of_false ?_ (hrefused hlists c hc)⟩
      · intro h
        cases h
      · simp
  · rintro f a ⟨hf, _, hholding⟩ hcalm
    have hnot := hholding.vectors.1 hcalm
    rw [hf] at hnot
    cases hnot

/-- Cleaning up can be previewed. A request that is not confirmed, a dry run, and a request while the
catalog cannot be read give an answer and leave both stores as they are. A dry run counts the rows and
their files. A confirmed request takes all rows away, and its answer tells the same counts; there is one
unless the database interrupts the request. Let the database list what is there. Then no entry is left,
however many there were, if the answer tells that the vector store was cleared; and it tells so exactly
if no operation is refused too early. -/
theorem cleaning_is_previewed {a : App} (hready : a.ready = true) (project : String) (log : Log) :
    (∀ confirm dryRun,
      confirm = false ∨ dryRun = true ∨ (∃ f, a.engine.catalog.rows = .error f) →
      ∃ answer a' log', cleanAll project confirm dryRun (a, log) = (.ok answer, (a', log')) ∧
        a'.engine.catalog = a.engine.catalog ∧ a'.engine.vectors = a.engine.vectors ∧
        Reports a.engine.catalog.rows dryRun answer) ∧
    ∀ rows, a.engine.catalog.rows = .ok rows →
      (cleanAll project true false (a, log)).2.1.engine.catalog.rows = .ok [] ∧
      (a.engine.vectors.Calm → ∃ answer s, cleanAll project true false (a, log) = (.ok answer, s)) ∧
      ∀ answer a' log', cleanAll project true false (a, log) = (.ok answer, (a', log')) →
        ∃ cleaned, Confirms rows cleaned answer ∧
          (a.engine.vectors.behaviour.ids = none →
            (cleaned = true → ∀ c, a'.engine.vectors.collection? = some c → c = []) ∧
            ∀ c, a.engine.vectors.Holds c → (cleaned = true ↔
              a.engine.vectors.behaviour.Suffices (VectorStore.callsToClear c))) := by
  have hstart : ReadyWith (a.engine.Holding (· = a.engine.catalog) (· = a.engine.vectors)) a :=
    ⟨hready, ⟨rfl, rfl, rfl⟩, rfl, rfl⟩
  refine ⟨fun confirm dryRun h => ?_, fun rows hrows => ⟨?_, ?_, ?_⟩⟩
  · obtain ⟨answer, ⟨a', log'⟩, hrun, hreports, _, hholding⟩ :=
      (cleanAll_harmless project h).exists_result (s := (a, log)) hstart
    exact ⟨answer, a', log', hrun, hholding.catalog, hholding.vectors, hreports⟩
  · have hspec : Spec (ReadyWith (a.engine.Holding (· = a.engine.catalog) fun _ => True))
        (cleanAll project true false) _ _ := cleanAll_confirmed project hrows Spec.trivial
    have hgone := hspec.weaken (fun _ h => h) (fun _ _ h => h.choose_spec.2.2.catalog)
      fun _ _ h => h.2.2.catalog
    exact hgone.state (s := (a, log)) ⟨hready, ⟨rfl, rfl, rfl⟩, rfl, trivial⟩
  · intro hcalm
    match hrun : cleanAll project true false (a, log) with
    | (.ok answer, s) => exact ⟨answer, s, rfl⟩
    | (.error f, s) => exact absurd hcalm ((cleanAll_tells project hrows).failure hstart hrun)
  · intro answer a' log' hrun
    exact (cleanAll_tells project hrows).result hstart hrun

/-- An application with three rows of two files, and with more entries than are deleted at once. -/
def fullStores : App where
  engine := {
    disk := ⟨.folder .nil, ⟨['/'], []⟩⟩
    catalog := { tables := some {
      elements := some [⟨"a", .module, "a", "", "a.py", 1, 1, "", none, none, none⟩,
        ⟨"b", .module, "b", "", "b.py", 1, 1, "", none, none, none⟩,
        ⟨"f", .function, "f", "", "b.py", 3, 4, "", none, none, none⟩] } }
    vectors := {
      kept := some ((List.range 2500).map fun i =>
        ⟨toString i, [], "", .module, "b", "b.py", "", 1, 1, none, none, none⟩)
      handle := .shared } }
  ready := true

theorem fullStores_cleaned : fullStores.ready = true ∧
    (∃ answer a' log', cleanAll "." false true (fullStores, []) = (.ok answer, (a', log')) ∧
      answer.field? "elements_to_remove" = some (.int 3) ∧
      answer.field? "files_to_affect" = some (.int 2) ∧
      a'.engine.vectors = fullStores.engine.vectors) ∧
    ∃ answer a' log', cleanAll "." true false (fullStores, []) = (.ok answer, (a', log')) ∧
      answer.field? "elements_removed" = some (.int 3) ∧
      answer.field? "files_affected" = some (.int 2) ∧
      answer.field? "elements_after" = some (.int 0) ∧
      answer.field? "vector_store_cleaned" = some (.bool true) ∧
      ∀ c, a'.engine.vectors.collection? = some c → c = [] := by
  obtain ⟨hharmless, hconfirmed⟩ := cleaning_is_previewed (a := fullStores) rfl "." []
  obtain ⟨answer, a', log', hrun, _, hsame, hreports⟩ := hharmless false true (Or.inl rfl)
  obtain ⟨_, hanswered, htells⟩ := hconfirmed _ rfl
  have hcalm : fullStores.engine.vectors.Calm := by
    intro op _ r hr
    cases hr
  obtain ⟨done, ⟨b, blog⟩, hdone⟩ := hanswered hcalm
  obtain ⟨cleaned, hconfirms, hvectors⟩ := htells done b blog hdone
  obtain ⟨hempty, hiff⟩ := hvectors rfl
  have hall : cleaned = true := (hiff _ rfl).mpr fun op r hr => by cases hr
  subst hall
  refine ⟨rfl, ⟨answer, a', log', hrun, hreports.elements _ rfl rfl, ?_, hsame⟩, done, b, blog, hdone,
    hconfirms.elements, ?_, hconfirms.after, hconfirms.vectors, hempty rfl⟩
  · exact hreports.files _ rfl rfl
  · exact hconfirms.files

end Service

end CodeAtlas
