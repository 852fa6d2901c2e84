import CodeAtlas.Proofs.Batching
import Mathlib.Algebra.Order.Ring.Defs

/-!
# What a semantic search finds

Whatever is stored can be read again: the facts beside a vector have the fields that a search looks for,
and each of them is of the right type. So one entry never spoils the answer for the others. A search
leaves out what is below its threshold, and nothing else; scores fall as distances grow.
-/

namespace CodeAtlas

open CodeAtlas.Action

/-! ### Reading records -/

section Records

variable {fields : Fields} {given out : List (String × Value)} {name : String} {schema : Schema}
  {default : Option Value} {v w : Value}

/-- The fields of a record are read without a problem, and this is what they are. -/
def Fields.Reads (fields : Fields) (given out : List (String × Value)) : Prop :=
  fields.readAll given = out.map .ok

lemma Fields.reads_nil (given : List (String × Value)) : Fields.nil.Reads given [] := rfl

lemma Fields.Reads.cons (hgiven : given.find? (·.1 == name) = some (name, v))
    (hread : schema.read v = .ok w) (h : fields.Reads given out) :
    (Fields.cons name schema default fields).Reads given ((name, w) :: out) := by
  unfold Fields.Reads at h ⊢
  unfold Fields.readAll
  rw [h, hgiven]
  dsimp only
  rw [hread]
  rfl

/-- A field that is not given has its default. -/
lemma Fields.Reads.defaulted (hgiven : given.find? (·.1 == name) = none)
    (h : fields.Reads given out) :
    (Fields.cons name schema (some v) fields).Reads given ((name, v) :: out) := by
  unfold Fields.Reads at h ⊢
  unfold Fields.readAll
  rw [h, hgiven]
  rfl

lemma Reading.gather_map_ok {α : Type} (xs : List α) : Reading.gather (xs.map .ok) = .ok xs := by
  induction xs with
  | nil => rfl
  | cons x xs ih =>
    rw [List.map_cons, Reading.gather, ih]
    rfl

lemma Schema.named?_texts (given : List (String × Value)) :
    Schema.named? (given.map fun f => (.text f.1, f.2)) = some given := by
  induction given with
  | nil => rfl
  | cons f given ih =>
    unfold Schema.named? at ih ⊢
    rw [List.map_cons, List.mapM_cons, ih]
    rfl

/-- A record is read field by field. -/
lemma Schema.read_record (h : fields.Reads given out) :
    (Schema.record false fields).read (.object given) = .ok (.object out) := by
  simp only [Schema.read, Schema.present, Schema.entries?, Schema.named?_texts,
    Bool.false_eq_true, if_false, List.append_nil]
  rw [h, Reading.gather_map_ok]
  rfl

lemma Schema.readAs_eq_ok {record : String} (h : schema.read v = .ok w) :
    schema.readAs record v = .ok w := by
  unfold Schema.readAs
  rw [h]

end Records

/-! ### Reading what was stored -/

namespace Entry

/-- The records of an entry, as they are read from its facts. -/
def locationRecord (e : Entry) : Value :=
  .object [("line_start", .int e.lineStart), ("line_end", .int e.lineEnd), ("column_start", .int 0),
    ("column_end", .int 0)]

def metadataRecord (e : Entry) : Value :=
  .object [("language", .text e.language), ("complexity", .ofOption .int e.complexity),
    ("lines_of_code", .ofOption .int e.linesOfCode), ("author", .ofOption .text e.author),
    ("last_modified", .null)]

def elementRecord (e : Entry) : Value :=
  .object [("id", .text e.id), ("type", .text e.kind.label), ("name", .text e.name),
    ("content", .text e.document), ("file_path", .text e.filePath), ("location", e.locationRecord),
    ("metadata", e.metadataRecord), ("embedding", .null), ("dependencies", .list []),
    ("relationships", .object [])]

lemma read_optional_int (n : Option Int) :
    (Schema.optional .int).read (.ofOption .int n) = .ok (.ofOption .int n) := by
  cases n <;> rfl

lemma read_optional_text (s : Option String) :
    (Schema.optional .text).read (.ofOption .text s) = .ok (.ofOption .text s) := by
  cases s <;> rfl

lemma read_label (kind : ElementKind) :
    (Schema.label (ElementKind.all.map ElementKind.label)).read (.text kind.label) =
      .ok (.text kind.label) := by
  cases kind <;> rfl

lemma read_metadata (e : Entry) :
    Schema.metadata.read (.object [("language", .text e.language),
      ("complexity", .ofOption .int e.complexity), ("lines_of_code", .ofOption .int e.linesOfCode),
      ("author", .ofOption .text e.author)]) = .ok e.metadataRecord :=
  Schema.read_record <| .cons rfl rfl <| .cons rfl (read_optional_int _) <|
    .cons rfl (read_optional_int _) <| .cons rfl (read_optional_text _) <| .defaulted rfl <|
    Fields.reads_nil _

/-- A record that was read is not changed by reading it again. -/
lemma read_metadataRecord (e : Entry) :
    Schema.metadata.read e.metadataRecord = .ok e.metadataRecord :=
  Schema.read_record <| .cons rfl rfl <| .cons rfl (read_optional_int _) <|
    .cons rfl (read_optional_int _) <| .cons rfl (read_optional_text _) <| .cons rfl rfl <|
    Fields.reads_nil _

lemma read_element (e : Entry) :
    Schema.element.read (.object [("id", .text e.id), ("type", .text e.kind.label),
      ("name", .text e.name), ("content", .text e.document), ("file_path", .text e.filePath),
      ("location", e.locationRecord), ("metadata", e.metadataRecord)]) = .ok e.elementRecord :=
  Schema.read_record <| .cons rfl rfl <| .cons rfl (read_label _) <| .cons rfl rfl <|
    .cons rfl rfl <| .cons rfl rfl <| .cons rfl rfl <| .cons rfl (read_metadataRecord e) <|
    .defaulted rfl <| .defaulted rfl <| .defaulted rfl <| Fields.reads_nil _

lemma factOf_facts (e : Entry) :
    SearchResult.factOf e.facts "complexity" = .ofOption .int e.complexity ∧
    SearchResult.factOf e.facts "lines_of_code" = .ofOption .int e.linesOfCode ∧
    SearchResult.factOf e.facts "author" = .ofOption .text e.author := by
  unfold Entry.facts
  cases e.complexity <;> cases e.linesOfCode <;> cases e.author <;> exact ⟨rfl, rfl, rfl⟩

lemma kindOf_label (kind : ElementKind) : SearchResult.kindOf (.text kind.label) = .ok kind := by
  simp only [SearchResult.kindOf, ElementKind.ofLabel?_label]

lemma elementOf_records (e : Entry) :
    SearchResult.elementOf e.elementRecord e.locationRecord e.metadataRecord e.kind = e.toElement := by
  unfold metadataRecord toElement
  cases e.complexity <;> cases e.linesOfCode <;> cases e.author <;> rfl

/-- Whatever is stored can be read again. -/
theorem readElement_facts (e : Entry) :
    SearchResult.readElement (.text e.id) e.facts (.text e.document) = .ok e.toElement := by
  obtain ⟨hcomplexity, hlines, hauthor⟩ := factOf_facts e
  have hlocation : Schema.location.readAs "SourceLocation" (.object [("line_start", .int e.lineStart),
      ("line_end", .int e.lineEnd)]) = .ok e.locationRecord := rfl
  unfold SearchResult.readElement
  rw [hcomplexity, hlines, hauthor]
  have htype : e.facts.entry "type" = .ok (.text e.kind.label) := rfl
  have hname : e.facts.entry "name" = .ok (.text e.name) := rfl
  have hpath : e.facts.entry "file_path" = .ok (.text e.filePath) := rfl
  have hstart : e.facts.entry "line_start" = .ok (.int e.lineStart) := rfl
  have hend : e.facts.entry "line_end" = .ok (.int e.lineEnd) := rfl
  have hlanguage : e.facts.entry "language" = .ok (.text e.language) := rfl
  simp only [htype, hname, hpath, hstart, hend, hlanguage, kindOf_label, hlocation, bind, Except.bind,
    Schema.readAs_eq_ok (read_metadata e), Schema.readAs_eq_ok (read_element e), elementOf_records]
  rfl

end Entry

/-! ### Scores -/

namespace SearchResult

variable {α : Type} [LinearOrder α]

/-- Results that reach a threshold. -/
def reaching (threshold : α) (rs : List (SearchResult α)) : List (SearchResult α) :=
  rs.filter fun r => decide (threshold ≤ r.score)

/-- A higher threshold leaves out more. -/
lemma reaching_reaching {t₁ t₂ : α} (h : t₁ ≤ t₂) (rs : List (SearchResult α)) :
    reaching t₂ (reaching t₁ rs) = reaching t₂ rs := by
  simp only [reaching, List.filter_filter]
  apply List.filter_congr
  intro r _
  by_cases ht : t₂ ≤ r.score
  · simp [ht, h.trans ht]
  · simp [ht]

variable [Ring α]

lemma scoreOf_eq (d : α) : scoreOf d = min (max (1 - d) 0) 1 := by
  have hpositive : (if 0 < 1 - d then 1 - d else 0) = max (1 - d) 0 := by
    split
    · rename_i h
      exact (max_eq_left h.le).symm
    · rename_i h
      exact (max_eq_right (not_lt.mp h)).symm
  simp only [scoreOf, hpositive]
  split
  · rename_i h
    exact (min_eq_left h.le).symm
  · rename_i h
    exact (min_eq_right (not_lt.mp h)).symm

lemma scoreOf_nonneg [IsStrictOrderedRing α] (d : α) : 0 ≤ scoreOf d := by
  rw [scoreOf_eq]
  exact le_min (le_max_right _ _) zero_le_one

lemma scoreOf_le_one (d : α) : scoreOf d ≤ 1 := by
  rw [scoreOf_eq]
  exact min_le_right _ _

lemma scoreOf_anti [IsStrictOrderedRing α] {d d' : α} (h : d ≤ d') : scoreOf d' ≤ scoreOf d := by
  rw [scoreOf_eq, scoreOf_eq]
  exact min_le_min_right 1 (max_le_max_right 0 (sub_le_sub_left h 1))

/-! ### Answers -/

/-- An entry of an answer with its distance, as it is given and as a number. -/
structure Hit (α : Type) where
  entry : Entry
  given : Value
  distance : α

/-- The result for an entry, whatever the threshold is. -/
def Hit.result (h : Hit α) : SearchResult α :=
  ⟨h.entry.toElement, scoreOf h.distance, String.ofList (snippetOf h.entry.document.toList)⟩

/-- The answer of the database that shows these entries. -/
def answerOf (hits : List (Hit α)) : Value :=
  VectorStore.answerOf (hits.map fun h => (h.entry, h.given))

variable {measure : Value → Except Failure α} {hits : List (Hit α)}

lemma item_map {β : Type} {f : β → Value} {xs : List β} {i : Nat} {x : β} (h : xs[i]? = some x) :
    (Value.list (xs.map f)).item i = .ok (f x) := by
  simp [Value.item, h]

lemma item_singleton (column : Value) : (Value.list [column]).item 0 = .ok column := rfl

lemma readResult_answerOf {i : Nat} {h : Hit α} (hi : hits[i]? = some h)
    (hmeasure : measure h.given = .ok h.distance) (threshold : α) :
    readResult measure (answerOf hits) (.text h.entry.id) threshold i =
      .ok (if threshold ≤ h.result.score then some h.result else none) := by
  have hpair : (hits.map fun h => (h.entry, h.given))[i]? = some (h.entry, h.given) := by
    rw [List.getElem?_map, hi, Option.map_some]
  -- Each column of the answer has its item at the position.
  have hdistances : (answerOf hits).entry "distances" = .ok (.list [.list (_ : List Value)]) := rfl
  have hfacts : (answerOf hits).entry "metadatas" = .ok (.list [.list (_ : List Value)]) := rfl
  have hdocuments : (answerOf hits).entry "documents" = .ok (.list [.list (_ : List Value)]) := rfl
  have hread := Entry.readElement_facts h.entry
  have hscore : h.result.score = scoreOf h.distance := rfl
  rw [hscore]
  by_cases ht : threshold ≤ scoreOf h.distance
  · simp only [readResult, hdistances, hfacts, hdocuments, item_singleton, item_map hpair, hmeasure, hread,
      bind, Except.bind, Value.length, ge_iff_le, ht, if_true]
    rfl
  · simp only [readResult, hdistances, item_singleton, item_map hpair, hmeasure, bind, Except.bind, ge_iff_le,
      ht, if_false]
    rfl

lemma filterMapM_map_eq_ok {β γ δ : Type} {f : γ → Except Failure (Option δ)} {k : β → γ}
    {g : β → Option δ} {xs : List β} (h : ∀ x ∈ xs, f (k x) = .ok (g x)) :
    (xs.map k).filterMapM f = .ok (xs.filterMap g) := by
  induction xs with
  | nil => rfl
  | cons x xs ih =>
    obtain ⟨hx, hxs⟩ := List.forall_mem_cons.mp h
    rw [List.map_cons, List.filterMapM_cons, hx, ih hxs, List.filterMap_cons]
    cases g x <;> rfl

lemma filterMap_zipIdx {β γ : Type} (g : β → Option γ) (xs : List β) :
    (xs.zipIdx.filterMap fun x => g x.1) = xs.filterMap g := by
  conv_rhs => rw [← List.zipIdx_map_fst 0 xs, List.filterMap_map]
  rfl

lemma filterMap_result (threshold : α) (hits : List (Hit α)) :
    (hits.filterMap fun h => if threshold ≤ h.result.score then some h.result else none) =
      reaching threshold (hits.map Hit.result) := by
  induction hits with
  | nil => rfl
  | cons h hits ih =>
    rw [reaching, List.filterMap_cons, List.map_cons, List.filter_cons, ih]
    by_cases ht : threshold ≤ h.result.score
    · simp [ht, reaching]
    · simp [ht, reaching]

/-- An answer is read entry by entry; those below the threshold are left out. -/
theorem readAnswer_answerOf (hmeasure : ∀ h ∈ hits, measure h.given = .ok h.distance)
    (threshold : α) :
    readAnswer measure (answerOf hits) threshold = .ok (reaching threshold (hits.map Hit.result)) := by
  have hids : (answerOf hits).entry "ids" =
      .ok (.list [.list (hits.map fun h => .text h.entry.id)]) := by
    simp [answerOf, VectorStore.answerOf, Value.entry, Function.comp_def]
  have htruthy : ∀ column, (Value.list [column]).truthy = true := fun _ => rfl
  have hread : ∀ x ∈ hits.zipIdx,
      readResult measure (answerOf hits) (.text x.1.entry.id) threshold x.2 =
        .ok (if threshold ≤ x.1.result.score then some x.1.result else none) := by
    rintro ⟨h, i⟩ hx
    have hi : hits[i]? = some h := List.mem_zipIdx_iff_getElem?.mp hx
    exact readResult_answerOf hi (hmeasure h (List.mem_of_getElem? hi)) threshold
  by_cases hnil : hits = []
  · subst hnil
    rfl
  · have hshown : (Value.list (hits.map fun h => .text h.entry.id)).truthy = true := by
      simpa [Value.truthy] using hnil
    simp only [readAnswer, hids, item_singleton, htruthy, hshown, Value.eachItem, bind, Except.bind, if_true]
    rw [List.zipIdx_map, ← filterMap_result, ← filterMap_zipIdx]
    exact filterMapM_map_eq_ok (by exact hread)

/-! ### Thresholds -/

/-- A result shows an element as it was stored, with the beginning of its content. -/
structure Shows (r : SearchResult α) (e : Element) : Prop where
  id : r.element.id = e.id
  kind : r.element.kind = e.kind
  name : r.element.name = e.name
  content : r.element.content = e.content
  filePath : r.element.filePath = e.filePath
  lineStart : r.element.location.lineStart = e.location.lineStart
  lineEnd : r.element.location.lineEnd = e.location.lineEnd
  language : r.element.metadata.language = e.metadata.language
  whole : e.content.toList.length ≤ 200 → r.snippet = e.content
  beginning : 200 < e.content.toList.length →
    r.snippet.toList = e.content.toList.take 200 ++ ['.', '.', '.']

lemma Hit.result_shows {h : Hit α} {e : Element} (he : Entry.ofElement e = h.entry) :
    h.result.Shows e := by
  unfold Hit.result
  rw [← he]
  refine ⟨rfl, rfl, rfl, rfl, rfl, rfl, rfl, rfl, fun hshort => ?_, fun hlong => ?_⟩
  · have hsnippet : snippetOf e.content.toList = e.content.toList := if_neg (not_lt.mpr hshort)
    simp only [Entry.ofElement, hsnippet, String.ofList_toList]
  · have hsnippet : snippetOf e.content.toList = e.content.toList.take 200 ++ ['.', '.', '.'] :=
      if_pos hlong
    simp only [Entry.ofElement, hsnippet, String.toList_ofList]

lemma mem_reaching_iff {threshold : α} {r : SearchResult α} :
    r ∈ reaching threshold (hits.map Hit.result) ↔
      (∃ h ∈ hits, h.result = r) ∧ threshold ≤ r.score := by
  simp [reaching]

/-- No score is below zero, so that nothing is left out there. -/
lemma reaching_of_nonpos [IsStrictOrderedRing α] {threshold : α} (h : threshold ≤ 0) :
    reaching threshold (hits.map Hit.result) = hits.map Hit.result := by
  apply List.filter_eq_self.mpr
  intro r hr
  obtain ⟨hit, _, rfl⟩ := List.mem_map.mp hr
  exact decide_eq_true (h.trans (scoreOf_nonneg _))

lemma pairwise_reaching [IsStrictOrderedRing α] (threshold : α)
    (hsorted : hits.Pairwise fun h h' => h.distance ≤ h'.distance) :
    (reaching threshold (hits.map Hit.result)).Pairwise fun r r' => r'.score ≤ r.score := by
  apply List.Pairwise.filter
  rw [List.pairwise_map]
  exact hsorted.imp fun h => scoreOf_anti h

end SearchResult

/-! ### Storing in spite of refusals -/

namespace VectorStore

variable {c : Collection} {v : VectorStore}

/-- A batch is stored as a whole, or not at all. -/
lemma Holds.storeBatch (es : List Element) :
    Spec (·.Holds c) (storeBatch es)
      (fun _ v => v.Holds (c.upsertAll (es.filterMap Entry.ofElement?))) (fun _ v => v.Holds c) := by
  refine storeBatch_rule (P := fun c v => v.Holds c) (fun _ h => h) (Spec.at_each fun v hv => ?_)
    (fun v r f h => ?_) es
  · refine (permit_spec .upsert v).weaken (fun _ h => h) (fun _ _ h => hv.unmoved h) ?_
    rintro _ _ ⟨rfl, _⟩
    exact hv
  · have hnote : (v.note r).Holds c := h
    exact hnote.update f

/-- The elements of the batches that are stored before the first one that fails. -/
def takenFrom : List (List Element) → VectorStore × Log → List Element
  | [], _ => []
  | batch :: rest, s =>
    match storeBatch batch s with
    | (.ok _, s') => batch ++ takenFrom rest s'
    | (.error _, _) => []

/-- The elements that a call stores. -/
def taken (es : List Element) (size : Int) (s : VectorStore × Log) : List Element :=
  if size ≤ 0 then [] else takenFrom (batches size.toNat es) s

lemma forEach_takenFrom (bs : List (List Element)) {s : VectorStore × Log} (h : s.1.Holds c) :
    (Action.forEach VectorStore.storeBatch bs s).2.1.Holds
      (c.upsertAll ((takenFrom bs s).filterMap Entry.ofElement?)) ∧
    ((Action.forEach VectorStore.storeBatch bs s).1 = .ok () → takenFrom bs s = bs.flatten) := by
  induction bs generalizing c s with
  | nil => exact ⟨h, fun _ => rfl⟩
  | cons batch rest ih =>
    have hend := Holds.storeBatch batch s h
    simp only [Action.forEach, bind, andThen, takenFrom]
    cases hrun : VectorStore.storeBatch batch s with
    | mk outcome s' =>
      rw [hrun] at hend
      cases outcome with
      | ok _ =>
        obtain ⟨hholds, hall⟩ := ih hend
        refine ⟨?_, fun hok => ?_⟩
        · rwa [List.filterMap_append, Collection.upsertAll_append]
        · dsimp only at hok ⊢
          rw [hall hok, List.flatten_cons]
      | error f => exact ⟨hend, fun hok => by cases hok⟩

/-- What a call leaves in the store, and that it leaves nothing out if it does not fail. -/
lemma store_taken (es : List Element) (size : Int) {s : VectorStore × Log} (h : s.1.Holds c) :
    (store es size s).2.1.Holds (c.upsertAll ((taken es size s).filterMap Entry.ofElement?)) ∧
    ((store es size s).1 = .ok () → taken es size s = es) := by
  unfold taken
  by_cases hes : es = []
  · subst hes
    rw [batches_nil]
    split <;> exact ⟨h, fun _ => rfl⟩
  · have hempty : es.isEmpty = false := by simpa using hes
    by_cases hsize : size ≤ 0
    · simp only [store, hempty, hsize, if_true, Bool.false_eq_true, if_false]
      split
      · exact ⟨h, fun hok => by cases hok⟩
      · rw [if_pos (by omega)]
        exact ⟨h, fun hok => by cases hok⟩
    · rw [if_neg hsize, store_of_pos hes (by omega)]
      have hforEach := forEach_takenFrom (batches size.toNat es) h
      rwa [flatten_batches (by omega)] at hforEach

/-- A store after some calls: it was opened with an empty collection, and elements were stored there. Calls
may fail, and the database may behave differently each time. -/
inductive Built : List Element → VectorStore → Prop where
  | opened {v : VectorStore} (h : v.Holds []) : Built [] v
  | stored {past : List Element} {v : VectorStore} (h : Built past v) (es : List Element) (size : Int)
      (log : Log) : Built (past ++ taken es size (v, log)) (store es size (v, log)).2.1
  | turned {past : List Element} {v : VectorStore} (h : Built past v) (b : Behaviour) :
      Built past { v with behaviour := b }

/-- The collection has the entries of all that was stored. -/
lemma Built.holds {past : List Element} (h : Built past v) :
    v.Holds (Collection.upsertAll [] (past.filterMap Entry.ofElement?)) := by
  induction h with
  | opened h => exact h
  | stored _ es size log ih =>
    rw [List.filterMap_append, Collection.upsertAll_append]
    exact (store_taken es size ih).1
  | turned _ b ih => exact ih

/-- A call that does not fail stores all elements. -/
lemma Built.stored_all {past es : List Element} {v' : VectorStore} {size : Int} {log log' : Log}
    (h : Built past v) (hstore : store es size (v, log) = (.ok (), (v', log'))) :
    Built (past ++ es) v' := by
  have hall := (store_taken es size (s := (v, log)) h.holds).2 (by rw [hstore])
  have hbuilt := h.stored es size log
  rw [hall, hstore] at hbuilt
  exact hbuilt

/-- Under each identifier is the element that was stored there last. -/
lemma Built.last {past : List Element} (h : Built past v) (hholds : v.Holds c) {entry : Entry}
    (hentry : entry ∈ c) :
    ∃ e, lastWith Element.id entry.id (past.filter (·.isEmbedded)) = some e ∧
      Entry.ofElement e = entry := by
  have hc : c = Collection.upsertAll [] (past.filterMap Entry.ofElement?) :=
    Option.some.inj (hholds.collection?_eq.symm.trans h.holds.collection?_eq)
  have hempty : (([] : Collection).map (·.id)).Nodup := List.nodup_nil
  rw [hc, filterMap_ofElement?, Collection.upsertAll, isUpsert_entries.mem_foldl_iff hempty] at hentry
  obtain hlast | ⟨hnil, _⟩ := hentry
  · have hmap : ∀ es : List Element, lastWith Entry.id entry.id (es.map Entry.ofElement) =
        (lastWith Element.id entry.id es).map Entry.ofElement := lastWith_map (fun _ => rfl) _
    rw [hmap] at hlast
    exact Option.map_eq_some_iff.mp hlast
  · cases hnil

/-! ### Searching -/

open SearchResult (Hit reaching)

variable {α : Type} [Ring α] [LinearOrder α] {measure : Value → Except Failure α} {limit : Int}
  {hits : List (Hit α)} {past : List Element}

/-- The database answers a query with some entries of the collection, the nearest first. -/
structure Retrieves (v : VectorStore) (measure : Value → Except Failure α) (c : Collection)
    (limit : Int) (hits : List (Hit α)) : Prop where
  allowed : v.behaviour.Allows .query 1
  answer : answerTo v.behaviour c limit = SearchResult.answerOf hits
  mem : ∀ h ∈ hits, h.entry ∈ c
  bounded : hits.length ≤ limit
  measured : ∀ h ∈ hits, measure h.given = .ok h.distance
  sorted : hits.Pairwise fun h h' => h.distance ≤ h'.distance

/-- A search finds what reaches its threshold, and nothing goes wrong. -/
lemma Retrieves.searchBy_eq (h : v.Retrieves measure c limit hits) (hholds : v.Holds c)
    (threshold : α) (log : Log) :
    ∃ v', searchBy measure threshold limit (v, log) =
      (.ok (reaching threshold (hits.map Hit.result)), (v', log)) := by
  obtain ⟨v', hpermit⟩ := permit_of_allows h.allowed log
  refine ⟨v', ?_⟩
  have hread := SearchResult.readAnswer_answerOf h.measured threshold
  simp only [searchBy, bind, andThen, Action.get, hholds.collection?_eq, Action.rescue, hpermit,
    h.answer, hread]
  rfl

/-- A search in a collection that was built by storing elements. It gives a result at every threshold, and
the results at one are among those at a lower one: exactly those with such a score. Scores lie between
zero and one and do not grow. Each result shows what was stored last under its identifier. At zero nothing
is left out, so that one entry never spoils the answer for others. -/
theorem search_filters_by_score [IsStrictOrderedRing α] (hbuilt : Built past v) (hholds : v.Holds c)
    (hretrieves : v.Retrieves measure c limit hits) :
    ∃ found : α → List (SearchResult α),
      (∀ t log, ∃ v', searchBy measure t limit (v, log) = (.ok (found t), (v', log))) ∧
      (∀ t, (found t).length ≤ limit) ∧
      (∀ t, ∀ r ∈ found t, t ≤ r.score ∧ 0 ≤ r.score ∧ r.score ≤ 1) ∧
      (∀ t, (found t).Pairwise fun r r' => r'.score ≤ r.score) ∧
      (∀ t₁ t₂, t₁ ≤ t₂ → found t₂ = (found t₁).filter fun r => decide (t₂ ≤ r.score)) ∧
      (∀ t, ∀ r ∈ found t, ∃ e,
        lastWith Element.id r.element.id (past.filter (·.isEmbedded)) = some e ∧ r.Shows e) ∧
      ∀ t ≤ 0, (found t).map (fun r => (r.element.id, r.score)) =
        hits.map fun h => (h.entry.id, min (max (1 - h.distance) 0) 1) := by
  refine ⟨fun t => reaching t (hits.map Hit.result), ?_, ?_, ?_, ?_, ?_, ?_, ?_⟩
  · exact hretrieves.searchBy_eq hholds
  · intro t
    have hlength : (reaching t (hits.map Hit.result)).length ≤ (hits.map Hit.result).length :=
      List.length_filter_le _ _
    rw [List.length_map] at hlength
    exact (Int.ofNat_le.mpr hlength).trans hretrieves.bounded
  · intro t r hr
    obtain ⟨⟨h, _, rfl⟩, ht⟩ := SearchResult.mem_reaching_iff.mp hr
    exact ⟨ht, SearchResult.scoreOf_nonneg _, SearchResult.scoreOf_le_one _⟩
  · exact fun t => SearchResult.pairwise_reaching t hretrieves.sorted
  · exact fun t₁ t₂ h => (SearchResult.reaching_reaching h _).symm
  · intro t r hr
    obtain ⟨⟨h, hh, rfl⟩, _⟩ := SearchResult.mem_reaching_iff.mp hr
    obtain ⟨e, hlast, he⟩ := hbuilt.last hholds (hretrieves.mem h hh)
    exact ⟨e, hlast, Hit.result_shows he⟩
  · intro t ht
    dsimp only
    rw [SearchResult.reaching_of_nonpos ht, List.map_map]
    apply List.map_congr_left
    intro h _
    exact congrArg (Prod.mk h.entry.id) (SearchResult.scoreOf_eq h.distance)

/-- Distances in tenths. -/
def tenths : Value → Except Failure ℚ
  | .int n => .ok (n / 10)
  | v => .error (.noOperator "-" "int" v.typeName)

/-- An element with a content. -/
def written (id content : String) : Element where
  id := id
  kind := .function
  name := "run"
  content := content
  filePath := "a.py"
  location := ⟨1, 2, 0, 0⟩
  metadata := { language := "python" }
  embedding := some [1.0]

/-- What is found after two elements were stored, and one of them again with a new content. -/
def rewrittenHits : List (Hit ℚ) :=
  [⟨Entry.ofElement (written "b" "other"), .int 1, 1 / 10⟩,
    ⟨Entry.ofElement (written "a" "new"), .int 7, 7 / 10⟩]

theorem rewritten_found : ∃ v : VectorStore,
    Built [written "a" "old", written "b" "other", written "a" "new"] v ∧
    ∃ found : ℚ → List (SearchResult ℚ),
      (∀ t log, ∃ v', searchBy tenths t 5 (v, log) = (.ok (found t), (v', log))) ∧
      (found 0).map (fun r => (r.element.id, r.score)) = [("b", 9 / 10), ("a", 3 / 10)] ∧
      found (1 / 2) = (found 0).filter (fun r => decide (1 / 2 ≤ r.score)) ∧
      ∀ r ∈ found 0, r.element.id = "a" → r.element.content = "new" := by
  let opened : VectorStore := { kept := some [], handle := .shared }
  have hopened : opened.Takes [] := ⟨rfl, rfl⟩
  obtain ⟨v₁, hfirst, _⟩ : ∃ v', store [written "a" "old", written "b" "other"] 1 (opened, []) =
      (.ok (), (v', _)) ∧ _ := store_eq hopened (fun _ => le_rfl) []
  have hbuilt₁ := ((Built.opened hopened.holds).stored_all hfirst).turned {}
  obtain ⟨v₂, hsecond, _⟩ : ∃ v', store [written "a" "new"] 1 ({ v₁ with behaviour := {} }, []) =
      (.ok (), (v', _)) ∧ _ := store_eq ⟨hbuilt₁.holds, rfl⟩ (fun _ => le_rfl) []
  let answering : Behaviour := { answer := some (SearchResult.answerOf rewrittenHits) }
  have hbuilt₂ := (hbuilt₁.stored_all hsecond).turned answering
  have hretrieves : Retrieves { v₂ with behaviour := answering } tenths
      [Entry.ofElement (written "a" "new"), Entry.ofElement (written "b" "other")] 5
      rewrittenHits := by
    refine ⟨fun r hr => (by cases hr), rfl, ?_, by decide, ?_, ?_⟩
    · simp [rewrittenHits]
    · simp [rewrittenHits, tenths]
    · norm_num [rewrittenHits]
  have hholds := hbuilt₂.holds
  refine ⟨_, hbuilt₂, ?_⟩
  obtain ⟨found, hrun, _, _, _, hfilter, hlast, hall⟩ :=
    search_filters_by_score hbuilt₂ hholds hretrieves
  refine ⟨found, hrun, ?_, hfilter 0 (1 / 2) (by norm_num), fun r hr hid => ?_⟩
  · rw [hall 0 le_rfl]
    norm_num [rewrittenHits, Entry.ofElement, written]
  · obtain ⟨e, he, hshows⟩ := hlast 0 r hr
    have hnew : lastWith Element.id "a" ([written "a" "old", written "b" "other",
        written "a" "new"].filter (·.isEmbedded)) = some (written "a" "new") := by
      simp [lastWith, written, Element.isEmbedded]
    rw [hid] at he
    obtain rfl : written "a" "new" = e := Option.some.inj (hnew.symm.trans he)
    exact hshows.content

end VectorStore

end CodeAtlas
