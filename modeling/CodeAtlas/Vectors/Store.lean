import CodeAtlas.Action
import CodeAtlas.Batch
import CodeAtlas.Vectors.Answer
import CodeAtlas.Vectors.Collection

/-!
# The vector store

The store keeps one collection in a vector database. The database may refuse any operation; what it was
asked to do is written down. The store holds on to the collection that it opened, even if the database
forgets it.
-/

namespace CodeAtlas

/-- The operations of the database and of the model that may be refused. -/
inductive Operation where
  | client
  | upsert
  | query
  | count
  | get
  | delete
  | createCollection
  | deleteCollection
  | model
  | encode
  | run
  deriving Repr, DecidableEq, Inhabited

/-- A request that the database carried out. -/
inductive Request where
  | upsert (ids : List String)
  | delete (count : Nat)
  | createCollection (name : String) (metadata : List (String × String))
  | deleteCollection (name : String)
  deriving Repr, DecidableEq, Inhabited

/-- An operation that is refused, after it was carried out as often as `patience` says. -/
structure Refusal where
  operation : Operation
  kind : FaultKind
  text : String
  patience : Nat := 0
  deriving Repr, DecidableEq, Inhabited

/-- How the services behind the store behave: which operations are refused, the distances of the first
entries of an answer, an answer given in place of any other, and the identifiers listed in place of
those that are there. -/
structure Behaviour where
  refusals : List Refusal := []
  distances : List Float := []
  answer : Option Value := none
  ids : Option (List String) := none
  deriving Inhabited

namespace Behaviour

/-- The refusal of an operation, if there is one. -/
def refusal? (b : Behaviour) (op : Operation) : Option Refusal :=
  b.refusals.find? (·.operation == op)

/-- Refuses an operation from now on. -/
def refuse (b : Behaviour) (op : Operation) (kind : FaultKind) (text : String) : Behaviour :=
  { b with refusals := { operation := op, kind := kind, text := text } :: b.refusals }

/-- The behaviour after an operation was carried out once more. -/
def wear (b : Behaviour) (op : Operation) : Behaviour :=
  { b with refusals := b.refusals.map fun r =>
      if r.operation == op then { r with patience := r.patience - 1 } else r }

/-- The distance of the entry at a position of an answer. -/
def distanceAt (b : Behaviour) (i : Nat) : Float :=
  (b.distances[i]?).getD 0.5

end Behaviour

/-- What the store holds on to. -/
inductive Handle where
  | none
  /-- The collection that the database keeps. -/
  | shared
  /-- A collection that the database no longer knows. -/
  | forgotten (c : Collection)
  deriving Inhabited

/-- The name under which the store keeps its collection. -/
def VectorStore.collectionName : String := "contextbrain_elements"

/-- What every new collection is made with: what it is for, and how distances are measured in it. -/
def VectorStore.collectionMetadata : List (String × String) :=
  [("description", "ContextBrain code elements"), ("hnsw:space", "cosine")]

/-- The vector store. -/
structure VectorStore where
  behaviour : Behaviour := {}
  /-- The collection that the database keeps, if there is one. -/
  kept : Option Collection := none
  handle : Handle := .none
  /-- The name of the collection that the store holds on to. -/
  name : String := VectorStore.collectionName
  requests : List Request := []
  deriving Inhabited

namespace VectorStore

/-- The collection that the store works on. -/
def collection? (v : VectorStore) : Option Collection :=
  match v.handle with
  | .none => none
  | .shared => some (v.kept.getD [])
  | .forgotten c => some c

/-- Changes the collection that the store works on. -/
def update (f : Collection → Collection) (v : VectorStore) : VectorStore :=
  match v.handle with
  | .none => v
  | .shared => { v with kept := v.kept.map f }
  | .forgotten c => { v with handle := .forgotten (f c) }

/-- Writes down a request. -/
def note (r : Request) (v : VectorStore) : VectorStore :=
  { v with requests := v.requests ++ [r] }

/-- Fails if the operation is refused. -/
def permit (op : Operation) : Action VectorStore Unit := do
  match (← Action.get).behaviour.refusal? op with
  | none => pure ()
  | some r =>
    if r.patience = 0 then Action.fail (.fault r.kind r.text)
    else Action.modify fun v => { v with behaviour := v.behaviour.wear op }

/-! ### Opening and closing -/

/-- Makes an empty collection with a name, and holds on to it. -/
def createCollection (name : String) : Action VectorStore Unit := do
  permit .createCollection
  Action.modify fun v =>
    { v.note (.createCollection name collectionMetadata) with
      kept := some [], handle := .shared, name := name }

/-- Opens the collection, which is made if it is not there. -/
def init : Action VectorStore Unit :=
  Action.rescue
    (do
      permit .client
      match (← Action.get).kept with
      | some _ => Action.modify fun v => { v with handle := .shared, name := collectionName }
      | none => createCollection collectionName)
    fun f => do
      Action.record (.err s!"Failed to initialize vector store: {f.message}")
      Action.fail f

/-- Lets go of the collection. -/
def close (v : VectorStore) : VectorStore :=
  { v with handle := .none }

/-! ### Storing -/

/-- The event for an element that cannot be stored. -/
def skipped (e : Element) : Event :=
  .warn s!"Element {e.id} has no embedding, skipping"

/-- Stores a batch of elements; those without embedding are skipped. -/
def storeBatch (es : List Element) : Action VectorStore Unit := do
  Action.recordAll ((es.filter fun e => (Entry.ofElement? e).isNone).map skipped)
  let entries := es.filterMap Entry.ofElement?
  if entries.isEmpty then pure ()
  else
    match (← Action.get).collection? with
    | none => Action.fail (.noMember "NoneType" "upsert")
    | some _ => do
      permit .upsert
      Action.modify fun v =>
        (v.note (.upsert (entries.map (·.id)))).update fun c => c.upsertAll entries

/-- Stores elements in batches. -/
def store (es : List Element) (size : Int := 100) : Action VectorStore Unit :=
  if es.isEmpty then pure ()
  else if size = 0 then Action.fail .zeroStep
  else if size < 0 then Action.fail (.unset "total_batches")
  else Action.forEach storeBatch (batches size.toNat es)

/-! ### Searching -/

/-- The answer of the database that shows entries with their distances: lists of identifiers, distances,
facts and texts, side by side. -/
def answerOf (hits : List (Entry × Value)) : Value :=
  .object [("ids", .list [.list (hits.map fun x => .text x.1.id)]),
    ("distances", .list [.list (hits.map fun x => x.2)]),
    ("metadatas", .list [.list (hits.map fun x => x.1.facts)]),
    ("documents", .list [.list (hits.map fun x => .text x.1.document)])]

/-- The first entries of a collection with their distances. -/
def nearest (b : Behaviour) (c : Collection) (limit : Int) : List (Entry × Value) :=
  (leading limit c).zipIdx.map fun (e, i) => (e, .float (b.distanceAt i))

/-- The answer of the database to a query. -/
def answerTo (b : Behaviour) (c : Collection) (limit : Int) : Value :=
  b.answer.getD (answerOf (nearest b c limit))

/-- Searches the collection; `measure` reads a value as a distance. A search that fails finds nothing. -/
def searchBy {α : Type} [OfNat α 0] [OfNat α 1] [Sub α] [LT α] [DecidableLT α] [LE α] [DecidableLE α]
    (measure : Value → Except Failure α) (threshold : α) (limit : Int) :
    Action VectorStore (List (SearchResult α)) := do
  let v ← Action.get
  match v.collection? with
  | none => return []
  | some c =>
    Action.rescue
      (do
        permit .query
        Action.ofExcept (SearchResult.readAnswer measure (answerTo v.behaviour c limit) threshold))
      fun f => do
        Action.record (.err s!"Search failed: {f.message}")
        return []

/-- Searches the collection by floating-point distances. -/
def search (threshold : Float) (limit : Int) : Action VectorStore (List SearchResult) :=
  searchBy Value.distance threshold limit

/-! ### Counting and clearing -/

/-- What is known about the collection. -/
structure Stats where
  count : Nat
  name : String
  error : Option String := none
  deriving Repr, DecidableEq, Inhabited

/-- Counts the entries. -/
def stats : Action VectorStore Stats := do
  match (← Action.get).collection? with
  | none => return ⟨0, "none", none⟩
  | some c =>
    Action.rescue
      (do
        permit .count
        return ⟨c.length, collectionName, none⟩)
      fun f => do
        Action.record (.err s!"Failed to get collection stats: {f.message}")
        return ⟨0, collectionName, some f.message⟩

/-- How many entries are deleted at once. -/
def deleteSize : Nat := 1000

/-- Deletes entries. -/
def deleteBatch (ids : List String) : Action VectorStore Unit := do
  permit .delete
  Action.modify fun v => (v.note (.delete ids.length)).update fun c => c.deleteAll ids

/-- The identifiers that the database lists. -/
def listed (b : Behaviour) (c : Collection) : List String :=
  b.ids.getD (c.map (·.id))

/-- Deletes all entries of the collection, and tells how many were deleted. -/
def clear : Action VectorStore Nat := do
  let v ← Action.get
  match v.collection? with
  | none => do
    Action.record (.warn "No collection to clear")
    return 0
  | some c =>
    Action.rescue
      (do
        permit .count
        if c.isEmpty then return 0
        permit .get
        let ids := listed v.behaviour c
        Action.forEach deleteBatch (batches deleteSize ids)
        return ids.length)
      fun f => do
        Action.record (.err s!"Failed to clear collection: {f.message}")
        Action.fail f

/-- Drops the collection and makes it anew under its name. -/
def recreate : Action VectorStore Unit := do
  let v ← Action.get
  match v.collection? with
  | none => pure ()
  | some c => do
    permit .deleteCollection
    Action.modify fun w =>
      { w.note (.deleteCollection v.name) with kept := none, handle := .forgotten c }
    createCollection v.name

end VectorStore

end CodeAtlas
