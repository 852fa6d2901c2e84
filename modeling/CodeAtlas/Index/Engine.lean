import CodeAtlas.Extract.Registry
import CodeAtlas.Files.Tree
import CodeAtlas.Index.Context
import CodeAtlas.Index.Discovery
import CodeAtlas.Index.Language
import CodeAtlas.Index.Overview
import CodeAtlas.Index.Script
import CodeAtlas.Index.Summary
import CodeAtlas.Vectors.Store

/-!
# The indexing engine

The engine reads the files of a project, extracts their elements, gives each of them an embedding, and
stores them in the catalog and in the vector store. While it works it tells its client how far it is;
the client may refuse to listen, which makes the work fail at that point.
-/

namespace CodeAtlas.Index

open CodeAtlas.Text CodeAtlas.Extract

/-- A message to the client. -/
structure Notice where
  severity : Severity := .info
  text : String
  deriving Repr, DecidableEq, Inhabited

/-- A model that turns texts into vectors. -/
abbrev Model := String → List Float

/-- The vectors of a batch of texts. Each text has its own, whatever else is in the batch. -/
def Model.encode (model : Model) (texts : List String) : List (List Float) :=
  texts.map model

/-- A simple model: the length of a text and a checksum. -/
def checksumModel : Model := fun s =>
  [Float.ofNat s.length, Float.ofNat (s.toList.foldl (fun n c => n + c.toNat) 0 % 97)]

/-- What the engine finds in its surroundings: how elements are made, the extensions that are indexed
with their languages, and the model, if there is one. -/
structure Surroundings where
  options : Options := {}
  extensions : List (String × String) := builtinExtensions
  model : Option Model := none

/-- The engine with all that it works on. -/
structure Engine where
  surroundings : Surroundings := {}
  disk : Disk
  catalog : Catalog := {}
  vectors : VectorStore := {}
  /-- Whether the model was loaded. -/
  loaded : Bool := false
  /-- What the client was told. -/
  notices : List Notice := []
  /-- The client refuses messages that contain this text. -/
  refused : Option String := none
  /-- The texts that the model was given, batch by batch. -/
  encoded : List (List String) := []

namespace Engine

/-- An action on the vector store. -/
def onVectors {α : Type} (x : Action VectorStore α) : Action Engine α :=
  x.within (·.vectors) fun e v => { e with vectors := v }

/-- Opens the catalog. -/
def openCatalog : Action Engine Unit := do
  let e ← Action.get
  match e.catalog.init with
  | .ok c => Action.put { e with catalog := c }
  | .error f => do
    Action.record (.err s!"Failed to initialize structured index: {f.message}")
    Action.fail f

/-- Opens the vector store, then the catalog. -/
def openStores : Action Engine Unit := do
  onVectors VectorStore.init
  openCatalog

/-- Tells the client something. -/
def announce (text : String) : Action Engine Unit := do
  Action.modify fun e => { e with notices := e.notices ++ [{ text := text }] }
  match (← Action.get).refused with
  | some part =>
    if contains part.toList text.toList then Action.fail (.fault .runtime "client gone")
    else pure ()
  | none => pure ()

/-! ### The model -/

/-- The name of the model. -/
def modelName : String := "sentence-transformers/all-MiniLM-L6-v2"

/-- Loads the model. -/
def loadModel : Action Engine Unit :=
  Action.rescue
    (do
      announce "Initializing embedding model..."
      if (← Action.get).surroundings.model.isNone then
        Action.fail (.missingPackage "sentence-transformers")
      announce "Setting up model loading..."
      announce "Loading embedding model in background thread..."
      onVectors (VectorStore.permit .model)
      Action.modify fun e => { e with loaded := true }
      announce "Embedding model loaded successfully")
    fun f => do
      announce s!"Failed to initialize embedding model: {f.message}"
      Action.record (.err s!"Failed to initialize indexing engine: {f.message}")
      Action.fail f

/-- Gives each element the vector at its position. -/
def assignVectors (es : List Element) (vectors : List (List Float)) : List Element :=
  List.zipWith (fun e vector => { e with embedding := some vector }) es vectors

/-- Gives the elements of a batch the vectors of its texts. -/
def embedBatch (model : Model) (total : Int) (texts : List String) (batch : List Element)
    (number : Nat) : Action Engine (List Element) := do
  if 1 < total then
    announce s!"Generating embeddings batch {integer number}/{integer total}..."
  onVectors (VectorStore.permit .encode)
  Action.modify fun e => { e with encoded := e.encoded ++ [texts] }
  return assignVectors batch (model.encode texts)

/-- Goes through the batches of texts and those of elements side by side; the first batch has the given
number. -/
def embedBatches (model : Model) (total : Int) :
    Nat → List (List String) → List (List Element) → Action Engine (List Element)
  | number, texts :: later, batch :: rest => do
    let done ← embedBatch model total texts batch number
    let more ← embedBatches model total (number + 1) later rest
    return done ++ more
  | _, _, _ => pure []

/-- Without a model elements stay as they are. -/
def leaveUnembedded (es : List Element) : Action Engine (List Element) := do
  Action.record (.warn "Embedding model not initialized")
  return es

/-- Gives elements their embeddings in batches. Without a loaded model they get none. -/
def embed (es : List Element) (size : Int := 32) : Action Engine (List Element) := do
  let e ← Action.get
  match e.surroundings.model with
  | some model =>
    if e.loaded then
      if size = 0 then Action.fail .zeroDivision
      else if size < 0 then return es
      else
        let texts := es.map summary
        embedBatches model (((texts.length : Int) + size - 1) / size) 1 (batches size.toNat texts)
          (batches size.toNat es)
    else leaveUnembedded es
  | none => leaveUnembedded es

/-! ### Clearing -/

/-- Whether a row belongs to a project with the given name. -/
def belongsTo (name : List Char) (r : Row) : Bool :=
  isLike (name ++ ['%']) r.filePath.toList

/-- Whether a dependency comes from a project with the given name. -/
def comesFrom (name : List Char) (d : DependencyRow) : Bool :=
  isLike (Catalog.containing name) d.source.toList

/-- Clears the vector store. If that fails, its collection is made anew. -/
def clearVectors : Action Engine Unit :=
  Action.rescue
    (do
      let _ ← onVectors VectorStore.clear)
    fun f => do
      Action.record (.warn s!"Vector store clearing failed: {f.message}")
      Action.rescue (onVectors VectorStore.recreate) fun g =>
        Action.record (.err s!"Vector store fallback recreation failed: {g.message}")

/-- Whether a path is that of the working directory. -/
def isWorkingDirectory (d : Disk) (path : Path) : Bool :=
  Path.resolve d.cwd path == Path.resolve d.cwd (.ofString ".")

/-- The rows and dependencies of a project. The working directory stands for everything. -/
def projectRows (d : Disk) (path : Path) : (Row → Bool) × (DependencyRow → Bool) :=
  if isWorkingDirectory d path then (fun _ => true, fun _ => true)
  else (belongsTo path.name, comesFrom path.name)

/-- Takes the data of a project out of the catalog, and all data out of the vector store; tells how many
elements the catalog has lost. -/
def clearProject (path : Path) : Action Engine Nat :=
  Action.rescue
    (do
      let e ← Action.get
      let rows ← Action.ofExcept e.catalog.rows
      let (element, dependency) := projectRows e.disk path
      Action.modify fun e =>
        { e with catalog := (e.catalog.deleteWhere element dependency).2.commit }
      clearVectors
      return rows.countP element)
    fun f => do
      Action.record (.warn s!"Failed to clear project data: {f.message}")
      return 0

/-! ### Files -/

/-- The elements of a file with a text; `relative` is its path inside the project. -/
def elementsOf (options : Options) (path : Path) (relative : String) (content : List Char) :
    Extraction :=
  let text := String.ofList content
  if path.suffix == ".py".toList then indexScript (some relative) (some text)
  else
    let language := detectLanguage path
    let found := languageElements options language (some relative) (some text)
    if found.elements.isEmpty then
      { found with elements := [fileElement content path.toString relative language] }
    else found

/-- Reads a file and extracts its elements. A file that cannot be read has none. -/
def processFile (path root : Path) : Action Engine (List Element) := do
  let e ← Action.get
  let located : Except Failure (List Char × Path) := do
    let content ← e.disk.read path
    match path.relativeTo? root with
    | some relative => return (content, relative)
    | none => .error (.notBelow path.toString root.toString)
  match located with
  | .ok (content, relative) => do
    let found := elementsOf e.surroundings.options path relative.toString content
    Action.recordAll found.log
    return found.elements
  | .error f => do
    Action.record (.warn s!"Failed to process file {path.toString}: {f.message}")
    return []

/-- The files of a project that are indexed. -/
def discoverFiles (path : Path) (patterns : List String) (e : Engine) : Except Failure (List Path) :=
  discover (e.surroundings.extensions.map (·.1.toList)) (patterns.map String.toList) path
    (e.disk.get? path)

/-- Processes files one after the other, and tells the client after every tenth and after the last one.
Where the client refuses to listen, that is worth a warning. -/
def processFiles (root : Path) (total : Nat) :
    List Path → Nat → List Element → Action Engine (List Element)
  | [], _, found => pure found
  | path :: paths, count, found => do
    let elements ← processFile path root
    let done := count + 1
    Action.rescue
      (if done % 10 = 0 ∨ done = total then
        announce s!"Processed {integer done}/{integer total} files..."
      else pure ())
      fun f => Action.record (.warn s!"Failed to process {path.toString}: {f.message}")
    processFiles root total paths done (found ++ elements)

/-! ### Indexing -/

/-- What is known about an indexed project. -/
structure ProjectIndex where
  path : String
  files : Nat
  elements : Nat
  languages : List String
  deriving Repr, DecidableEq, Inhabited

/-- Stores elements in the catalog. -/
def storeInCatalog (es : List Element) : Action Engine Unit := fun s =>
  match s.1.catalog.store es with
  | (r, c) => (r, ({ s.1 with catalog := c }, s.2))

/-- Clears the data of a project and tells how many elements there were. -/
def clearExisting (path : Path) : Action Engine Unit := do
  announce "Clearing existing project data..."
  let count ← clearProject path
  if 0 < count then announce s!"Cleared {integer count} existing elements"

/-- Finds and processes the files of a project; gives their number and their elements. -/
def extractProject (path : Path) (patterns : List String) : Action Engine (Nat × List Element) := do
  announce "Discovering files..."
  let files ← Action.ofExcept (discoverFiles path patterns (← Action.get))
  announce s!"Found {integer files.length} files to index"
  announce "Processing files and extracting code elements..."
  let found ← processFiles path files.length files 0 []
  announce s!"Extracted {integer found.length} code elements"
  return (files.length, found)

/-- Gives the elements of a project their embeddings. -/
def embedProject (found : List Element) : Action Engine (List Element) := do
  if found.isEmpty then return found
  announce "Generating semantic embeddings..."
  let embedded ← embed found
  announce s!"Generated embeddings for {integer found.length} elements"
  return embedded

/-- Stores the elements of a project. -/
def storeProject (es : List Element) : Action Engine Unit := do
  announce "Storing elements in databases..."
  announce "Storing in structured index..."
  storeInCatalog es
  announce "Storing in vector database..."
  onVectors (VectorStore.store es (min 100 es.length : Nat))

/-- Indexes a project. -/
def indexProject (path : Path) (patterns : List String) (clearFirst : Bool := true) :
    Action Engine ProjectIndex :=
  Action.rescue
    (do
      if clearFirst then clearExisting path
      let (files, found) ← extractProject path patterns
      let embedded ← embedProject found
      storeProject embedded
      announce "Project indexing completed in 0.00s"
      return {
        path := path.toString
        files := files
        elements := embedded.length
        languages := sortOn id (distinct (embedded.map (·.metadata.language))) })
    fun f => do
      announce s!"Project indexing failed: {f.message}"
      Action.record (.err s!"Project indexing failed: {f.message}")
      Action.fail f

end Engine

end CodeAtlas.Index
