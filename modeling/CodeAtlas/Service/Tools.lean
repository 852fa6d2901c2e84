import CodeAtlas.Service.App

/-!
# Tools

The tools that clients of the service can use. Each makes the application ready, tells the client what it
does, and answers with a value.
-/

namespace CodeAtlas.Service

open CodeAtlas.Index CodeAtlas.Text App

/-- The word for a truth value. -/
def flagText (b : Bool) : String :=
  if b then "True" else "False"

/-! ### Indexing -/

/-- The answer for a project that could not be indexed. -/
def notIndexed (status message : String) : Value :=
  .object [("status", .text status), ("message", .text message),
    ("statistics", .object [("total_files", .int 0), ("total_elements", .int 0)])]

/-- The line about an indexed project. -/
def statisticsText (p : Engine.ProjectIndex) : String :=
  let languages := (Value.texts p.languages).written
  s!"Statistics: total_files={integer p.files} total_elements={integer p.elements} " ++
    s!"languages={languages} processing_time=0.0"

/-- Indexes a project; the model is loaded first if it was not. -/
def indexProject (path : String) (patterns : List String) : Action App Value :=
  Action.rescue
    (do
      tell .info "Initializing ContextBrain components..."
      ensureReady
      tell .info s!"Starting indexing of project: {path}"
      if !(← Action.get).engine.loaded then onEngine Engine.loadModel
      let p ← onEngine (Engine.indexProject (Path.ofString path) patterns)
      tell .info "Indexing completed successfully!"
      tell .info (statisticsText p)
      return p.toValue)
    fun
      | .fault .timeout _ => do
        tell .info "Indexing operation timed out after 5 minutes"
        return notIndexed "timeout"
          "Indexing operation timed out but may have partially completed"
      | f => do
        tell .info s!"Indexing failed: {f.message}"
        return notIndexed "error" s!"Indexing failed: {f.message}"

/-! ### Searching -/

/-- Searches for elements with a similar meaning. -/
def searchSemantic (query : String) (threshold : Float) (limit : Int) : Action App Value := do
  ensureReady
  tell .debug s!"Performing semantic search: {query}"
  let results ← onVectors (VectorStore.search threshold limit)
  return .object [
    ("elements", .list (results.map fun r => r.element.toValue)), ("confidence", .float 0.9),
    ("explanation", .text s!"Found {integer results.length} semantically similar results"),
    ("sources", .list []), ("related_queries", .list []), ("context_suggestions", .list [])]

/-- Searches for elements by kind and name. -/
def searchStructural (kind pattern scope : String) : Action App Value := do
  ensureReady
  tell .debug s!"Structural search: {kind} matching {pattern}"
  let found ← askCatalog fun c => c.search kind pattern.toList scope.toList
  return .list (found.map Element.toValue)

/-! ### Analysing -/

/-- Analyses the dependencies of a file. -/
def dependencies (file : String) (depth : Int) (external : Bool) : Action App Value := do
  ensureReady
  tell .debug s!"Analyzing dependencies for: {file}"
  let analysis ← askCatalog fun c => analyzeDependencies c file depth external
  return analysis.toValue

/-- Describes the context of a file. -/
def context (file : String) (size : Int) (withDependencies : Bool) : Action App Value := do
  ensureReady
  tell .debug s!"Getting context for file: {file}"
  let found ← askCatalog fun c => fileContext c file size withDependencies
  return found.toValue

/-- Gives an overview of the architecture. -/
def architecture (focus : Option String) (detail : String) : Action App Value := do
  ensureReady
  let shown := focus.getD "None"
  tell .debug s!"Generating architecture overview: {shown}"
  let found ← askCatalog fun c => overview c (focus.getD "") detail
  return found.toValue

/-! ### Cleaning -/

/-- Whether a row belongs to the project with an absolute path. -/
def isOfProject (target : Path) (r : Row) : Bool :=
  isLike (target.chars ++ ['%']) r.filePath.toList ||
    isLike (Catalog.containing target.name) r.filePath.toList

/-- The files of rows with the number of their rows. -/
def filesAffected (rows : List Row) : Value :=
  .list ((tally (rows.map (·.filePath))).map fun f =>
    .object [("file_path", .text f.1), ("elements", .int f.2)])

/-- Cleans the entries of one project. A dry run only counts them. -/
def cleanProject (project : String) (confirm dryRun : Bool) : Action App Value := do
  ensureReady
  tell .debug (s!"Clean database request: {project} (dry_run={flagText dryRun}, " ++
    s!"confirm={flagText confirm})")
  Action.rescue
    (do
      let engine := (← Action.get).engine
      let target := Path.resolve engine.disk.cwd (Path.ofString project)
      if !confirm && !dryRun then
        return .object [("error", .text "cleanup_not_confirmed"),
          ("message", .text <|
            "Set confirm=True to actually perform cleanup, or use dry_run=True to preview"),
          ("project_path", .text target.toString), ("elements_found", .int 0),
          ("files_affected", .list [])]
      let rows := (← Action.ofExcept engine.catalog.rows).filter (isOfProject target)
      let files := (tally (rows.map (·.filePath))).length
      let found := [("project_path", Value.text target.toString), ("dry_run", .bool dryRun),
        ("confirmed", .bool confirm), ("elements_found", .int rows.length),
        ("files_affected", filesAffected rows), ("files_count", .int files)]
      if dryRun then
        return .object (found ++ [
          ("message", .text <| s!"DRY RUN: Would clean {integer rows.length} elements " ++
            s!"from {integer files} files"),
          ("action", .text "preview_only")])
      else do
        let cleaned ← onEngine (Engine.clearProject target)
        return .object (found ++ [("elements_cleaned", .int cleaned),
          ("message", .text s!"Successfully cleaned {integer cleaned} elements from project"),
          ("action", .text "cleanup_completed")]))
    fun f => do
      tell .error s!"Database cleanup failed: {f.message}"
      return .object [("error", .text "cleanup_failed"), ("message", .text f.message),
        ("project_path", .text project), ("elements_found", .int 0), ("files_affected", .list [])]

/-- Clears the vector store, and tells whether that was possible. -/
def cleanVectors : Action App Bool :=
  Action.rescue
    (do
      let count ← onVectors VectorStore.clear
      tell .info s!"Vector store cleaned successfully - cleared {integer count} elements"
      return true)
    fun f => do
      tell .warning s!"Vector store cleanup warning: {f.message}"
      return false

/-- Takes all rows out of the catalog and tells how many there were. -/
def removeRows : Action App Nat := do
  let (removed, catalog) :=
    (← Action.get).engine.catalog.deleteWhere (fun _ => true) fun _ => false
  Action.modify fun a => { a with engine := { a.engine with catalog := catalog.commit } }
  return removed

/-- Cleans all entries, whatever project they belong to. A dry run only counts them. -/
def cleanAll (project : String) (confirm dryRun : Bool) : Action App Value := do
  ensureReady
  Action.rescue
    (do
      let engine := (← Action.get).engine
      let target := (Path.resolve engine.disk.cwd (Path.ofString project)).toString
      tell .debug (s!"Clean database request: {target}, confirm={flagText confirm}, " ++
        s!"dry_run={flagText dryRun}")
      if !confirm && !dryRun then
        return .object [("status", .text "error"),
          ("message", .text <|
            "Must set confirm=True to perform actual cleanup, or use dry_run=True to preview"),
          ("elements_removed", .int 0), ("files_affected", .int 0)]
      let rows ← Action.ofExcept engine.catalog.rows
      let files := (distinct (rows.map (·.filePath))).length
      if dryRun then do
        tell .info (s!"DRY RUN: Would clean {integer rows.length} elements " ++
          s!"from {integer files} files")
        return .object [("status", .text "dry_run"),
          ("message", .text s!"Would clean all indexed data for project: {target}"),
          ("elements_to_remove", .int rows.length), ("files_to_affect", .int files),
          ("project_path", .text target)]
      else do
        tell .info s!"Cleaning database entries for project: {target}"
        let removed ← removeRows
        let cleaned ← cleanVectors
        let after ← Action.ofExcept (← Action.get).engine.catalog.rows
        tell .info s!"Cleanup completed: {integer removed} elements removed"
        return .object [("status", .text "success"),
          ("message", .text s!"Successfully cleaned database entries for project: {target}"),
          ("elements_removed", .int removed), ("files_affected", .int files),
          ("elements_before", .int rows.length), ("elements_after", .int after.length),
          ("vector_store_cleaned", .bool cleaned), ("project_path", .text target)])
    fun f => do
      Action.record (.err s!"Error cleaning database entries: {f.message}")
      tell .error s!"Database cleanup failed: {f.message}"
      return .object [("status", .text "error"),
        ("message", .text s!"Error cleaning database: {f.message}"),
        ("elements_removed", .int 0), ("files_affected", .int 0)]

end CodeAtlas.Service
