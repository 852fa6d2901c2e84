import CodeAtlas.Command.Reader
import CodeAtlas.Decimal.Round
import CodeAtlas.Service.Server

/-!
# Running commands

A command does its work on the shell that it was called from, and ends with an exit code. What it has to
say goes to the log, as far as the level of the log lets it through; only help pages and errors of usage
are printed.
-/

namespace CodeAtlas.Command

open CodeAtlas.Index CodeAtlas.Service CodeAtlas.Text

/-- How much a severity weighs. -/
def weight : Severity → Nat
  | .debug => 10
  | .info => 20
  | .warning => 30
  | .error => 40

/-- A shell: the engine, the level of the log and whether it is shown on the console, the servers that
were started, and what was printed. -/
structure Shell where
  engine : Engine
  level : Severity := .info
  console : Bool := true
  runs : List ServerRun := []
  output : String := ""

namespace Shell

variable {α : Type}

/-- An action of the engine. -/
def onEngine (x : Action Engine α) : Action Shell α :=
  x.within (·.engine) fun s e => { s with engine := e }

/-- Says something, if it weighs enough. -/
def say (severity : Severity) (text : String) : Action Shell Unit := do
  if weight (← Action.get).level ≤ weight severity then Action.record ⟨severity, text⟩ else pure ()

/-- Prints a text. -/
def print (text : String) : Action Shell Unit :=
  Action.modify fun s => { s with output := s.output ++ text }

/-- Keeps the console free for the messages of a server. -/
def quiet : Action Shell Unit :=
  Action.modify fun s => { s with level := .warning, console := false }

end Shell

open Shell

/-! ### The commands -/

/-- A command with its values. The options of `index` say nothing that matters to it. -/
inductive Invocation where
  | index (project : Path)
  | search (query : String) (threshold : Float) (limit : Int)
  | serve (transport host : String) (port : Int) (mountPath : String)
  | status
  | watch (project : Path)
  deriving Inhabited

/-- The value for a key. -/
def Bindings.find? (b : Bindings) (key : String) : Option Value :=
  (List.find? (·.1 == key) b).map (·.2)

/-- The text for a key. -/
def Bindings.text (b : Bindings) (key default : String) : String :=
  ((b.find? key).bind Value.text?).getD default

/-- The number for a key. -/
def Bindings.int (b : Bindings) (key : String) (default : Int) : Int :=
  match b.find? key with
  | some (.int n) => n
  | _ => default

/-- The floating-point number for a key. -/
def Bindings.float (b : Bindings) (key : String) (default : Float) : Float :=
  match b.find? key with
  | some (.float x) => x
  | _ => default

/-- The command with a name. -/
def Invocation.ofBindings (name : String) (b : Bindings) : Invocation :=
  match name with
  | "index" => .index (.ofString (b.text "project" ""))
  | "search" => .search (b.text "query" "") (b.float "threshold" 0.7) (b.int "limit" 10)
  | "serve" =>
    .serve (b.text "transport" "stdio") (b.text "host" "127.0.0.1") (b.int "port" 8000)
      (b.text "mount_path" "/mcp")
  | "watch" => .watch (.ofString (b.text "project" ""))
  | _ => .status

/-- Ends with the exit code 0, or says what failed and ends with 1. -/
def orElse (activity : String) (x : Action Shell Unit) : Action Shell Nat :=
  Action.rescue
    (do
      x
      return 0)
    fun f => do
      say .error s!"{activity} failed: {f.message}"
      return 1

/-- Opens the stores and loads the model. -/
def prepareEngine : Action Engine Unit := do
  Engine.openStores
  Engine.loadModel

/-- Indexes a project. The summary breaks off where it comes to the languages, which the record of a
project does not list. -/
def runIndex (project : Path) : Action Shell Nat := do
  say .info s!"Indexing project: {project.toString}"
  orElse "Indexing" do
    onEngine prepareEngine
    let p ← onEngine (Engine.indexProject project [])
    say .info "Indexing completed:"
    say .info s!"  - Files indexed: {integer p.files}"
    say .info s!"  - Elements extracted: {integer p.elements}"
    Action.fail (.noMember "ProjectIndex" "languages")

/-- Says what a result of a search is. -/
def sayResult (r : SearchResult × Nat) : Action Shell Unit := do
  let (result, i) := r
  say .info s!"{integer (i + 1)}. {result.element.name} ({result.element.kind.label})"
  say .info s!"   File: {result.element.filePath}"
  say .info s!"   Score: {Decimal.threePlaces result.score}"
  say .info s!"   Snippet: {result.snippet}"
  say .info ""

/-- Searches for elements. -/
def runSearch (query : String) (threshold : Float) (limit : Int) : Action Shell Nat := do
  say .info s!"Searching for: {query}"
  orElse "Search" do
    onEngine (Engine.onVectors VectorStore.init)
    let results ← onEngine (Engine.onVectors (VectorStore.search threshold limit))
    if results.isEmpty then say .info "No results found"
    else do
      say .info s!"Found {integer results.length} results:"
      Action.forEach sayResult results.zipIdx

/-- Starts a server; that it was started is known even if it fails. -/
def startServer (r : ServerRun) : Action Shell Unit := do
  Action.modify fun s => { s with runs := s.runs ++ [r] }
  onEngine (Engine.onVectors (VectorStore.permit .run))

/-- Runs a server until it ends or is interrupted. -/
def runServe (transport host : String) (port : Int) (mountPath : String) : Action Shell Nat := do
  let overStreams := transport = "stdio"
  if overStreams then quiet
  say .info s!"Starting ContextBrain server with {transport} transport"
  let server : Server := { host := host, port := port }
  let run := server.run transport (if overStreams then none else some mountPath)
  match ← Action.attempt (startServer run) with
  | .ok _ => return 0
  | .error (.fault .interrupt _) => do
    say .info "Server stopped by user"
    return 0
  | .error f => do
    say .error s!"Server error: {f.message}"
    return 1

/-- Shows the state of the stores. The statistics have no entry for the number of elements under the name
that is asked for, so that they cannot be shown. -/
def runStatus : Action Shell Nat := do
  say .info "ContextBrain Server Status"
  Action.rescue
    (do
      onEngine Engine.openStores
      let _ ← onEngine (Engine.onVectors VectorStore.stats)
      say .info "=== Storage Statistics ==="
      Action.fail (.noKey (Failure.quotedText "total_elements")))
    fun f => say .error s!"Could not retrieve status: {f.message}"
  return 0

/-- Watches a project, which the watcher cannot do from here. -/
def runWatch (project : Path) : Action Shell Nat := do
  say .info s!"Starting file watcher for: {project.toString}"
  orElse "File watcher" do
    onEngine prepareEngine
    Action.fail (.noMember "FileWatcher" "start_watching")

/-- Runs a command. -/
def Invocation.run : Invocation → Action Shell Nat
  | index project => runIndex project
  | search query threshold limit => runSearch query threshold limit
  | serve transport host port mountPath => runServe transport host port mountPath
  | status => runStatus
  | watch project => runWatch project

/-! ### The program -/

/-- Shows an error of usage. -/
def showError (path : String) (pieces : List String) (e : UsageError) : Action Shell Nat := do
  if !e.isBare then
    print (usageLine path pieces ++ s!"\nTry '{path} --help' for help.\n\n")
  print s!"Error: {e.message}\n"
  return 2

/-- Shows a help page. -/
def showPage (page : String) : Action Shell Nat := do
  print page
  return 0

/-- Runs the command with a form. -/
def runSpec (path : String) (width : Nat) (s : CommandSpec) (args : List String) :
    Action Shell Nat := do
  match s.read (← Action.get).engine.disk args with
  | .error e => showError path s.pieces e
  | .ok none => showPage (s.page path width)
  | .ok (some bindings) => (Invocation.ofBindings s.name bindings).run

/-- Whether a text looks like the name of a command: it is empty or starts with a letter or digit. -/
def looksLikeName (text : String) : Bool :=
  text.toList.head?.all fun c => isWord c && c != '_'

/-- Turns on the log of details. -/
def logDetails : Action Shell Unit := do
  Action.modify fun s => { s with level := .debug }
  say .debug "Debug logging enabled"

/-- Runs the program with the name `path` on its arguments; `width` is that of a help page. -/
def dispatch (path : String) (width : Nat) (args : List String) : Action Shell Nat :=
  match readPieces program false args with
  | .error e => showError path programPieces e
  | .ok (given, rest) =>
    if args.isEmpty || asksForHelp given then showPage (programPage path width)
    else
      match rest with
      | [] => showError path programPieces .missingCommand
      | name :: more =>
        match commands.find? (·.name == name) with
        | none =>
          if looksLikeName name then showError path programPieces (.noSuchCommand name)
          else showPage (programPage path width)
        | some s => do
          if given.any (·.option.key == "debug") then logDetails
          runSpec (path ++ " " ++ name) width s more

/-- Runs the program. An interruption ends it. -/
def runProgram (path : String) (width : Nat) (args : List String) : Action Shell Nat := do
  match ← Action.attempt (dispatch path width args) with
  | .ok code => return code
  | .error _ => do
    print "\nAborted!\n"
    return 1

end CodeAtlas.Command
