import CodeAtlas.Files.Tree

/-!
# The launcher

The launcher starts the server as a process of its own, with the interpreter of the virtual environment
that lies beside it if there is one. It waits for the process and passes its exit code on. If it is
interrupted it ends the process, by force if the process does not stop in time.
-/

namespace CodeAtlas.Launcher

/-- What the launcher finds: the folder that it lies in, and the interpreter that runs it. -/
structure Host where
  disk : Disk
  folder : Path
  interpreter : String

/-- A request about the process. -/
inductive Call where
  | start (command : List String) (folder : String)
  | wait (seconds : Option Nat)
  | terminate
  | kill
  deriving Repr, DecidableEq, Inhabited

/-- How the process behaves: its exit code, whether the launcher is interrupted while it waits for it,
whether it goes on after it was told to stop, and why it cannot be started. -/
structure Child where
  code : Int := 0
  interrupted : Bool := false
  hangs : Bool := false
  refusal : Option String := none
  deriving Repr, DecidableEq, Inhabited

/-- What the launcher did: its requests, its exit code, and what it complained about. -/
structure Launch where
  calls : List Call := []
  exit : Int
  complaint : String := ""
  deriving Repr, DecidableEq, Inhabited

/-- Where an interpreter may lie, in the order in which it is looked for. -/
def interpreterPaths : List String :=
  ["venv/Scripts/python.exe", "venv/Scripts/python3.exe", ".venv/Scripts/python.exe",
    ".venv/Scripts/python3.exe", "venv/bin/python", "venv/bin/python3", ".venv/bin/python",
    ".venv/bin/python3"]

namespace Host

/-- A path in the folder of the launcher. -/
def file (h : Host) (path : String) : Path :=
  h.folder.append (.ofString path)

/-- Whether something lies in the folder of the launcher. -/
def has (h : Host) (path : String) : Bool :=
  (h.disk.get? (h.file path)).isSome

/-- The interpreter that the server is started with. -/
def chosenInterpreter (h : Host) : String :=
  match interpreterPaths.find? h.has with
  | some path => (h.file path).toString
  | none => h.interpreter

/-- The command that starts the server. -/
def command (h : Host) : List String :=
  [h.chosenInterpreter, (h.file "main.py").toString, "serve", "--transport", "stdio"]

/-- How long an interrupted process may take to stop, in seconds. -/
def patience : Nat := 5

/-- The requests that end a process. -/
def ending (c : Child) : List Call :=
  [.terminate, .wait (some patience)] ++ if c.hangs then [.kill, .wait none] else []

/-- Starts the server and waits for it. -/
def launch (h : Host) (c : Child) : Launch :=
  if h.has "main.py" then
    let start := Call.start h.command h.folder.toString
    match c.refusal with
    | some cause =>
      { calls := [start], exit := 1, complaint := s!"[ERROR] Failed to start MCP server: {cause}\n" }
    | none =>
      if c.interrupted then { calls := [start, .wait none] ++ ending c, exit := 0 }
      else { calls := [start, .wait none], exit := c.code }
  else { exit := 1, complaint := s!"[ERROR] main.py not found in {h.folder.toString}\n" }

end Host

end CodeAtlas.Launcher
