import CodeAtlas.Value

/-!
# The form of commands

What a command takes on its command line: options with their names and values, and arguments, which are
known by their place.
-/

namespace CodeAtlas.Command

/-- What a text on the command line stands for. -/
inductive ValueType where
  | text
  | int
  | float
  | choice (options : List String)
  /-- The path of something that exists. -/
  | existing
  deriving Repr, DecidableEq, Inhabited

/-- How a value is called in a help page. -/
def ValueType.label : ValueType → String
  | text => "TEXT"
  | int => "INTEGER"
  | float => "FLOAT"
  | choice options => "[" ++ "|".intercalate options ++ "]"
  | existing => "PATH"

/-- What giving an option means. -/
inductive OptionKind where
  /-- The option has a value, and may be given many times or the last time counts. -/
  | value (type : ValueType) (many : Bool)
  /-- The option is there or not. -/
  | flag
  /-- The option is there, or it is turned off under another name. -/
  | switch (off : String)
  /-- The option asks for the help page. -/
  | help
  deriving Repr, DecidableEq, Inhabited

/-- An option. -/
structure CommandOption where
  key : String
  names : List String
  kind : OptionKind
  about : String
  deriving Repr, DecidableEq, Inhabited

/-- An argument. -/
structure CommandArgument where
  key : String
  label : String
  type : ValueType
  deriving Repr, DecidableEq, Inhabited

/-- The form of a command. -/
structure CommandSpec where
  name : String
  about : String
  arguments : List CommandArgument := []
  options : List CommandOption := []
  deriving Repr, DecidableEq, Inhabited

namespace CommandOption

/-- The option for the help page, which every command has. -/
def helpPage : CommandOption :=
  ⟨"help", ["--help"], .help, "Show this message and exit."⟩

/-- The type of the value of an option that has one. -/
def type? (o : CommandOption) : Option ValueType :=
  match o.kind with
  | .value type _ => some type
  | _ => none

/-- All names of an option, each with whether it turns the option on. -/
def allNames (o : CommandOption) : List (String × Bool) :=
  o.names.map (·, true) ++
    match o.kind with
    | .switch off => [(off, false)]
    | _ => []

end CommandOption

/-- Whether a name of an option is a single letter after a single dash. -/
def isShort (name : String) : Bool :=
  match name.toList with
  | ['-', c] => c != '-'
  | _ => false

namespace CommandSpec

/-- All options of a command. -/
def allOptions (s : CommandSpec) : List CommandOption :=
  s.options ++ [.helpPage]

/-- The names of the options, each with its option and whether it turns the option on. -/
def table (s : CommandSpec) : List (String × CommandOption × Bool) :=
  s.allOptions.flatMap fun o => o.allNames.map fun n => (n.1, o, n.2)

/-- The option with a name. -/
def find? (s : CommandSpec) (name : String) : Option (CommandOption × Bool) :=
  (s.table.find? (·.1 == name)).map (·.2)

/-- The long names of the options. -/
def longNames (s : CommandSpec) : List String :=
  (s.table.map (·.1)).filter fun n => !isShort n

end CommandSpec

/-! ### The commands -/

/-- What can be given before the name of a command. -/
def program : CommandSpec :=
  { name := ""
    about := "ContextBrain MCP Server - Intelligent project context management."
    options := [⟨"debug", ["--debug"], .flag, "Enable debug logging"⟩] }

/-- The argument for the folder of a project. -/
def projectArgument : CommandArgument :=
  ⟨"project", "PROJECT_PATH", .existing⟩

def indexSpec : CommandSpec :=
  { name := "index"
    about := "Index a project directory."
    arguments := [projectArgument]
    options := [
      ⟨"exclude", ["--exclude"], .value .text true, "Additional patterns to exclude from indexing"⟩,
      ⟨"languages", ["--languages"], .value .text true,
        "Languages to include (default: all supported)"⟩,
      ⟨"no_defaults", ["--no-defaults"], .flag, "Disable default exclusion rules"⟩,
      ⟨"dependency_scan", ["--dependency-scan"], .switch "--no-dependency-scan",
        "Enable/disable dependency scanning in excluded dirs"⟩,
      ⟨"verbosity", ["--verbosity"], .value (.choice ["debug", "info", "warning"]) false,
        "Exclusion logging verbosity"⟩,
      ⟨"batch_size", ["--batch-size"], .value .int false, "Embedding generation batch size"⟩] }

def searchSpec : CommandSpec :=
  { name := "search"
    about := "Search the indexed project."
    arguments := [⟨"query", "QUERY", .text⟩]
    options := [
      ⟨"threshold", ["--threshold"], .value .float false, "Similarity threshold"⟩,
      ⟨"limit", ["--limit"], .value .int false, "Maximum results"⟩] }

def serveSpec : CommandSpec :=
  { name := "serve"
    about := "Start the ContextBrain MCP server."
    options := [
      ⟨"transport", ["--transport", "-t"], .value (.choice ["stdio", "sse", "http"]) false,
        "Transport protocol to use"⟩,
      ⟨"host", ["--host", "-h"], .value .text false, "Host to bind to (for HTTP/SSE)"⟩,
      ⟨"port", ["--port", "-p"], .value .int false, "Port to bind to (for HTTP/SSE)"⟩,
      ⟨"mount_path", ["--mount-path"], .value .text false, "Mount path for HTTP transport"⟩] }

def statusSpec : CommandSpec :=
  { name := "status", about := "Show server status and statistics." }

def watchSpec : CommandSpec :=
  { name := "watch"
    about := "Watch a project directory for changes."
    arguments := [projectArgument] }

/-- The commands in the order of their names. -/
def commands : List CommandSpec :=
  [indexSpec, searchSpec, serveSpec, statusSpec, watchSpec]

end CodeAtlas.Command
