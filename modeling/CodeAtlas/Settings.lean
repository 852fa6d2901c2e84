import CodeAtlas.Path
import CodeAtlas.Schema.Records

/-!
# Settings

The settings of the service: what they are, their defaults, and how they follow from given values and
from the environment. Values that are given win over the environment.
-/

namespace CodeAtlas

open CodeAtlas.Text CodeAtlas.Schema

/-- Settings that were checked. -/
structure Settings where
  fields : Value

namespace Settings

def logLevels : List String := ["DEBUG", "INFO", "WARNING", "ERROR", "CRITICAL"]

/-- The complaint about a level that does not exist. -/
def levelComplaint : String :=
  let listed := ", ".intercalate (logLevels.map fun l => s!"'{l}'")
  s!"Log level must be one of: [{listed}] (type=value_error)"

/-- The extensions that are indexed unless others are given. -/
def defaultExtensions : List (String × String) :=
  [(".py", "python"), (".js", "javascript"), (".ts", "typescript"), (".java", "java"),
    (".cpp", "cpp"), (".c", "c"), (".cs", "csharp"), (".go", "go"), (".rs", "rust"),
    (".php", "php"), (".rb", "ruby"), (".swift", "swift"), (".kt", "kotlin"), (".scala", "scala"),
    (".sh", "bash"), (".sql", "sql"), (".html", "html"), (".css", "css"), (".json", "json"),
    (".yaml", "yaml"), (".yml", "yaml"), (".xml", "xml"), (".md", "markdown"), (".rst", "rst")]

/-- The patterns of files that are not indexed unless others are given. -/
def defaultExclusions : List String :=
  ["*.pyc", "__pycache__", ".git", ".svn", ".hg", "node_modules", ".vscode", ".idea", "*.log",
    "*.tmp", "*.swp", "*.bak", "dist", "build", ".pytest_cache", "coverage", "*.egg-info"]

/-! ### Sections -/

/-- A text with a default. -/
def textSetting (name default : String) : String × Schema × Option Value :=
  defaulted name .text (.text default)

/-- A number with a default. -/
def intSetting (name : String) (default : Int) : String × Schema × Option Value :=
  defaulted name .int (.int default)

/-- A floating-point number with a default. -/
def floatSetting (name : String) (default : Float) : String × Schema × Option Value :=
  defaulted name .float (.float default)

/-- A switch with a default. -/
def flagSetting (name : String) (default : Bool) : String × Schema × Option Value :=
  defaulted name .flag (.bool default)

/-- A list of texts with a default. -/
def textsSetting (name : String) (default : List String) : String × Schema × Option Value :=
  defaulted name (.list .text) (.list (default.map .text))

def database : List (String × Schema × Option Value) :=
  [textSetting "vector_db_path" "./chroma_db", textSetting "structured_db_path" "./contextbrain.db",
    flagSetting "backup_enabled" true, intSetting "backup_interval_hours" 24]

def indexing : List (String × Schema × Option Value) :=
  [textSetting "embedding_model" "sentence-transformers/all-MiniLM-L6-v2",
    floatSetting "max_file_size_mb" 10.0, intSetting "batch_size" 50,
    textsSetting "exclude_patterns" defaultExclusions,
    defaulted "supported_extensions" (.table .text)
      (.object (defaultExtensions.map fun e => (e.1, .text e.2)))]

def monitoring : List (String × Schema × Option Value) :=
  [floatSetting "debounce_delay" 2.0, flagSetting "enable_git_integration" true,
    flagSetting "watch_recursive" true, flagSetting "ignore_hidden_files" true]

def server : List (String × Schema × Option Value) :=
  [textSetting "name" "ContextBrain", textSetting "version" "1.0.0",
    textSetting "description" "Intelligent project context management for AI applications",
    intSetting "max_concurrent_requests" 100, intSetting "request_timeout_seconds" 30,
    flagSetting "enable_cors" true, textsSetting "cors_origins" ["*"]]

def logging : List (String × Schema × Option Value) :=
  [defaulted "level" (.capitals logLevels levelComplaint) (.text "INFO"),
    textSetting "format" "%(asctime)s - %(name)s - %(levelname)s - %(message)s",
    defaulted "file_path" (.optional .text) (.text "contextbrain.log"),
    intSetting "max_file_size_mb" 10, intSetting "backup_count" 5,
    flagSetting "enable_structured_logging" false]

def security : List (String × Schema × Option Value) :=
  [flagSetting "enable_authentication" false, possible "api_key" .text,
    intSetting "rate_limit_requests_per_minute" 60, flagSetting "enable_request_validation" true,
    intSetting "max_query_length" 1000,
    textsSetting "allowed_file_types" ["text", "application/json", "application/xml",
      "application/javascript", "text/html", "text/css"]]

def performance : List (String × Schema × Option Value) :=
  [flagSetting "cache_enabled" true, intSetting "cache_size_mb" 100,
    intSetting "cache_ttl_seconds" 3600, flagSetting "enable_compression" true,
    intSetting "worker_threads" 4, intSetting "connection_pool_size" 10]

/-- The defaults of a section. -/
def defaults (fields : List (String × Schema × Option Value)) : Value :=
  .object (fields.map fun f => (f.1, f.2.2.getD .null))

/-- A section of the settings, by default with all its defaults. -/
def settingsSection (name : String) (fields : List (String × Schema × Option Value)) :
    String × Schema × Option Value :=
  defaulted name (lenient fields) (defaults fields)

/-- The settings that can be given by the environment. -/
def scalars : List (String × Schema × Option Value) :=
  [textSetting "data_directory" "./data", textSetting "temp_directory" "./temp",
    flagSetting "enable_metrics" true, flagSetting "debug_mode" false]

/-- What settings look like. Settings that are not known are refused. -/
def schema : Schema :=
  .record true (.ofList ([settingsSection "database" database, settingsSection "indexing" indexing,
    settingsSection "monitoring" monitoring, settingsSection "server" server,
    settingsSection "logging" logging, settingsSection "security" security,
    settingsSection "performance" performance] ++ scalars))

/-! ### Reading -/

/-- The variables of an environment. -/
abbrev Environment := List (String × String)

/-- The name of the variable for a setting, in lower case. -/
def variableName (setting : String) : String :=
  "contextbrain_" ++ setting

/-- The value of a variable, whose name is compared without regard to case; the last one counts. -/
def Environment.find? (env : Environment) (name : String) : Option String :=
  (env.reverse.find? fun e => String.ofList (toLower e.1.toList) == name).map (·.2)

/-- The settings that the environment gives and that are not given otherwise. -/
def fromEnvironment (env : Environment) (given : List (String × Value)) : List (String × Value) :=
  scalars.filterMap fun s =>
    if given.any (·.1 == s.1) then none
    else (Environment.find? env (variableName s.1)).map fun v => (s.1, .text v)

/-- The settings for given values in an environment. -/
def make (env : Environment) (given : List (String × Value)) : Except Failure Settings :=
  (schema.readAs "ContextBrainSettings" (.object (given ++ fromEnvironment env given))).map Settings.mk

/-! ### Values -/

/-- The setting at a place. -/
def get (s : Settings) (place : List String) : Value :=
  place.foldl (fun v name => (v.field? name).getD .null) s.fields

def getText (s : Settings) (place : List String) : String :=
  (s.get place).text?.getD ""

/-- The file for the log; none if its name is empty. -/
def logFile? (s : Settings) : Option String :=
  (s.get ["logging", "file_path"]).text?.filter fun f => !f.isEmpty

/-- The extensions that are indexed, with their languages; none if the table is empty. -/
def extensions? (s : Settings) : Option (List (String × String)) :=
  match s.get ["indexing", "supported_extensions"] with
  | .object fields =>
    if fields.isEmpty then none else some (fields.map fun f => (f.1, f.2.text?.getD ""))
  | _ => none

/-- The directories that have to exist. -/
def directories (s : Settings) : List Path :=
  [Path.ofString (s.getText ["data_directory"]), Path.ofString (s.getText ["temp_directory"]),
    (Path.ofString (s.getText ["database", "vector_db_path"])).parent,
    (Path.ofString (s.getText ["database", "structured_db_path"])).parent] ++
    (s.logFile?.map fun f => (Path.ofString f).parent).toList

/-- Where the database is. -/
def databaseUrl (s : Settings) : String :=
  "sqlite:///" ++ s.getText ["database", "structured_db_path"]

/-- The value of the variable that names the environment, in lower case. -/
def environmentName (env : Environment) : String :=
  String.ofList (toLower (((env.reverse.find? (·.1 == "ENVIRONMENT")).map (·.2)).getD "").toList)

/-- Whether the service runs for development. -/
def isDevelopment (s : Settings) (env : Environment) : Bool :=
  (s.get ["debug_mode"]).truthy || ["dev", "development"].contains (environmentName env)

/-- Whether the service runs in production. -/
def isProduction (env : Environment) : Bool :=
  ["prod", "production"].contains (environmentName env)

/-! ### Logging -/

/-- How the log is written: to the console, and to a file if there is one. -/
def logConfiguration (s : Settings) : Value :=
  let level := s.get ["logging", "level"]
  let handlers := Value.list ((["console"] ++ s.logFile?.toList.map fun _ => "file").map .text)
  let console := Value.object
    [("class", .text "logging.StreamHandler"), ("level", level), ("formatter", .text "standard"),
      ("stream", .text "ext://sys.stderr")]
  let megabytes := (intOf? (s.get ["logging", "max_file_size_mb"])).getD 0
  let file := s.logFile?.toList.map fun f => ("file", Value.object
    [("class", .text "logging.handlers.RotatingFileHandler"), ("level", level),
      ("formatter", .text "standard"), ("filename", .text f),
      ("maxBytes", .int (megabytes * 1024 * 1024)),
      ("backupCount", s.get ["logging", "backup_count"])])
  .object
    [("version", .int 1), ("disable_existing_loggers", .bool false),
      ("formatters", .object [("standard", .object [("format", s.get ["logging", "format"])])]),
      ("handlers", .object (("console", console) :: file)),
      ("loggers", .object
        [("contextbrain", .object
            [("level", level), ("handlers", handlers), ("propagate", .bool false)]),
          ("root", .object [("level", level), ("handlers", handlers)])])]

end Settings

end CodeAtlas
