import CodeAtlas.Element
import CodeAtlas.Schema.Basic

/-!
# The records of the service

What the records look like that clients send and receive.
-/

namespace CodeAtlas.Schema

/-- A field that has to be given. -/
def required (name : String) (s : Schema) : String × Schema × Option Value :=
  (name, s, none)

/-- A field with a default. -/
def defaulted (name : String) (s : Schema) (v : Value) : String × Schema × Option Value :=
  (name, s, some v)

/-- A field that may be given. -/
def possible (name : String) (s : Schema) : String × Schema × Option Value :=
  (name, .optional s, some .null)

/-- A list of texts, empty by default. -/
def textsField (name : String) : String × Schema × Option Value :=
  defaulted name (.list .text) (.list [])

/-- A table of any values, empty by default. -/
def tableField (name : String) (item : Schema := .any) : String × Schema × Option Value :=
  defaulted name (.table item) (.object [])

/-- A record that ignores fields it does not know. -/
def lenient (fields : List (String × Schema × Option Value)) : Schema :=
  .record false (.ofList fields)

def location : Schema := lenient
  [required "line_start" .int, required "line_end" .int, defaulted "column_start" .int (.int 0),
    defaulted "column_end" .int (.int 0)]

def metadata : Schema := lenient
  [required "language" .text, possible "complexity" .int, possible "lines_of_code" .int,
    possible "author" .text, possible "last_modified" .text]

def element : Schema := lenient
  [required "id" .text, required "type" (.label (ElementKind.all.map ElementKind.label)),
    required "name" .text, required "content" .text, required "file_path" .text,
    required "location" location, required "metadata" metadata,
    possible "embedding" (.list .float), textsField "dependencies", tableField "relationships"]

def searchResult : Schema := lenient
  [required "element" element, required "score" .float, defaulted "snippet" .text (.text ""),
    tableField "context"]

def queryResult : Schema := lenient
  [required "elements" (.list element), required "confidence" .float, required "explanation" .text,
    textsField "sources", textsField "related_queries", textsField "context_suggestions"]

def projectStatistics : Schema := lenient
  [defaulted "total_files" .int (.int 0), defaulted "total_elements" .int (.int 0),
    textsField "languages", defaulted "processing_time" .float (.float 0.0)]

def projectIndex : Schema := lenient
  [required "project_path" .text, required "statistics" projectStatistics,
    required "created_at" .text, required "updated_at" .text,
    defaulted "version" .text (.text "1.0.0")]

def dependencyAnalysis : Schema := lenient
  [required "target" .text, textsField "dependencies", textsField "dependents",
    defaulted "depth" .int (.int 1), textsField "external_dependencies"]

def architectureOverview : Schema := lenient
  [textsField "modules", textsField "key_components", tableField "relationships" (.list .text),
    tableField "complexity_metrics"]

def indexConfiguration : Schema := lenient
  [defaulted "use_default_exclusions" .flag (.bool true),
    defaulted "exclusion_verbosity" .text (.text "info"),
    defaulted "enable_dependency_scanning" .flag (.bool true),
    defaulted "show_progress_bars" .flag (.bool true),
    defaulted "verbose_output" .flag (.bool false),
    defaulted "embedding_batch_size" .int (.int 32)]

/-- The records by name. -/
def records : List (String × Schema) :=
  [("SourceLocation", location), ("ElementMetadata", metadata), ("CodeElement", element),
    ("SearchResult", searchResult), ("QueryResult", queryResult),
    ("ProjectStatistics", projectStatistics), ("ProjectIndex", projectIndex),
    ("DependencyAnalysis", dependencyAnalysis), ("ArchitectureOverview", architectureOverview),
    ("IndexConfiguration", indexConfiguration)]

/-- Reads the record with a name. -/
def readRecord (name : String) (v : Value) : Except Failure Value :=
  match records.find? (·.1 == name) with
  | some (_, s) => s.readAs name v
  | none => .error (.noConstant name)

end CodeAtlas.Schema
