import CodeAtlas.Service.Prompts
import CodeAtlas.Service.Tools

/-!
# The server

How the service is reached: its name, the address it listens on, the way messages are carried, and what
it offers.
-/

namespace CodeAtlas.Service

/-- A server. -/
structure Server where
  name : String := "ContextBrain"
  host : String := "127.0.0.1"
  port : Int := 8000
  deriving Repr, DecidableEq, Inhabited

/-- A start of the server. -/
structure ServerRun where
  server : Server
  transport : String
  mountPath : Option String
  deriving Repr, DecidableEq, Inhabited

/-- The way messages are carried, by its full name. -/
def fullTransport (transport : String) : String :=
  if transport = "http" then "streamable-http" else transport

/-- Starts the server. An empty path to mount it at is none. -/
def Server.run (s : Server) (transport : String := "stdio") (mountPath : Option String := none) :
    ServerRun :=
  ⟨s, fullTransport transport, mountPath.filter (!·.isEmpty)⟩

/-- The names of the tools. Two of them share a name; the second is told apart by a number. -/
def toolNames : List String :=
  ["analyze_dependencies", "clean_database_entries", "clean_database_entries#2",
    "get_architecture_overview", "get_context_for_file", "index_project", "search_semantic",
    "search_structural"]

/-- The names of the prompts. -/
def promptNames : List String :=
  ["code_review_context", "refactoring_suggestions"]

end CodeAtlas.Service
