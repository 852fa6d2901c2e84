/-!
# Elements of a code base

An element is a named piece of a source file or document: a module, a class, a function, an import, a
heading. It knows where it stands, what is written there, and some facts about it.
-/

namespace CodeAtlas

/-- What an element is; a binding is a variable with its value. -/
inductive ElementKind where
  | function
  | classDef
  | method
  | binding
  | importing
  | module
  | comment
  | docstring
  | documentHeading
  | h1
  | h2
  | h3
  | h4
  | h5
  | h6
  deriving Repr, DecidableEq, Inhabited

namespace ElementKind

/-- All kinds. -/
def all : List ElementKind :=
  [.function, .classDef, .method, .binding, .importing, .module, .comment, .docstring,
    .documentHeading, .h1, .h2, .h3, .h4, .h5, .h6]

/-- The label that a kind is stored under. -/
def label : ElementKind → String
  | .function => "function"
  | .classDef => "class"
  | .method => "method"
  | .binding => "variable"
  | .importing => "import"
  | .module => "module"
  | .comment => "comment"
  | .docstring => "docstring"
  | .documentHeading => "document_heading"
  | .h1 => "h1"
  | .h2 => "h2"
  | .h3 => "h3"
  | .h4 => "h4"
  | .h5 => "h5"
  | .h6 => "h6"

/-- The kind with a given label. -/
def ofLabel? (s : String) : Option ElementKind :=
  all.find? (·.label == s)

theorem ofLabel?_label (k : ElementKind) : ofLabel? k.label = some k := by
  cases k <;> decide

end ElementKind

/-- Where an element stands: lines from one, columns from zero. -/
structure Location where
  lineStart : Int
  lineEnd : Int
  columnStart : Int := 0
  columnEnd : Int := 0
  deriving Repr, DecidableEq, Inhabited

/-- Facts about an element. -/
structure Metadata where
  language : String
  complexity : Option Int := none
  linesOfCode : Option Int := none
  author : Option String := none
  lastModified : Option String := none
  deriving Repr, DecidableEq, Inhabited

/-- An element of a code base. Its links to other elements are written down by the extractors that
look for them; the others leave `links` empty. -/
structure Element where
  id : String
  kind : ElementKind
  name : String
  content : String
  filePath : String
  location : Location
  metadata : Metadata
  embedding : Option (List Float) := none
  dependencies : List String := []
  links : Option (List String) := none
  deriving Repr, Inhabited

end CodeAtlas
