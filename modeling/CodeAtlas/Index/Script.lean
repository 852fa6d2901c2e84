import CodeAtlas.Extract.Basic
import CodeAtlas.Extract.Script
import CodeAtlas.Index.Reference
import CodeAtlas.Path

/-!
# The top level of a script

The indexer lists the module itself, then what stands on its top level in order: classes, each
followed by its methods, functions and imports. Identifiers are made of the kind, the stored path, the
name and the line.
-/

namespace CodeAtlas.Index

open CodeAtlas.Text CodeAtlas.Script CodeAtlas.Extract

/-- How much of an element's text is kept. -/
def contentLimit : Nat := 1000

/-- The digits of a number. -/
def numeral (n : Nat) : String :=
  String.ofList (Nat.toDigits 10 n)

/-- Identifiers of elements. -/
def moduleId (path : String) : String :=
  "module_" ++ path

def fileId (path : String) : String :=
  "file_" ++ path

def classId (path name : String) (line : Nat) : String :=
  s!"class_{path}_{name}_{numeral line}"

def functionId (path name : String) (line : Nat) : String :=
  s!"function_{path}_{name}_{numeral line}"

def methodId (path owner name : String) (line : Nat) : String :=
  s!"method_{path}_{owner}_{name}_{numeral line}"

def importId (path : String) (line hash : Nat) : String :=
  s!"import_{path}_{numeral line}_{numeral hash}"

/-- The value of the first four hexadecimal digits of a text's digest. -/
def shortHash (s : String) : Nat :=
  ((Digest.ofText s).toList.take 4).foldl (fun n c => 16 * n + Script.digitOf c) 0

/-- A script on its way into the index: its path, the stored form of the path, and its lines. -/
structure Source where
  path : String
  stored : String
  lines : List (List Char)

/-- The text of a statement, line by line and cut to the limit. -/
def Source.text (s : Source) (span : Span) : String :=
  String.ofList ((unlines (slice (span.start.line - 1) span.stop.line s.lines)).take contentLimit)

/-- The element of a definition. -/
def Source.definition (s : Source) (kind : ElementKind) (id name : String) (span : Span) : Element :=
  { id := id
    kind := kind
    name := name
    content := s.text span
    filePath := s.path
    location := locationOf span
    metadata := {
      language := scriptLanguage
      linesOfCode := some ((span.stop.line : Int) - span.start.line + 1) } }

/-- What an import reads from, as a text. -/
def importSource : Statement → String
  | .importFrom source _ => "from " ++ source.getD "None"
  | _ => "import"

/-- The names that an import brings in. -/
def importedNames : Statement → List String
  | .importModules names => names.map (·.name)
  | .importFrom _ names => names.map (·.name)
  | _ => []

/-- The element of an import. It stands for the line that the import starts on. -/
def Source.importElement (s : Source) (statement : Statement) (span : Span) : Element :=
  let line := span.start.line
  let content := (s.lines[line - 1]?).getD []
  let names := importedNames statement
  let kind := importSource statement
  let hash := shortHash (kind ++ "_" ++ ",".intercalate (sortTexts names))
  { id := importId s.stored line hash
    kind := .importing
    name := kind ++ " " ++ ", ".intercalate names
    content := String.ofList (trim content)
    filePath := s.path
    location := {
      lineStart := line
      lineEnd := line
      columnStart := span.start.column
      columnEnd := span.stop.column }
    metadata := { language := scriptLanguage, linesOfCode := some 1 } }

/-- The methods of a class. -/
def Source.methods (s : Source) (owner : String) (body : List Node) : List Element :=
  body.filterMap fun n =>
    match n.kind with
    | .statement (.functionDef name _) span =>
      some (s.definition .method (methodId s.stored owner name.text span.start.line) name.text span)
    | _ => none

/-- The elements of a statement on the top level. -/
def Source.topLevel (s : Source) (n : Node) : List Element :=
  match n.kind with
  | .statement (.classDef name) span =>
    s.definition .classDef (classId s.stored name.text span.start.line) name.text span ::
      s.methods name.text n.body
  | .statement (.functionDef name _) span =>
    [s.definition .function (functionId s.stored name.text span.start.line) name.text span]
  | .statement (.importModules names) span => [s.importElement (.importModules names) span]
  | .statement (.importFrom source names) span => [s.importElement (.importFrom source names) span]
  | _ => []

/-- The element of the module itself. -/
def Source.moduleElement (s : Source) (content : List Char) : Element :=
  { id := moduleId s.stored
    kind := .module
    name := String.ofList (Path.ofString s.path).stem
    content := String.ofList (content.take contentLimit)
    filePath := s.path
    location := { lineStart := 1, lineEnd := s.lines.length }
    metadata := { language := scriptLanguage, linesOfCode := some s.lines.length } }

/-- The elements of a script whose text and path are known. -/
def moduleElements (path : String) (content : List Char) (tree : Node) : List Element :=
  let source : Source := ⟨path, String.ofList (normalizePath path.toList), lines content⟩
  source.moduleElement content :: tree.children.flatMap source.topLevel

/-- Indexes a script. A text that is not well formed gives no elements, nor does a script without a
path or a text. -/
def indexScript (path content : Option String) : Extraction :=
  let failed := fun (f : Failure) =>
    ⟨[], [.warn s!"Failed to parse Python file {pathText path}: {f.message}"]⟩
  match content with
  | none => failed .notSource
  | some text =>
    match parse text.toList, path with
    | .error .malformed, _ =>
      ⟨[], [.warn s!"Syntax error in {pathText path}: {Failure.malformed.message}"]⟩
    | .error f, _ => failed f
    | .ok _, none => failed (.noMember "NoneType" "replace")
    | .ok tree, some file => ⟨moduleElements file text.toList tree, []⟩

/-- The element that stands for a whole file. -/
def fileElement (content : List Char) (path relative : String) (language : String) : Element :=
  let count := (lines content).length
  { id := fileId (String.ofList (normalizePath relative.toList))
    kind := .module
    name := String.ofList (Path.ofString path).stem
    content := String.ofList (content.take contentLimit)
    filePath := relative
    location := { lineStart := 1, lineEnd := count }
    metadata := { language := language, linesOfCode := some count } }

end CodeAtlas.Index
