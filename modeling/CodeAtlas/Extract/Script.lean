import CodeAtlas.Extract.Basic
import CodeAtlas.Script.Grammar.Statement
import CodeAtlas.Script.Printer
import CodeAtlas.Script.Walk
import CodeAtlas.Text.Case

/-!
# Elements of scripts

Imports, classes, functions and variables anywhere in a Python script, each group in the order of a
walk over its syntax tree. Classes are linked to their bases, functions to what they call and to the
imports that are called anywhere in the file.
-/

namespace CodeAtlas.Extract

open CodeAtlas.Text CodeAtlas.Script

/-- The language of scripts. -/
def scriptLanguage : String := "python"

/-- A file whose tree was read. -/
structure ScriptFile where
  options : Options
  path : Option String
  lines : List (List Char)
  tree : Node

/-- The location of a statement. -/
def locationOf (span : Span) : Location :=
  { lineStart := span.start.line
    lineEnd := span.stop.line
    columnStart := span.start.column
    columnEnd := span.stop.column }

/-- Makes the element of a statement. -/
def ScriptFile.element (file : ScriptFile) (kind : ElementKind) (name : String) (span : Span)
    (complexity : Option Int := none) : Except Failure Element :=
  let location := locationOf span
  makeElement file.options scriptLanguage kind name file.path location
    (lineRange file.lines location.lineStart location.lineEnd) complexity

/-- Links to the given targets; it fails if there is one and links cannot be written. -/
def scriptLinks (options : Options) (relation strength : String) (targets : List String) :
    Except Failure (List String) :=
  if options.linking || targets.isEmpty then
    .ok (targets.map fun t => linkText relation t strength)
  else .error (.noMember "PythonParser" "create_relationship")

/-! ### Imports -/

/-- The text that an import is named by. -/
def importName : Statement → Option String
  | .importModules names => some (", ".intercalate (names.map (·.name)))
  | .importFrom source names =>
    some ("from " ++ source.getD "" ++ " import " ++ ", ".intercalate (names.map (·.name)))
  | _ => none

/-- The names bound by an import, each with what it stands for. -/
def importedBindings : Statement → List (String × String)
  | .importModules names => names.map fun a => (a.asName.getD a.name, a.name)
  | .importFrom source names =>
    names.map fun a => (a.asName.getD a.name, source.getD "" ++ "." ++ a.name)
  | _ => []

/-- The element of an import. -/
def importElement (file : ScriptFile) (n : Node) : Except Failure (Option Element) :=
  match n.kind with
  | .statement s span =>
    match importName s with
    | some name => some <$> file.element .importing name span
    | none => .ok none
  | _ => .ok none

/-! ### Classes and functions -/

/-- The bases of a class that have a name, written out. -/
def baseNames (n : Node) : Except Failure (List String) :=
  (n.children.takeWhile Node.isExpression).filterMapM fun base =>
    match base.kind with
    | .expression (.name identifier) => .ok (some identifier)
    | .expression (.attribute _) => some <$> base.source
    | _ => .ok none

/-- Whether a node is a function that is not asynchronous. -/
def isPlainFunction (n : Node) : Bool :=
  match n.kind with
  | .statement (.functionDef _ false) _ => true
  | _ => false

/-- The element of a class; its complexity is the number of its methods, but at least one. -/
def classElement (file : ScriptFile) (n : Node) : Except Failure (Option Element) :=
  match n.kind with
  | .statement (.classDef name) span => do
    let bases ← baseNames n
    let methods := n.body.countP isPlainFunction
    let element ← file.element .classDef name.text span (some (max 1 methods : Nat))
    let links ← scriptLinks file.options "inherits" "0.9" (bases.map fun b => s!"class:{b}")
    return some { element with links := some (sortTexts links) }
  | _ => .ok none

/-- The element of a function. -/
def functionElement (file : ScriptFile) (n : Node) : Except Failure (Option Element) :=
  match n.kind with
  | .statement (.functionDef name false) span => do
    let element ← file.element .function name.text span (some (n.complexity : Nat))
    let links ← scriptLinks file.options "calls" "0.7"
      (n.calls.eraseDups.map fun c => s!"function:{c}")
    return some { element with links := some (sortTexts links) }
  | _ => .ok none

/-! ### Variables -/

/-- The element of an assignment to a name. Names in capitals would be constants, a kind that does
not exist. -/
def bindingElement (file : ScriptFile) (n : Node) : Except Failure (Option Element) :=
  match n.kind, n.children with
  | .statement .assign span, target :: _ =>
    match target.kind with
    | .expression (.name identifier) =>
      if allUpper identifier.toList then .error (.noConstant "CONSTANT")
      else some <$> file.element .binding identifier span
    | _ => .ok none
  | _, _ => .ok none

/-! ### The whole file -/

/-- The elements that `make` finds along a walk over the tree. -/
def ScriptFile.group (file : ScriptFile) (make : ScriptFile → Node → Except Failure (Option Element)) :
    Except Failure (List Element) :=
  file.tree.walk.filterMapM (make file)

/-- The name that a call refers to among the imports; a later import hides an earlier one. -/
def boundTo (bindings : List (String × String)) (name : String) : Option String :=
  (bindings.reverse.find? (·.1 == name)).map (·.2)

/-- Adds links to the imports that are called somewhere in the file to every function. -/
def ScriptFile.linkImports (file : ScriptFile) (elements : List Element) : List Element :=
  let nodes := file.tree.walk
  let bindings := nodes.flatMap fun n =>
    match n.kind with
    | .statement s _ => importedBindings s
    | _ => []
  let calls := ((nodes.filter isPlainFunction).flatMap Node.calls).eraseDups
  let uses := calls.filterMap fun c =>
    (boundTo bindings c).map fun target => linkText "uses" s!"import:{target}" "0.6"
  elements.map fun e =>
    if e.kind = .function then { e with links := some (sortTexts (e.links.getD [] ++ uses)) } else e

/-- The elements of a script. A text that is not well formed has none. -/
def scriptElements (options : Options) (path content : Option String) : Extraction :=
  match content with
  | none => ⟨[], [failureEvent path .notSource]⟩
  | some text =>
    match parse text.toList with
    | .error .malformed =>
      ⟨[], [.err s!"Syntax error in {pathText path}: {Failure.malformed.message}"]⟩
    | .error f => ⟨[], [failureEvent path f]⟩
    | .ok tree =>
      let file : ScriptFile := ⟨options, path, lines text.toList, tree⟩
      let (elements, failure) := collectGroups
        [file.group importElement, file.group classElement, file.group functionElement,
          file.group bindingElement]
      match failure with
      | some f => ⟨elements, [failureEvent path f]⟩
      | none => ⟨file.linkImports elements, []⟩

/-- The words that the language reserves. -/
def scriptKeywords : List String :=
  ["False", "None", "True", "and", "as", "assert", "break", "class", "continue", "def", "del",
    "elif", "else", "except", "finally", "for", "from", "global", "if", "import", "in", "is",
    "lambda", "nonlocal", "not", "or", "pass", "raise", "return", "try", "while", "with", "yield"]

end CodeAtlas.Extract
