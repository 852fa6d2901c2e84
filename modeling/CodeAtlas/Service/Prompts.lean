import CodeAtlas.Service.App
import CodeAtlas.Value.Text

/-!
# Prompts and resources

Texts that clients hand to a language model, made from what is known about a file or an element; and the
resources that the service offers.
-/

namespace CodeAtlas.Service

open CodeAtlas.Index App

/-- The text for the review of a file. -/
def reviewPrompt (file : String) : Action App String := do
  ensureReady
  let found ← askCatalog fun c => fileContext c file 10 true
  let shown := found.toValue.written
  return s!"Code review context for {file}: {shown}"

/-- The text for the refactoring of a function. -/
def refactoringPrompt (name : String) : Action App String := do
  ensureReady
  let found ← askCatalog fun c => c.search "function" name.toList []
  match found with
  | e :: _ => return s!"Refactoring suggestions for {e.name}: {e.content}"
  | [] => return s!"Element {name} not found"

/-- The resources with their texts. -/
def resources : List (String × String) :=
  [("project://index", "Project index information available"),
    ("project://structure", "Project structure information"),
    ("project://dependencies", "Project dependencies information")]

/-- The text of a resource. -/
def resource? (uri : String) : Option String :=
  (resources.find? (·.1 == uri)).map (·.2)

end CodeAtlas.Service
