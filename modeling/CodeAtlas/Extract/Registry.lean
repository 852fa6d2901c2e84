import CodeAtlas.Extract.Generic
import CodeAtlas.Extract.JavaScript
import CodeAtlas.Extract.Script
import CodeAtlas.Outline.Element

/-!
# The extractors by language

Every supported language has an extractor. The one for other languages remembers the language of the
last file whose path showed it.
-/

namespace CodeAtlas.Extract

open CodeAtlas.Text

/-- The kinds of extractor. -/
inductive ExtractorKind where
  | script
  | javascript
  | generic
  | outline
  deriving Repr, DecidableEq, Inhabited

/-- The supported languages with their kinds of extractor. -/
def extractorKinds : List (String × ExtractorKind) :=
  [("python", .script), ("javascript", .javascript), ("typescript", .javascript),
    ("java", .generic), ("cpp", .generic), ("c", .generic), ("csharp", .generic), ("go", .generic),
    ("rust", .generic), ("php", .generic), ("ruby", .generic), ("swift", .generic),
    ("kotlin", .generic), ("scala", .generic), ("bash", .generic), ("sql", .generic),
    ("html", .generic), ("css", .generic), ("json", .generic), ("yaml", .generic),
    ("xml", .generic), ("markdown", .outline), ("rst", .generic)]

/-- The supported languages. -/
def supportedLanguages : List String :=
  extractorKinds.map (·.1)

/-- An extractor: its kind, and the language of what it makes. -/
structure Extractor where
  kind : ExtractorKind
  language : String
  deriving Repr, DecidableEq, Inhabited

namespace Extractor

/-- A new extractor of a kind. -/
def ofKind : ExtractorKind → Extractor
  | .script => ⟨.script, scriptLanguage⟩
  | .javascript => ⟨.javascript, JavaScript.language⟩
  | .generic => ⟨.generic, "generic"⟩
  | .outline => ⟨.outline, Outline.language⟩

/-- The extractor for a language. -/
def ofLanguage (language : String) : Except Failure Extractor :=
  match extractorKinds.find? (·.1 == language) with
  | some (_, kind) => .ok (ofKind kind)
  | none => .error (.unsupportedLanguage language)

/-- The extractor after the path of a file was seen. -/
def seePath (x : Extractor) (path : String) : Extractor :=
  match x.kind with
  | .generic => { x with language := (Generic.languageOf? path.toList).getD x.language }
  | _ => x

/-- The elements of a file. A file without a text fails, unless it is a script. -/
def extract (x : Extractor) (options : Options) (path content : Option String) :
    Except Failure (Extraction × Extractor) :=
  match x.kind, content, path with
  | .script, _, _ => .ok (scriptElements options path content, x)
  | _, none, _ => .error (.noMember "NoneType" "split")
  | .javascript, some text, _ => .ok (JavaScript.elements options path text.toList, x)
  | .outline, some text, _ => .ok (Outline.elements path text.toList, x)
  | .generic, some _, none => .error (.noMember "NoneType" "lower")
  | .generic, some text, some file =>
    let x' := x.seePath file
    .ok (Generic.elements options x'.language path text.toList, x')

/-- The elements of several files, one after the other. -/
def extractAll (x : Extractor) (options : Options) :
    List (Option String × Option String) → Except Failure (List (Extraction × String))
  | [] => .ok []
  | (path, content) :: files => do
    let (found, x') ← x.extract options path content
    let rest ← x'.extractAll options files
    return (found, x'.language) :: rest

end Extractor

/-- The elements of a file in a language. A language without extractor has none, and neither has a
file that cannot be read; the latter is worth a warning. -/
def languageElements (options : Options) (language : String) (path content : Option String) :
    Extraction :=
  match Extractor.ofLanguage language with
  | .error _ => ⟨[], []⟩
  | .ok x =>
    match x.extract options path content with
    | .ok (found, _) => found
    | .error f => ⟨[], [.warn s!"Parser error for {pathText path} ({language}): {f.message}"]⟩

end CodeAtlas.Extract
