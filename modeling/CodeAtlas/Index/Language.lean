import CodeAtlas.Path

/-!
# Languages by file extension
-/

namespace CodeAtlas.Index

open CodeAtlas.Text

/-- The built-in table of extensions that are indexed, with their languages. -/
def builtinExtensions : List (String × String) :=
  [(".py", "python"), (".js", "javascript"), (".ts", "typescript"), (".jsx", "javascript"),
    (".tsx", "typescript"), (".java", "java"), (".cpp", "cpp"), (".cxx", "cpp"), (".cc", "cpp"),
    (".c", "c"), (".h", "c"), (".hpp", "cpp"), (".cs", "csharp"), (".go", "go"), (".rs", "rust"),
    (".php", "php"), (".rb", "ruby"), (".swift", "swift"), (".kt", "kotlin"), (".scala", "scala"),
    (".sh", "bash"), (".bash", "bash"), (".zsh", "bash"), (".sql", "sql"), (".html", "html"),
    (".htm", "html"), (".css", "css"), (".scss", "css"), (".sass", "css"), (".less", "css"),
    (".json", "json"), (".yaml", "yaml"), (".yml", "yaml"), (".xml", "xml"), (".md", "markdown"),
    (".markdown", "markdown"), (".rst", "rst"), (".txt", "text"), (".r", "r"), (".R", "r"),
    (".ps1", "powershell"), (".psm1", "powershell")]

/-- The extensions whose language is known to the indexer. -/
def knownLanguages : List (String × String) :=
  [(".py", "python"), (".js", "javascript"), (".ts", "typescript"), (".java", "java"),
    (".cpp", "cpp"), (".c", "c"), (".h", "c"), (".cs", "csharp"), (".go", "go"), (".rs", "rust"),
    (".php", "php"), (".rb", "ruby"), (".swift", "swift"), (".kt", "kotlin"), (".scala", "scala"),
    (".r", "r"), (".sql", "sql"), (".sh", "bash"), (".ps1", "powershell"), (".yaml", "yaml"),
    (".yml", "yaml"), (".json", "json"), (".xml", "xml"), (".html", "html"), (".css", "css"),
    (".md", "markdown"), (".txt", "text")]

/-- The language of a file, from its extension in lower case. -/
def detectLanguage (path : Path) : String :=
  let extension := String.ofList (toLower path.suffix)
  ((knownLanguages.find? (·.1 == extension)).map (·.2)).getD "unknown"

end CodeAtlas.Index
