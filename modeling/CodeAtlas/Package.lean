import CodeAtlas.Extract.Basic
import CodeAtlas.Files.Tree
import CodeAtlas.Value

/-!
# The package

The manifest that the service is installed with. Most of it is fixed; its description, the packages that
it needs and those that it consists of come from its folder.
-/

namespace CodeAtlas

open CodeAtlas.Text

/-- The file that makes a folder a package. -/
def packageMark : List Char := "__init__.py".toList

/-- Whether entries are those of a package. -/
def Entries.isPackage (es : Entries) : Bool :=
  (es.find? packageMark).any Tree.isFile

mutual

/-- The packages of a folder that has the given name as a package. -/
def Tree.packages (name : List Char) : Tree → List (List Char)
  | .file _ => []
  | .folder es => if es.isPackage then name :: es.packages (name ++ ['.']) else []

/-- The packages among entries; `before` stands before their names. A name with a dot is none. -/
def Entries.packages (before : List Char) : Entries → List (List Char)
  | .nil => []
  | .cons n t rest =>
    (if n.contains '.' then [] else t.packages (before ++ n)) ++ rest.packages before

end

namespace Package

/-- Lines about packages that are needed; empty ones and comments are left out. -/
def requirementsIn (cs : List Char) : List String :=
  ((lines (trim cs)).filter fun l => !(trim l).isEmpty && l.head? != some '#').map fun l =>
    String.ofList (trim l)

/-- The packages that are needed; there need not be a list of them. -/
def requirements (d : Disk) (folder : Path) : Except Failure (List String) :=
  let path := folder.append (.ofString "requirements.txt")
  if (d.get? path).isSome then (d.read path).map requirementsIn else .ok []

/-- The packages in a folder, in order. -/
def packagesIn (d : Disk) (folder : Path) : List String :=
  match d.get? folder with
  | some t => Extract.sortTexts ((t.entries.packages []).map String.ofList)
  | none => []

/-- What the package is filed under. -/
def classifiers : List String :=
  ["Development Status :: 4 - Beta", "Intended Audience :: Developers",
    "Topic :: Software Development :: Libraries :: Python Modules",
    "Topic :: Software Development :: Code Generators", "Topic :: Text Processing :: Indexing",
    "License :: OSI Approved :: MIT License", "Programming Language :: Python :: 3",
    "Programming Language :: Python :: 3.8", "Programming Language :: Python :: 3.9",
    "Programming Language :: Python :: 3.10", "Programming Language :: Python :: 3.11",
    "Programming Language :: Python :: 3.12", "Operating System :: OS Independent"]

/-- The words that the package is found by. -/
def keywords : List String :=
  ["mcp", "model-context-protocol", "ai", "code-analysis", "semantic-search", "project-indexing",
    "developer-tools", "code-intelligence"]

/-- The packages that are needed to work on the service. -/
def developmentPackages : List String :=
  ["pytest>=7.0.0", "pytest-asyncio>=0.21.0", "pytest-cov>=4.0.0", "black>=23.0.0", "isort>=5.12.0",
    "flake8>=6.0.0", "mypy>=1.0.0"]

/-- The packages that are needed to write about the service. -/
def documentationPackages : List String :=
  ["mkdocs>=1.4.0", "mkdocs-material>=9.0.0", "mkdocstrings[python]>=0.20.0"]

/-- The manifest of the package in a folder. -/
def manifest (d : Disk) (folder : Path) : Except Failure Value := do
  let readme ← d.read (folder.append (.ofString "README.md"))
  let needed ← requirements d folder
  return .object [
    ("name", .text "contextbrain"), ("version", .text "1.0.0"),
    ("author", .text "ContextBrain Development Team"), ("author_email", .text "dev@contextbrain.ai"),
    ("description", .text "MCP Server for intelligent project context management"),
    ("long_description", .text (String.ofList readme)),
    ("long_description_content_type", .text "text/markdown"),
    ("url", .text "https://github.com/contextbrain/contextbrain"),
    ("packages", .texts (packagesIn d folder)), ("classifiers", .texts classifiers),
    ("python_requires", .text ">=3.8"), ("install_requires", .texts needed),
    ("extras_require", .object [("dev", .texts developmentPackages), ("docs", .texts documentationPackages)]),
    ("entry_points", .object [("console_scripts", .texts ["contextbrain=main:cli"])]),
    ("include_package_data", .bool true), ("package_data", .object [("contextbrain", .texts ["py.typed"])]),
    ("keywords", .texts keywords),
    ("project_urls", .object [
      ("Bug Reports", .text "https://github.com/contextbrain/contextbrain/issues"),
      ("Source", .text "https://github.com/contextbrain/contextbrain"),
      ("Documentation", .text "https://contextbrain.readthedocs.io/")])]

end Package

end CodeAtlas
