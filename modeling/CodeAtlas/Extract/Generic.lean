import CodeAtlas.Extract.Heuristics
import CodeAtlas.Extract.Lines
import CodeAtlas.Text.Pattern

/-!
# Elements of other program files

Languages without an extractor of their own share common shapes: includes and imports, functions with
parentheses and braces, classes and structures, assignments, and comments for documentation. They are
found line by line, in the text of the line without the blanks around it.
-/

namespace CodeAtlas.Extract.Generic

open CodeAtlas.Text CodeAtlas.Text.Pattern

/-- How many more lines a block without end is taken to have. -/
def blockLength : Nat := 20

/-- The language that a file's path shows, if any. -/
def languageOf? (path : List Char) : Option String :=
  let lower := toLower path
  ([(".java", "java"), (".cpp", "cpp"), (".c", "c"), (".cs", "csharp"), (".go", "go"),
    (".rs", "rust"), (".php", "php"), (".rb", "ruby"), (".swift", "swift"), (".kt", "kotlin"),
    (".scala", "scala"), (".sh", "bash"), (".sql", "sql"), (".html", "html"), (".css", "css"),
    (".json", "json"), (".yaml", "yaml"), (".yml", "yaml"), (".xml", "xml"), (".md", "markdown"),
    (".rst", "rst")].find? fun e => endsWith e.1.toList lower).map (·.2)

/-! ### Imports -/

def importPatterns : List Pattern :=
  [all [lit "#include", blanks, one (fun c => c == '<' || c == '"'),
      group 1 (many1 fun c => c != '>' && c != '"'), one (fun c => c == '>' || c == '"')],
    all [lit "import", blanks1, group 1 (many1 (· != ';')), opt (lit ";")],
    all [lit "using", blanks1, group 1 (many1 (· != ';')), lit ";"],
    all [lit "require", blanks, lit "(", blanks, one isQuote,
      group 1 (many1 fun c => !isQuote c), one isQuote, blanks, lit ")"],
    all [lit "from", blanks1, group 1 (many1 fun c => !isBlank c), blanks1, lit "import"],
    all [lit "@import", blanks1, one isQuote, group 1 (many1 fun c => !isQuote c), one isQuote]]

def imports (file : SourceFile) : Except Failure (List Element) :=
  file.eachTrimmed fun index line =>
    match importPatterns.findSome? (·.search? line) with
    | some m => some <$> file.lineElement .importing (trim (m.group 1)) line index
    | none => .ok none

/-! ### Functions -/

/-- The ways to define a function; the group of the name is the same in all of them. -/
def functionPatterns : List Pattern :=
  [all [opt (any [lit "public", lit "private", lit "protected", lit "static"]), blanks,
      opt (all [word, blanks1]), group 1 word, blanks, parentheses, blanks, lit "\x7b"],
    all [lit "def", blanks1, group 1 word, blanks, parentheses, lit ":"],
    all [lit "function", blanks1, group 1 word, blanks, parentheses],
    all [lit "fn", blanks1, group 1 word, blanks, parentheses],
    all [lit "func", blanks1, group 1 word, blanks, parentheses],
    all [word, blanks, lit "::", blanks, group 1 word, blanks, parentheses]]

/-- Words in front of parentheses that are no functions. -/
def notFunctions : List (List Char) :=
  ["if", "for", "while", "class", "struct"].map String.toList

/-- The name of the function defined on a line. -/
def functionName? (line : List Char) : Option (List Char) :=
  functionPatterns.findSome? fun p =>
    match p.search? line with
    | some m => if notFunctions.contains (toLower (m.group 1)) then none else some (m.group 1)
    | none => none

def functions (file : SourceFile) : Except Failure (List Element) :=
  file.eachTrimmed fun index line =>
    if line.isEmpty || isCommentLine line then .ok none
    else
      match functionName? line with
      | some name => some <$> file.blockElement blockLength .function name index decisionCount
      | none => .ok none

/-! ### Classes -/

def classPatterns : List Pattern :=
  [all [lit "class", blanks1, group 1 word,
      opt (all [blanks, lit ":", blanks, many1 fun c => isWord c || isBlank c || c == ',']),
      blanks, lit "\x7b"],
    all [lit "struct", blanks1, group 1 word, blanks, lit "\x7b"],
    all [lit "interface", blanks1, group 1 word, blanks, lit "\x7b"],
    all [lit "enum", blanks1, group 1 word, blanks, lit "\x7b"],
    all [lit "type", blanks1, group 1 word, blanks1, lit "struct", blanks, lit "\x7b"]]

/-- A declared or defined method. -/
def memberPattern : Pattern :=
  all [word, blanks, parentheses, blanks, one fun c => c == '\x7b' || c == ';']

/-- The complexity of a class: the number of its methods, but at least one. -/
def classComplexity (content : List Char) : Nat :=
  max 1 (memberPattern.matchesIn content).length

def classes (file : SourceFile) : Except Failure (List Element) :=
  file.eachTrimmed fun index line =>
    match classPatterns.findSome? (·.search? line) with
    | some m => some <$> file.blockElement blockLength .classDef (m.group 1) index classComplexity
    | none => .ok none

/-! ### Variables and comments -/

def isAssignEnd (c : Char) : Bool := c == '=' || c == ';'

def variablePatterns : List Pattern :=
  [all [any [lit "const", lit "final", lit "static"], blanks1, opt (all [word, blanks1]),
      group 1 capitals, blanks, one isAssignEnd],
    all [any [lit "var", lit "let", lit "const"], blanks1, group 1 word, blanks, lit "="],
    all [any [lit "int", lit "string", lit "bool", lit "float", lit "double"], blanks1, group 1 word,
      blanks, one isAssignEnd],
    all [group 1 word, blanks, lit ":=", blanks],
    all [lit "let", blanks1, group 1 word, blanks, one fun c => c == '=' || c == ':']]

/-- Variables. Names in capitals would be constants, a kind that does not exist. -/
def bindings (file : SourceFile) : Except Failure (List Element) :=
  file.eachTrimmed fun index line =>
    if isCommentLine line then .ok none
    else
      match variablePatterns.findSome? (·.search? line) with
      | none => .ok none
      | some m =>
        if allUpper (m.group 1) then .error (.noConstant "CONSTANT")
        else some <$> file.lineElement .binding (m.group 1) line index

/-- Comments for documentation. -/
def commentPatterns : List Pattern :=
  [all [lit "/**", group 1 (few fun _ => true), lit "*/"],
    all [lit "///", blanks, group 1 (many fun _ => true)],
    all [lit "##", blanks, group 1 (many fun _ => true)]]

/-- The text of a comment worth keeping: one of more than twenty characters. -/
def commentText? (line : List Char) : Option (List Char) :=
  commentPatterns.findSome? fun p =>
    match p.search? line with
    | some m =>
      let text := trim (m.group 1)
      if 20 < text.length then some text else none
    | none => none

def comments (file : SourceFile) : Except Failure (List Element) :=
  file.eachTrimmed fun index line =>
    match commentText? line with
    | some text =>
      some <$> file.lineElement .comment "Documentation comment".toList text index line.length
    | none => .ok none

/-! ### The whole file -/

/-- The elements of a file whose language is known. -/
def elements (options : Options) (language : String) (path : Option String) (content : List Char) :
    Extraction :=
  let file : SourceFile := ⟨options, language, path, lines content⟩
  let (found, failure) := collectGroups
    [imports file, functions file, classes file, bindings file, comments file]
  ⟨found, failure.toList.map (failureEvent path)⟩

end CodeAtlas.Extract.Generic
