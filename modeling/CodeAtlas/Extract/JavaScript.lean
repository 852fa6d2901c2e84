import CodeAtlas.Extract.Lines
import CodeAtlas.Text.Pattern

/-!
# Elements of JavaScript files

Imports, exports, classes, functions and variables, each found line by line with patterns. Classes and
functions reach to the end of their block.
-/

namespace CodeAtlas.Extract.JavaScript

open CodeAtlas.Text CodeAtlas.Text.Pattern

def language : String := "javascript"

/-- How many more lines a block without end is taken to have. -/
def blockLength : Nat := 10

/-- A text between quotes, as few characters as possible, remembered as a group. -/
def quotedGroup (n : Nat) : Pattern :=
  all [one isQuote, group n (few1 inLine), one isQuote]

/-! ### Imports and exports -/

/-- The ways to import, with whether they name what is imported. -/
def importPatterns : List (Pattern × Bool) :=
  [(all [lit "import", blanks1, group 1 (few1 inLine), blanks1, lit "from", blanks1, quotedGroup 2],
      true),
    (all [lit "import", blanks1, quotedGroup 1], false),
    (all [lit "const", blanks1, group 1 (few1 inLine), blanks, lit "=", blanks, lit "require(",
      quotedGroup 2, lit ")"], true),
    (all [lit "import", blanks, lit "(", blanks, quotedGroup 1, blanks, lit ")"], false)]

/-- The name of an import found in a line. -/
def importName? (line : List Char) : Option (List Char) :=
  importPatterns.findSome? fun (p, named) =>
    (p.search? line).map fun m =>
      if named then
        "import ".toList ++ trim (m.group 1) ++ " from '".toList ++ trim (m.group 2) ++ ['\'']
      else "import '".toList ++ trim (m.group 1) ++ ['\'']

/-- The name of an export found in a line. -/
def exportName? (line : List Char) : Option (List Char) :=
  let default := (all [lit "export", blanks1, lit "default", blanks1, group 1 (many1 inLine)]).search?
    line
  let listed := (all [lit "export", blanks1, lit "\x7b", group 1 (few1 inLine), lit "\x7d"]).search?
    line
  let declared := (all [lit "export", blanks1,
    group 1 (any [lit "const", lit "let", lit "var", lit "function", lit "class"]), blanks1,
    group 2 word]).search? line
  match default, listed, declared with
  | some m, _, _ => some ("default export: ".toList ++ trim (m.group 1))
  | none, some m, _ => some ("export \x7b".toList ++ trim (m.group 1) ++ ['\x7d'])
  | none, none, some m => some ("export ".toList ++ m.group 1 ++ ' ' :: m.group 2)
  | none, none, none => none

def imports (file : SourceFile) : Except Failure (List Element) :=
  file.eachTrimmed fun index line =>
    match importName? line with
    | some name => some <$> file.lineElement .importing name line index
    | none => .ok none

def exports (file : SourceFile) : Except Failure (List Element) :=
  file.eachTrimmed fun index line =>
    match exportName? line with
    | some name => some <$> file.lineElement .importing name line index
    | none => .ok none

/-! ### Classes and functions -/

/-- A class with an optional base. -/
def classPattern : Pattern :=
  all [lit "class", blanks1, group 1 word,
    opt (all [blanks1, lit "extends", blanks1, group 2 word]), blanks, lit "\x7b"]

/-- A method with its opening brace. -/
def methodPattern : Pattern :=
  all [edge, word, blanks, parentheses, blanks, lit "\x7b"]

/-- The complexity of a class: the number of its methods, but at least one. -/
def classComplexity (content : List Char) : Nat :=
  max 1 (methodPattern.matchesIn content).length

/-- What happens to a class with a base: a link to the base cannot be kept. -/
def linkBase (options : Options) : Failure :=
  if options.linking then .noMember "dict" "append"
  else .noMember "JavaScriptParser" "create_relationship"

def classes (file : SourceFile) : Except Failure (List Element) :=
  file.eachLine fun index line =>
    match classPattern.search? line with
    | none => .ok none
    | some m => do
      let element ← file.blockElement blockLength .classDef (m.group 1) index classComplexity
      if (m.group? 2).isSome then .error (linkBase file.options) else return some element

/-- The ways to define a function. -/
def functionPatterns : List Pattern :=
  [all [lit "function", blanks1, group 1 word, blanks, parentheses, blanks, lit "\x7b"],
    all [group 1 word, blanks, lit ":", blanks, lit "function", blanks, parentheses, blanks,
      lit "\x7b"],
    all [group 1 word, blanks, lit ":", blanks, parentheses, blanks, lit "=>", blanks, lit "\x7b"],
    all [lit "const", blanks1, group 1 word, blanks, lit "=", blanks, parentheses, blanks, lit "=>",
      blanks, lit "\x7b"],
    all [group 1 word, blanks, parentheses, blanks, lit "\x7b"]]

/-- The patterns that count for the complexity of a function. -/
def decisionPatterns : List Pattern :=
  ["if", "else", "for", "while", "do", "switch", "case", "try", "catch"].map
      (fun w => all [edge, anyCase w, edge]) ++
    [all [edge, lit "?", blanks, lit ":"], all [edge, lit "&&", edge], all [edge, lit "||", edge]]

/-- The complexity of a function: one more than the number of its decisions. -/
def complexity (content : List Char) : Nat :=
  1 + (decisionPatterns.flatMap fun p => p.matchesIn content).length

def functions (file : SourceFile) : Except Failure (List Element) :=
  file.eachLine fun index line =>
    if contains "class".toList line then .ok none
    else
      match functionPatterns.findSome? (·.search? line) with
      | some m => some <$> file.blockElement blockLength .function (m.group 1) index complexity
      | none => .ok none

/-! ### Variables -/

/-- A constant by the style of its name. -/
def constantPattern : Pattern :=
  all [lit "const", blanks1, group 1 capitals, blanks, lit "="]

/-- A declared name with a value. -/
def variablePattern : Pattern :=
  all [any [lit "const", lit "let", lit "var"], blanks1, group 2 word, blanks, lit "="]

/-- Variables. Names in capitals would be constants, a kind that does not exist. -/
def bindings (file : SourceFile) : Except Failure (List Element) :=
  file.eachTrimmed fun index line =>
    if (constantPattern.search? line).isSome then .error (.noConstant "CONSTANT")
    else
      match variablePattern.search? line with
      | none => .ok none
      | some m =>
        if allUpper (m.group 2) then .error (.noConstant "CONSTANT")
        else some <$> file.lineElement .binding (m.group 2) line index

/-! ### The whole file -/

/-- The elements of a file. -/
def elements (options : Options) (path : Option String) (content : List Char) : Extraction :=
  let file : SourceFile := ⟨options, language, path, lines content⟩
  let (found, failure) := collectGroups
    [imports file, exports file, classes file, functions file, bindings file]
  ⟨found, failure.toList.map (failureEvent path)⟩

/-- The words that the language reserves. -/
def keywords : List String :=
  ["break", "case", "catch", "class", "const", "continue", "debugger", "default", "delete", "do",
    "else", "export", "extends", "finally", "for", "function", "if", "import", "in", "instanceof",
    "let", "new", "return", "super", "switch", "this", "throw", "try", "typeof", "var", "void",
    "while", "with", "yield", "async", "await", "of"]

end CodeAtlas.Extract.JavaScript
