import CodeAtlas.Element
import CodeAtlas.Path
import CodeAtlas.Text.Blank
import CodeAtlas.Text.Case
import CodeAtlas.Text.Word

/-!
# Summaries of elements

The text that stands for an element in semantic search: its kind and name, the file, and, depending
on the kind, its description, methods or parameters, followed by a few telling lines.
-/

namespace CodeAtlas.Index

open CodeAtlas.Text

def doubleQuotes : List Char := ['"', '"', '"']
def singleQuotes : List Char := ['\'', '\'', '\'']

/-- Whether a line has triple quotes of either style. -/
def hasQuotes (line : List Char) : Bool :=
  contains doubleQuotes line || contains singleQuotes line

/-- The triple quotes of a line; the double ones are preferred. -/
def quotesOf (line : List Char) : List Char :=
  if contains doubleQuotes line then doubleQuotes else singleQuotes

/-- A part of the description, unless it is empty. -/
def part (cs : List Char) : List (List Char) :=
  if cs.isEmpty then [] else [cs]

/-- The parts of a description on the lines from its first quotes on, up to the next line with
quotes. -/
def descriptionBody : List (List Char) → List (List Char)
  | [] => []
  | line :: rest =>
    if hasQuotes line then
      part (trim (((cut? (quotesOf line) line).map (·.1)).getD line))
    else part line ++ descriptionBody rest

/-- The parts of a description: the text behind the first quotes and what follows. -/
def descriptionParts : List (List Char) → List (List Char)
  | [] => []
  | line :: rest =>
    if hasQuotes line then
      part (trim (((cut? (quotesOf line) line).map (·.2)).getD [])) ++ descriptionBody rest
    else descriptionParts rest

/-- The description of an element: the first quoted text in its content, cut to 150 characters. -/
def description (content : List Char) : List Char :=
  (join [' '] (descriptionParts ((lines content).map trim))).take 150

/-- The name defined on a line, without the words in front of it and what follows the parenthesis. -/
def definedName (line : List Char) : List Char :=
  let head := line.takeWhile (· ≠ '(')
  trim (replace "async ".toList [] (replace "def ".toList [] head))

/-- The public methods defined in a class. -/
def methodNames (content : List Char) : List (List Char) :=
  ((lines content).map trim).filterMap fun line =>
    if "def ".toList.isPrefixOf line || "async def ".toList.isPrefixOf line then
      let name := definedName line
      if name.isEmpty || name.head? = some '_' then none else some name
    else none

/-- The text between the first opening parenthesis and the next closing one. -/
def parameterText? (content : List Char) : Option (List Char) :=
  match content.dropWhile (· ≠ '(') with
  | [] => none
  | _ :: rest => if rest.contains ')' then some (rest.takeWhile (· ≠ ')')) else none

/-- A parameter without its annotation and default. -/
def parameterName (cs : List Char) : List Char :=
  trim ((cs.takeWhile (· ≠ ':')).takeWhile (· ≠ '='))

/-- The parameters of a function other than `self`. -/
def parameterNames (content : List Char) : List (List Char) :=
  match parameterText? content with
  | none => []
  | some text =>
    let inner := trim text
    if inner.isEmpty then []
    else ((pieces ',' inner).map parameterName).filter fun p => !p.isEmpty && p != "self".toList

/-- Words that make a line worth keeping. -/
def tellingWords : List (List Char) :=
  ["def", "class", "return", "if", "for", "while", "try", "except"].map String.toList

/-- Whether a line says something about the code: it is no comment and not very short, and it holds a
telling word or is long enough and has a letter. -/
def isTelling (line : List Char) : Bool :=
  3 ≤ line.length && line.head? != some '#' &&
    (tellingWords.any (fun w => contains w (toLower line)) ||
      (10 < line.length && line.any isLetter))

/-- The first five telling lines. -/
def tellingLines (content : List Char) : List Char :=
  join [' '] ((((lines content).map trim).filter isTelling).take 5)

/-- The text that stands for an element in semantic search. -/
def summary (e : Element) : String :=
  let content := e.content.toList
  let opening := e.kind.label.toList ++ ' ' :: e.name.toList
  let place := "in ".toList ++ (Path.ofString e.filePath).stem
  let described :=
    let text := description content
    if text.isEmpty then [] else ["description: ".toList ++ text]
  let labelled := fun (label : String) (items : List (List Char)) (count : Nat) =>
    if items.isEmpty then [] else [label.toList ++ join ", ".toList (items.take count)]
  let parts := match e.kind with
    | .classDef =>
      opening :: place :: described ++ labelled "methods: " (methodNames content) 5
    | .method | .function =>
      opening :: place :: described ++ labelled "parameters: " (parameterNames content) 3
    | .importing => ["import statement: ".toList ++ e.name.toList]
    | _ => [opening, place]
  String.ofList (join [' '] (parts ++ part ((tellingLines content).take 200)))

end CodeAtlas.Index
