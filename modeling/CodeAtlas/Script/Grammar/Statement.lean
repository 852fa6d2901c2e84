import CodeAtlas.Failure
import CodeAtlas.Script.Depth
import CodeAtlas.Script.Grammar.Pattern

/-!
# Statements

Simple statements share a line, separated by semicolons; compound statements have blocks. A statement
spans from its first token to its last one; decorators stand in front of the definition they belong
to and are not part of its span.
-/

namespace CodeAtlas.Script

open Reader

/-- Finishes a statement that started at `start`. -/
def finish (start : Position) (s : Statement) (children : List Node) : Reader Node := do
  return .mk (.statement s (← spanFrom start)) children

/-! ### Assignments and expressions -/

/-- What may stand on the right of an assignment. -/
def assigned (rules : Rules) : Reader Node := do
  if ← atWord "yield" then yieldExpression rules else one (rules .starExpressions)

/-- The operators that update a place. -/
def updates : List String :=
  ["+=", "-=", "*=", "@=", "/=", "%=", "&=", "|=", "^=", "<<=", ">>=", "**=", "//="]

/-- A target of an assignment; a lone starred one is accepted. -/
def isAssignable (n : Node) : Bool :=
  areTargets [n]

/-- The further sides of a chain of assignments: targets, and the value last. -/
def assignmentSides (rules : Rules) : Nat → Node → Reader (List Node)
  | 0, _ => failure
  | fuel + 1, left => do
    if ← takeOp "=" then
      guardThat (isAssignable left)
      let right ← assigned rules
      return left :: (← assignmentSides rules fuel right)
    else return [left]

/-- A statement that starts with an expression: an annotation, an update, an assignment, or just the
expression. -/
def expressionStatement (rules : Rules) (start : Position) : Reader Node := do
  let first ← assigned rules
  if ← takeOp ":" then
    guardThat (isPlace first)
    let annotation ← one (rules .expression)
    let value ← if ← takeOp "=" then some <$> assigned rules else pure none
    finish start .annotate (first :: annotation :: value.toList)
  else if ← atOp "=" then
    finish start .assign (← assignmentSides rules (← limit) first)
  else
    match ← peek with
    | .op s =>
      if updates.contains s then
        guardThat (isPlace first)
        let _ ← next
        let value ← assigned rules
        finish start (.update s) [first, value]
      else finish start .expression [first]
    | _ => finish start .expression [first]

/-! ### Imports -/

/-- A module's name with its dots. -/
def moduleName : Reader String := do
  let first ← name
  let more ← many (do op "."; name)
  return ".".intercalate (first :: more)

/-- The name given to an import, if any. -/
def asName : Reader (Option String) := do
  if ← takeWord "as" then some <$> name else return none

/-- Imports of whole modules. -/
def importModules (start : Position) : Reader Node := do
  let names ← commaSeparated (do
    let n ← moduleName
    return (⟨n, ← asName⟩ : Alias))
  finish start (.importModules names) []

/-- One name imported from a module. -/
def importedName : Reader Alias := do
  let n ← name
  return ⟨n, ← asName⟩

/-- The names imported from a module: all, a list in parentheses, or a list without. -/
def importedNames : Reader (List Alias) := do
  if ← takeOp "*" then return [⟨"*", none⟩]
  else if ← takeOp "(" then
    let (names, _) ← commaList importedName
    op ")"
    return names
  else
    let names ← commaSeparated importedName
    guardThat !(← atOp ",")
    return names

/-- The dots in front of a relative import. -/
def leadingDots : Reader Nat := do
  return (← many (do
    match ← next with
    | .op "." => return ["."]
    | .op "..." => return [".", ".", "."]
    | _ => failure)).flatten.length

/-- Imports of names from a module; without a module there is at least one dot. -/
def importFrom (start : Position) : Reader Node := do
  let dots ← leadingDots
  let source ← if ← atWord "import" then pure none else some <$> moduleName
  guardThat (source.isSome || dots != 0)
  word "import"
  let names ← importedNames
  finish start (.importFrom source names) []

/-! ### Simple statements -/

/-- Targets of a deletion. -/
def deletion (rules : Rules) (start : Position) : Reader Node := do
  let (targets, _) ← commaList (one (rules .primary))
  guardThat (areDeletable targets)
  match ← peek with
  | .op ";" | .newline => finish start .deletes targets
  | _ => failure

/-- An exception to raise, possibly with a cause. -/
def raising (rules : Rules) (start : Position) : Reader Node := do
  match ← attempt (one (rules .expression)) with
  | none => finish start .raises []
  | some e =>
    let cause ← if ← takeWord "from" then some <$> one (rules .expression) else pure none
    finish start .raises (e :: cause.toList)

/-- A statement that fits on a line. -/
def simpleStatement (rules : Rules) : Reader Node := do
  let start ← here
  match ← peek with
  | .keyword w =>
    let after {α : Type} (p : Reader α) : Reader α := do
      let _ ← next
      p
    if w = "return" then
      after do finish start .returns (← attempt (one (rules .starExpressions))).toList
    else if w = "import" then after (importModules start)
    else if w = "from" then after (importFrom start)
    else if w = "raise" then after (raising rules start)
    else if w = "pass" then after (finish start .pass [])
    else if w = "del" then after (deletion rules start)
    else if w = "assert" then
      after do
        let test ← one (rules .expression)
        let message ← if ← takeOp "," then some <$> one (rules .expression) else pure none
        finish start .asserts (test :: message.toList)
    else if w = "break" then after (finish start .breaks [])
    else if w = "continue" then after (finish start .continues [])
    else if w = "global" then after do finish start (.globals (← commaSeparated name)) []
    else if w = "nonlocal" then after do finish start (.nonlocals (← commaSeparated name)) []
    else if w = "yield" then
      let e ← yieldExpression rules
      finish start .expression [e]
    else expressionStatement rules start
  | _ => expressionStatement rules start

/-- The simple statements of a line. -/
def simpleStatements (rules : Rules) : Reader (List Node) := do
  let first ← simpleStatement rules
  let more ← many (do op ";"; simpleStatement rules)
  let _ ← takeOp ";"
  expect .newline
  return first :: more

/-! ### Compound statements -/

/-- A block: indented statements, or simple statements on the same line. -/
def block (rules : Rules) : Reader (List Node) := do
  if (← peek) = .newline then
    let _ ← next
    expect .indent
    let statements ← many1 (rules .statement)
    expect .dedent
    return statements.flatten
  else simpleStatements rules

/-- A colon and a block. -/
def suite (rules : Rules) : Reader (List Node) := do
  op ":"
  rules .block

/-- An `else` block, if there is one. -/
def elseBlock (rules : Rules) : Reader (List Node) := do
  if ← takeWord "else" then within 1 (suite rules) else return []

/-- A branch behind its keyword; a further branch is nested in it. -/
def branch (rules : Rules) : Nat → Position → Reader Node
  | 0, _ => failure
  | fuel + 1, start => do
    let test ← one (rules .namedExpression)
    let body ← suite rules
    let inner ← here
    if ← takeWord "elif" then
      let other ← within 1 (branch rules fuel inner)
      finish start .branch (test :: body ++ [other])
    else
      let other ← elseBlock rules
      finish start .branch (test :: body ++ other)

/-- A conditional loop behind its keyword. -/
def whileLoop (rules : Rules) (start : Position) : Reader Node := do
  let test ← one (rules .namedExpression)
  let body ← suite rules
  let other ← elseBlock rules
  finish start .whileLoop (test :: body ++ other)

/-- A loop over items behind its keyword. -/
def forLoop (rules : Rules) (isAsync : Bool) (start : Position) : Reader Node := do
  let target ← starTargets rules
  word "in"
  let source ← one (rules .starExpressions)
  let body ← suite rules
  let other ← elseBlock rules
  finish start (.forLoop isAsync) (target :: source :: body ++ other)

/-- One item of a context, possibly with a target for its value. -/
def contextItem (rules : Rules) : Reader Node := do
  let e ← one (rules .expression)
  if ← takeWord "as" then
    let target ← starTarget rules
    match ← peek with
    | .op s => guardThat (s = "," || s = ")" || s = ":")
    | _ => failure
    return .mk (.part .contextItem) [e, target]
  else return .mk (.part .contextItem) [e]

/-- The items of a context: in parentheses if that fits, without otherwise. -/
def contextItems (rules : Rules) : Reader (List Node) := do
  let inParentheses : Reader (List Node) := do
    op "("
    let (items, _) ← commaList (contextItem rules)
    op ")"
    guardThat (← atOp ":")
    return items
  match ← attempt inParentheses with
  | some items => return items
  | none => commaSeparated (contextItem rules)

/-- A context behind its keyword. -/
def context (rules : Rules) (isAsync : Bool) (start : Position) : Reader Node := do
  let items ← contextItems rules
  let body ← suite rules
  finish start (.context isAsync) (items ++ body)

/-- A handler of exceptions. -/
def handler (rules : Rules) (groups : Bool) : Reader Node := do
  word "except"
  if groups then op "*"
  if !groups && (← atOp ":") then return .mk (.part (.handler none)) (← within 2 (suite rules))
  else
    let e ← one (rules .expression)
    let n ← asName
    return .mk (.part (.handler n)) (e :: (← within 2 (suite rules)))

/-- A block with handlers, or with a final block, behind its keyword. -/
def attemptBlock (rules : Rules) (start : Position) : Reader Node := do
  let body ← suite rules
  let groups := (← peekSecond) = .op "*"
  let handlers ← many (handler rules groups)
  let other ← if handlers.isEmpty then pure [] else elseBlock rules
  let final ← if ← takeWord "finally" then some <$> within 1 (suite rules) else pure none
  guardThat (!handlers.isEmpty || final.isSome)
  finish start (.attempt groups) (body ++ handlers ++ other ++ final.getD [])

/-- A case of a selection. -/
def matchCase (rules : Rules) : Reader Node := do
  match ← next with
  | .name "case" _ => pure ()
  | _ => failure
  let p ← casePattern rules
  let condition ← if ← takeWord "if" then some <$> one (rules .namedExpression) else pure none
  let body ← within 2 (suite rules)
  return .mk (.part .matchCase) (p :: condition.toList ++ body)

/-- The value that a selection looks at. -/
def subject (rules : Rules) : Reader Node := do
  let (items, trailing) ← commaList (starNamedExpression rules)
  match items, trailing with
  | [e], false =>
    guardThat !(isStarred e)
    return e
  | _, _ => return .expr .tuple items

/-- A selection among cases. -/
def selection (rules : Rules) : Reader Node := do
  let start ← here
  let _ ← next
  let value ← subject rules
  op ":"
  expect .newline
  expect .indent
  let cases ← many1 (matchCase rules)
  expect .dedent
  finish start .select (value :: cases)

/-- A function behind its keyword. -/
def functionDef (rules : Rules) (isAsync : Bool) (decorators : List Node) (start : Position) :
    Reader Node := do
  let n ← identifier
  op "("
  let ps ← parameters rules true ")"
  op ")"
  let result ← if ← takeOp "->" then some <$> one (rules .expression) else pure none
  let body ← within 1 (suite rules)
  finish start (.functionDef n isAsync) (ps :: body ++ decorators ++ result.toList)

/-- A class behind its keyword. -/
def classDef (rules : Rules) (decorators : List Node) (start : Position) : Reader Node := do
  let n ← identifier
  let bases ← if ← takeOp "(" then arguments rules false else pure []
  let body ← within 1 (suite rules)
  finish start (.classDef n) (bases ++ body ++ decorators)

/-- The expressions that decorate a definition. -/
def decorators (rules : Rules) : Reader (List Node) :=
  many1 (do
    op "@"
    let e ← one (rules .namedExpression)
    expect .newline
    return e)

/-- A definition behind its decorators. -/
def definition (rules : Rules) (decorators : List Node) : Reader Node := do
  let start ← here
  if ← takeWord "class" then classDef rules decorators start
  else
    let isAsync ← takeWord "async"
    word "def"
    functionDef rules isAsync decorators start

/-- An asynchronous function, loop or context. -/
def asynchronous (rules : Rules) (start : Position) : Reader Node := do
  if ← takeWord "def" then functionDef rules true [] start
  else if ← takeWord "for" then forLoop rules true start
  else
    word "with"
    context rules true start

/-- One compound statement, or the simple statements of a line. -/
def statement (rules : Rules) : Reader (List Node) := do
  let start ← here
  match ← peek with
  | .keyword w =>
    let compound (p : Reader Node) : Reader (List Node) := do
      let _ ← next
      return [← p]
    if w = "def" then compound (functionDef rules false [] start)
    else if w = "class" then compound (classDef rules [] start)
    else if w = "if" then compound do branch rules (← limit) start
    else if w = "while" then compound (whileLoop rules start)
    else if w = "for" then compound (forLoop rules false start)
    else if w = "with" then compound (context rules false start)
    else if w = "try" then compound (attemptBlock rules start)
    else if w = "async" then compound (asynchronous rules start)
    else simpleStatements rules
  | .op "@" =>
    let ds ← decorators rules
    return [← definition rules ds]
  | .name "match" _ =>
    match ← attempt (selection rules) with
    | some s => return [s]
    | none => simpleStatements rules
  | _ => simpleStatements rules

/-! ### The whole grammar -/

/-- One layer of the table of rules, given the table for what it contains. -/
def layer (rules : Rules) : Rules
  | .expression => (fun n => [n]) <$> expression rules
  | .namedExpression => (fun n => [n]) <$> namedExpression rules
  | .starExpressions => (fun n => [n]) <$> starExpressions rules
  | .disjunction => (fun n => [n]) <$> disjunction rules
  | .inversion => (fun n => [n]) <$> inversion rules
  | .bitwiseOr => (fun n => [n]) <$> binary rules binaryLevels
  | .factor => (fun n => [n]) <$> factor rules (power rules)
  | .primary => (fun n => [n]) <$> primary rules
  | .pattern => (fun n => [n]) <$> pattern rules
  | .block => block rules
  | .statement => statement rules
  | .embedded source => (fun n => [n]) <$> embedded rules source

/-- The rules for texts in which nothing is nested deeper than `depth`. -/
def grammar : Nat → Rules
  | 0, _ => failure
  | depth + 1, rule => within rule.weight (layer (grammar depth) rule)

/-- Reads all statements up to the end of the text. -/
def readModule (rules : Rules) : Reader Node := do
  let statements ← many (rules .statement)
  expect .finish
  return .mk .module statements.flatten

/-- The syntax tree of a script, if its text is well formed, and the greatest number of rules around a
part of it; three of them lie around every statement. A text has at most two tokens for each character,
and nesting takes at least one token for each handful of rules. -/
def readTree? (source : List Char) : Option (Node × Nat) :=
  match lex source with
  | none => none
  | some tokens =>
    let limit := 16 * (source.length + 8)
    ((readModule (grammar limit)).run ⟨tokens, ⟨1, 0⟩, limit, 3, 3⟩).map fun r => (r.1, r.2.deepest)

/-- The syntax tree of a script. It fails if the text is not well formed, or if there is no room to
read or to keep the tree. -/
def parse (source : List Char) : Except Failure Node :=
  match readTree? source with
  | none => .error .malformed
  | some (tree, deepest) =>
    if maxLevel < deepest then .error .noRoom
    else if !tree.isKeepable then .error .deepTree
    else .ok tree

end CodeAtlas.Script
