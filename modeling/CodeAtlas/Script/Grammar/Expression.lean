import CodeAtlas.Script.Grammar.Embedded
import CodeAtlas.Script.Lexer

/-!
# Expressions

Operators from the loosest to the tightest: the conditional, `or`, `and`, `not`, comparisons, the
binary operators level by level, the signs, the power, `await`, and the calls, subscripts and
attributes of a primary expression. A target is an expression that can be assigned to.
-/

namespace CodeAtlas.Script

open Reader

/-! ### Targets -/

mutual

/-- An expression that can be assigned to: a name, a place in another value, or a sequence of
these. -/
def isTarget : Node → Bool
  | .mk (.expression (.name _)) _ => true
  | .mk (.expression (.attribute _)) _ => true
  | .mk (.expression .subscript) _ => true
  | .mk (.expression .tuple) cs => areTargets cs
  | .mk (.expression .list) cs => areTargets cs
  | _ => false

/-- Targets of which some may collect the rest of a sequence. -/
def areTargets : List Node → Bool
  | [] => true
  | .mk (.expression .starred) [c] :: cs => isTarget c && areTargets cs
  | c :: cs => isTarget c && areTargets cs

end

mutual

/-- An expression that can be deleted. -/
def isDeletable : Node → Bool
  | .mk (.expression (.name _)) _ => true
  | .mk (.expression (.attribute _)) _ => true
  | .mk (.expression .subscript) _ => true
  | .mk (.expression .tuple) cs => areDeletable cs
  | .mk (.expression .list) cs => areDeletable cs
  | _ => false

def areDeletable : List Node → Bool
  | [] => true
  | c :: cs => isDeletable c && areDeletable cs

end

/-- A single place: what an annotation or an update can have on its left. -/
def isPlace (n : Node) : Bool :=
  match n.kind with
  | .expression (.name _) | .expression (.attribute _) | .expression .subscript => true
  | _ => false

def isStarred (n : Node) : Bool :=
  match n.kind with
  | .expression .starred => true
  | _ => false

/-- A name, an attribute or the like as the target of a loop or a context: a primary expression, with
a star if it collects the rest. -/
def starTarget (rules : Rules) : Reader Node := do
  if ← takeOp "*" then
    let t ← one (rules .primary)
    guardThat (isTarget t)
    return .expr .starred [t]
  else
    let t ← one (rules .primary)
    guardThat (isTarget t)
    return t

/-- The targets of a loop; with a comma they form a tuple. -/
def starTargets (rules : Rules) : Reader Node := do
  let (items, trailing) ← commaList (starTarget rules)
  match items, trailing with
  | [t], false => return t
  | _, _ => return .expr .tuple items

/-! ### Lists of expressions -/

/-- A starred operand or an expression. -/
def starExpression (rules : Rules) : Reader Node := do
  if ← takeOp "*" then return .expr .starred [← one (rules .bitwiseOr)]
  else one (rules .expression)

/-- One expression, or several with commas as a tuple. -/
def starExpressions (rules : Rules) : Reader Node := do
  let (items, trailing) ← commaList (starExpression rules) 2
  match items, trailing with
  | [e], false => return e
  | _, _ => return .expr .tuple items

/-- Whether a name and `:=` come next. -/
def atBinding : Reader Bool := do
  match ← peek, ← peekSecond with
  | .name _ _, .op ":=" => return true
  | _, _ => return false

/-- An expression, or a name bound to one. -/
def namedExpression (rules : Rules) : Reader Node := do
  if ← atBinding then
    let n ← name
    op ":="
    return .expr .named [.expr (.name n) [], ← within 1 (one (rules .expression))]
  else
    let e ← one (rules .expression)
    guardThat !(← atOp ":=")
    return e

/-- A starred operand, or an expression that may bind a name. -/
def starNamedExpression (rules : Rules) : Reader Node := do
  if ← takeOp "*" then return .expr .starred [← one (rules .bitwiseOr)]
  else one (rules .namedExpression)

/-- A value handed out by a generator. -/
def yieldExpression (rules : Rules) : Reader Node := do
  word "yield"
  if ← takeWord "from" then return .expr .yieldFrom [← one (rules .expression)]
  else
    let value ← attempt (one (rules .starExpressions))
    return .expr .yield value.toList

/-! ### Operators -/

/-- The binary operators, from the loosest level to the tightest. -/
def binaryLevels : List (List String) :=
  [["|"], ["^"], ["&"], ["<<", ">>"], ["+", "-"], ["*", "/", "//", "%", "@"]]

/-- Reads one of the given operators. -/
def oneOf (symbols : List String) : Reader String := do
  match ← next with
  | .op s => if symbols.contains s then return s else failure
  | _ => failure

/-- Left-associative operators, level by level. -/
def binary (rules : Rules) : List (List String) → Reader Node
  | [] => one (rules .factor)
  | symbols :: tighter => do
    let first ← binary rules tighter
    let more ← many (do
      let s ← oneOf symbols
      return (s, ← binary rules tighter))
    return more.foldl (fun left (s, right) => .expr (.binary s) [left, right]) first

/-- A sign in front of an operand, or a power. -/
def factor (rules : Rules) (power : Reader Node) : Reader Node := do
  match ← peek with
  | .op s =>
    if s = "+" ∨ s = "-" ∨ s = "~" then
      let _ ← next
      return .expr (.unary s) [← one (rules .factor)]
    else power
  | _ => power

/-- A comparison operator, which may be made of two words. -/
def comparisonOp : Reader String := do
  match ← next with
  | .op s =>
    if ["==", "!=", "<=", "<", ">=", ">"].contains s then return s else failure
  | .keyword "in" => return "in"
  | .keyword "not" => word "in"; return "not in"
  | .keyword "is" => if ← takeWord "not" then return "is not" else return "is"
  | _ => failure

/-- A chain of comparisons. -/
def comparison (rules : Rules) : Reader Node := do
  let first ← one (rules .bitwiseOr)
  let more ← many (do
    let s ← comparisonOp
    return (s, ← within 3 (one (rules .bitwiseOr))))
  if more.isEmpty then return first
  else return .expr (.compare (more.map (·.1))) (first :: more.map (·.2))

/-- A negation or a comparison. -/
def inversion (rules : Rules) : Reader Node := do
  if ← takeWord "not" then return .expr (.unary "not") [← one (rules .inversion)]
  else comparison rules

/-- Operands joined by one of the two logical operators. -/
def logicalChain (operand : Reader Node) (w : String) (which : Logical) : Reader Node := do
  let first ← operand
  let more ← many (do word w; within 2 operand)
  if more.isEmpty then return first
  else return .expr .logical (.mk (.part (.operator which)) [] :: first :: more)

/-- Alternatives of conjunctions. -/
def disjunction (rules : Rules) : Reader Node :=
  logicalChain (logicalChain (inversion rules) "and" .and) "or" .or

/-! ### Parameters -/

/-- The parameters read so far. -/
structure Parameters where
  positional : List Node := []
  plain : List Node := []
  defaults : List Node := []
  rest : Option Node := none
  namedOnly : List Node := []
  namedDefaults : List (Option Node) := []
  keywordRest : Option Node := none
  /-- A slash was read. -/
  slashed : Bool := false
  /-- A star was read, so that only named parameters follow. -/
  starred : Bool := false
  /-- A bare star waits for a named parameter. -/
  waiting : Bool := false

/-- The node of all parameters. -/
def Parameters.node (p : Parameters) : Node :=
  let named := p.namedDefaults.map Option.isSome
  .mk (.part (.parameters p.positional.length p.plain.length p.rest.isSome named
      p.keywordRest.isSome))
    (p.positional ++ p.plain ++ p.rest.toList ++ p.namedOnly ++
      p.namedDefaults.filterMap id ++ p.keywordRest.toList ++ p.defaults)

/-- A parameter's name, with its annotation where annotations are allowed. The rest parameter's
annotation may be starred. -/
def parameter (rules : Rules) (annotated collects : Bool) : Reader Node := do
  let n ← name
  let marked ← if annotated then takeOp ":" else pure false
  if marked then
    let a ← if collects then starExpression rules else one (rules .expression)
    return .mk (.part (.parameter n)) [a]
  else return .mk (.part (.parameter n)) []

/-- The separator behind a parameter: a comma, unless the list ends. -/
def parameterEnd (closer : String) : Reader Unit := do
  if ← atOp closer then pure () else op ","

/-- Reads the next item of a parameter list. -/
def parameterItem (rules : Rules) (annotated : Bool) (closer : String) (p : Parameters) :
    Reader Parameters := do
  guardThat p.keywordRest.isNone
  if ← takeOp "/" then
    guardThat (!p.slashed && !p.starred && !p.plain.isEmpty)
    parameterEnd closer
    return { p with positional := p.plain, plain := [], slashed := true }
  else if ← takeOp "**" then
    guardThat !p.waiting
    let n ← parameter rules annotated false
    parameterEnd closer
    return { p with keywordRest := some n }
  else if ← takeOp "*" then
    guardThat !p.starred
    if ← takeOp "," then return { p with starred := true, waiting := true }
    else
      let n ← parameter rules annotated true
      parameterEnd closer
      return { p with starred := true, rest := some n }
  else
    let n ← parameter rules annotated false
    let value ← if ← takeOp "=" then some <$> within 7 (one (rules .expression)) else pure none
    parameterEnd closer
    if p.starred then
      return { p with
        namedOnly := p.namedOnly ++ [n], namedDefaults := p.namedDefaults ++ [value], waiting := false }
    else
      guardThat (value.isSome || p.defaults.isEmpty)
      return { p with plain := p.plain ++ [n], defaults := p.defaults ++ value.toList }

/-- Reads items until the list ends. -/
def parameterItems (rules : Rules) (annotated : Bool) (closer : String) :
    Nat → Parameters → Reader Parameters
  | 0, _ => failure
  | fuel + 1, p => do
    if ← atOp closer then
      guardThat !p.waiting
      return p
    else parameterItems rules annotated closer fuel (← parameterItem rules annotated closer p)

/-- The parameters of a function, up to the operator that ends them. -/
def parameters (rules : Rules) (annotated : Bool) (closer : String) : Reader Node := do
  return (← parameterItems rules annotated closer (← limit) {}).node

/-- A function without a name. -/
def lambda (rules : Rules) : Reader Node := do
  word "lambda"
  let ps ← parameters rules false ":"
  op ":"
  return .expr .lambda [ps, ← within 1 (one (rules .expression))]

/-- An expression: a conditional, a disjunction or a function without a name. -/
def expression (rules : Rules) : Reader Node := do
  if ← atWord "lambda" then lambda rules
  else
    let value ← one (rules .disjunction)
    if ← takeWord "if" then
      let test ← one (rules .disjunction)
      word "else"
      return .expr .conditional [test, value, ← one (rules .expression)]
    else return value

/-! ### Comprehensions -/

/-- One `for` clause with its conditions. -/
def clause (rules : Rules) : Reader Node := do
  let isAsync ← takeWord "async"
  word "for"
  let target ← starTargets rules
  word "in"
  let source ← within 1 (one (rules .disjunction))
  let conditions ← many (do word "if"; within 3 (one (rules .disjunction)))
  return .mk (.part (.clause isAsync conditions.length)) (target :: source :: conditions)

/-- Whether a `for` clause comes next. -/
def atClause : Reader Bool := do
  match ← peek, ← peekSecond with
  | .keyword "for", _ => return true
  | .keyword "async", .keyword "for" => return true
  | _, _ => return false

/-- The clauses of a comprehension. -/
def clauses (rules : Rules) : Reader (List Node) :=
  many1 (clause rules)

/-! ### Calls and subscripts -/

/-- The arguments read so far: positional ones, named ones, and whether a keyword or a spread
dictionary was among them. -/
structure Arguments where
  values : List Node := []
  keywords : List Node := []
  spread : Bool := false

/-- One argument. Behind a named argument no plain value may follow, behind a spread dictionary no
spread sequence either. -/
def argument (rules : Rules) (a : Arguments) : Reader Arguments := do
  if ← takeOp "*" then
    guardThat !a.spread
    let e ← within 4 (one (rules .expression))
    return { a with values := a.values ++ [.expr .starred [e]] }
  else if ← takeOp "**" then
    let e ← within 4 (one (rules .expression))
    return { a with keywords := a.keywords ++ [.mk (.part (.keyword none)) [e]], spread := true }
  else
    match ← peek, ← peekSecond with
    | .name _ n, .op "=" =>
      let _ ← next
      let _ ← next
      let e ← within 4 (one (rules .expression))
      return { a with keywords := a.keywords ++ [.mk (.part (.keyword (some n.text))) [e]] }
    | _, _ =>
      guardThat a.keywords.isEmpty
      -- The first value is read as that of a generator, which lies inside fewer rules.
      let e ← within (if a.values.isEmpty then 0 else 3) (one (rules .namedExpression))
      return { a with values := a.values ++ [e] }

/-- The arguments behind `a`, up to the closing parenthesis, which is not read. -/
def argumentsFrom (rules : Rules) : Nat → Arguments → Reader Arguments
  | 0, _ => failure
  | fuel + 1, a => do
    if ← takeOp "," then
      if ← atOp ")" then return a else argumentsFrom rules fuel (← within 1 (argument rules a))
    else return a

/-- The arguments of a call or a class, between parentheses of which the first was read. A call may
have a single generator without parentheses of its own. -/
def arguments (rules : Rules) (generators : Bool) : Reader (List Node) := do
  if ← takeOp ")" then return []
  else
    let a ← argument rules {}
    match generators && (← atClause), a.values, a.keywords with
    | true, [e], [] =>
      guardThat !(isStarred e)
      let cs ← within 2 (clauses rules)
      op ")"
      return [.expr .generator (e :: cs)]
    | _, _, _ =>
      let a ← argumentsFrom rules (← limit) a
      op ")"
      return a.values ++ a.keywords

/-- The end of a slice behind its first part. -/
def sliceTail (rules : Rules) (lower : Option Node) : Reader Node := do
  op ":"
  let upper ← attempt (one (rules .expression))
  let step ← if ← takeOp ":" then attempt (within 1 (one (rules .expression))) else pure none
  return .expr (.slice lower.isSome upper.isSome step.isSome)
    (lower.toList ++ upper.toList ++ step.toList)

/-- A slice or a single index. -/
def sliceItem (rules : Rules) : Reader Node := do
  if ← atOp ":" then sliceTail rules none
  else if ← atBinding then one (rules .namedExpression)
  else
    let e ← one (rules .expression)
    if ← atOp ":" then sliceTail rules (some e)
    else
      guardThat !(← atOp ":=")
      return e

/-- What stands between the brackets of a subscript: one index, or several as a tuple. -/
def slices (rules : Rules) : Reader Node := do
  let (items, trailing) ← commaList (do
    if ← takeOp "*" then return .expr .starred [← within 2 (one (rules .expression))]
    else sliceItem rules) 3
  match items, trailing with
  | [e], false => if isStarred e then return .expr .tuple [e] else return e
  | _, _ => return .expr .tuple items

/-- One attribute, call or subscript behind a value. -/
def trailer (rules : Rules) (value : Node) : Reader Node := do
  match ← next with
  | .op "." => return .expr (.attribute (← name)) [value]
  | .op "(" =>
    return .expr .call (value :: (← arguments rules true))
  | .op "[" =>
    let index ← within 1 (slices rules)
    op "]"
    return .expr .subscript [value, index]
  | _ => failure

/-- All trailers behind a value. -/
def trailers (rules : Rules) : Nat → Node → Reader Node
  | 0, value => pure value
  | fuel + 1, value => do
    match ← attempt (trailer rules value) with
    | some longer => trailers rules fuel longer
    | none => return value

/-! ### Atoms -/

/-- What starts with a parenthesis: a group, a tuple or a generator. -/
def parenthesised (rules : Rules) : Reader Node := do
  op "("
  if ← takeOp ")" then return .expr .tuple []
  else if ← atWord "yield" then
    let e ← yieldExpression rules
    op ")"
    return e
  else
    let first ← starNamedExpression rules
    if ← takeOp "," then
      let more ← attempt (within 2 (commaList (starNamedExpression rules) 1))
      op ")"
      return .expr .tuple (first :: (more.map (·.1)).getD [])
    else
      guardThat !(isStarred first)
      if ← atClause then
        let cs ← clauses rules
        op ")"
        return .expr .generator (first :: cs)
      else
        op ")"
        return first

/-- What starts with a bracket: a list or a list comprehension. -/
def bracketed (rules : Rules) : Reader Node := do
  op "["
  if ← takeOp "]" then return .expr .list []
  else
    let first ← within 1 (starNamedExpression rules)
    if ← atClause then
      guardThat !(isStarred first)
      let cs ← clauses rules
      op "]"
      return .expr .listComp (first :: cs)
    else
      let more ← many (do op ","; within 2 (starNamedExpression rules))
      let _ ← takeOp ","
      op "]"
      return .expr .list (first :: more)

/-- An entry of a dictionary. -/
def dictEntry (rules : Rules) : Reader (Option Node × Node) := do
  if ← takeOp "**" then return (none, ← within 1 (one (rules .bitwiseOr)))
  else
    let key ← within 2 (one (rules .expression))
    op ":"
    return (some key, ← within 2 (one (rules .expression)))

/-- A dictionary from its entries: the keys come first, then the values. -/
def dictNode (entries : List (Option Node × Node)) : Node :=
  .expr (.dict (entries.map (·.1.isSome))) (entries.filterMap (·.1) ++ entries.map (·.2))

/-- The rest of a dictionary behind its first entry. -/
def dictTail (rules : Rules) (first : Option Node × Node) : Reader Node := do
  let more ← many (do op ","; within 1 (dictEntry rules))
  let _ ← takeOp ","
  op "\x7d"
  return dictNode (first :: more)

/-- The rest of a set behind its first item. -/
def setTail (rules : Rules) (first : Node) : Reader Node := do
  if ← atClause then
    guardThat !(isStarred first)
    let cs ← clauses rules
    op "\x7d"
    return .expr .setComp (first :: cs)
  else
    let more ← many (do op ","; within 2 (starNamedExpression rules))
    let _ ← takeOp ","
    op "\x7d"
    return .expr .set (first :: more)

/-- What starts with a brace: a dictionary, a set or a comprehension of either. -/
def braced (rules : Rules) : Reader Node := do
  op "\x7b"
  if ← takeOp "\x7d" then return dictNode []
  else if ← atOp "**" then dictTail rules (← dictEntry rules)
  else if (← atOp "*") || (← atBinding) then setTail rules (← within 1 (starNamedExpression rules))
  else
    let first ← within 2 (one (rules .expression))
    if ← takeOp ":" then
      let value ← within 2 (one (rules .expression))
      if ← atClause then
        let cs ← clauses rules
        op "\x7d"
        return .expr .dictComp (first :: value :: cs)
      else dictTail rules (some first, value)
    else
      guardThat !(← atOp ":=")
      setTail rules first

/-- A constant node. -/
def constant (c : Constant) : Node :=
  .expr (.constant c) []

/-- A numeric literal. -/
def number : Reader Node := do
  match ← next with
  | .number text =>
    let some value := numberValue text | failure
    return constant value
  | _ => failure

/-- The smallest expressions. -/
def atom (rules : Rules) : Reader Node := do
  match ← peek with
  | .name _ n =>
    let _ ← next
    return .expr (.name n.text) []
  | .number _ => number
  | .string _ => strings rules
  | .keyword w =>
    let _ ← next
    if w = "None" then return constant .none
    else if w = "True" then return constant .true
    else if w = "False" then return constant .false
    else failure
  | .op s =>
    if s = "(" then within 4 (parenthesised rules)
    else if s = "[" then within 4 (bracketed rules)
    else if s = "\x7b" then within 4 (braced rules)
    else if s = "..." then
      let _ ← next
      return constant .ellipsis
    else failure
  | _ => failure

/-- An atom with its attributes, calls and subscripts. -/
def primary (rules : Rules) : Reader Node := do
  let a ← atom rules
  trailers rules (← limit) a

/-- A primary expression, awaited or not, possibly raised to a power. -/
def power (rules : Rules) : Reader Node := do
  let awaited ← takeWord "await"
  let base ← primary rules
  let base := if awaited then .expr .await [base] else base
  if ← takeOp "**" then return .expr (.binary "**") [base, ← within 1 (one (rules .factor))]
  else return base

/-! ### Embedded expressions -/

/-- Reads an expression from the source inside a string literal, as if it stood in parentheses. The
surrounding tokens stay as they are, and the rules around them do not count: in front of the parentheses
the count begins anew. -/
def embedded (rules : Rules) (source : List Char) : Reader Node := do
  let limit ← limit
  match lex ('(' :: source ++ [')']) with
  | none => failure
  | some tokens =>
    let inner := { tokens := tokens, last := ⟨1, 0⟩, limit := limit, level := 30, deepest := 30 }
    match (parenthesised rules).run inner with
    | some (n, rest) =>
      if rest.tokens.all (·.lexeme.isLayout) then
        reach rest.deepest
        return n
      else failure
    | none => failure

end CodeAtlas.Script
