import CodeAtlas.Script.Grammar.Expression

/-!
# Patterns of a selection

The cases of a selection compare a value with patterns: literals, dotted names, captures, sequences,
mappings and class patterns, joined by `|` and named by `as`.
-/

namespace CodeAtlas.Script

open Reader

/-- A pattern node. -/
def patternNode (children : List Node) : Node :=
  .mk (.part .pattern) children

/-! ### Literals -/

/-- A numeric literal with an optional minus sign. -/
def signedNumber : Reader Node := do
  if ← takeOp "-" then return .expr (.unary "-") [← number]
  else number

/-- Whether a number is imaginary. -/
def isImaginary : Node → Bool
  | .mk (.expression (.constant (.imaginary _))) _ => true
  | .mk (.expression (.unary _)) [.mk (.expression (.constant (.imaginary _))) _] => true
  | _ => false

/-- A literal in a pattern: a number, a sum of a real and an imaginary number, strings, or one of the
three constants. -/
def literal (rules : Rules) : Reader Node := do
  match ← peek with
  | .string _ => strings rules
  | .keyword w =>
    if ["None", "True", "False"].contains w then atom rules else failure
  | _ =>
    let first ← signedNumber
    match ← peek with
    | .op s =>
      if s = "+" ∨ s = "-" then
        let _ ← next
        let second ← number
        guardThat (!isImaginary first && isImaginary second)
        return .expr (.binary s) [first, second]
      else return first
    | _ => return first

/-! ### Names -/

/-- A name that may capture a value: any but the wildcard, and not the start of a longer pattern. -/
def captureTarget : Reader Unit := do
  match ← next with
  | .name spelling _ =>
    guardThat (spelling ≠ "_")
    match ← peek with
    | .op s => guardThat (s ≠ "." && s ≠ "(" && s ≠ "=")
    | _ => pure ()
  | _ => failure

/-- Names joined by dots, and whether there is a dot. -/
def dottedName : Reader (Node × Bool) := do
  let first ← name
  let more ← many (do op "."; name)
  return (more.foldl (fun n member => .expr (.attribute member) [n]) (.expr (.name first) []),
    !more.isEmpty)

/-! ### Compound patterns -/

/-- A starred capture or a pattern, as an item of a sequence. -/
def sequenceItem (rules : Rules) : Reader Node := do
  if ← takeOp "*" then
    match ← peek with
    | .name "_" _ => let _ ← next
    | _ => captureTarget
    return patternNode []
  else one (rules .pattern)

/-- The items of a sequence pattern up to a closing bracket. -/
def sequenceItems (rules : Rules) (closer : String) : Reader (List Node × Bool) := do
  if ← takeOp closer then return ([], false)
  else
    let items ← commaList (sequenceItem rules)
    op closer
    return items

/-- A key of a mapping pattern with its pattern. -/
def mappingItem (rules : Rules) : Reader (List Node) := do
  let key ← (match ← peek with
    | .name _ _ => do
      let (n, dotted) ← dottedName
      guardThat dotted
      return n
    | _ => literal rules : Reader Node)
  op ":"
  return [key, ← one (rules .pattern)]

/-- The items of a mapping pattern behind its opening brace; a rest capture comes last. -/
def mappingItems (rules : Rules) : Nat → Reader (List Node)
  | 0 => failure
  | fuel + 1 => do
    if ← takeOp "\x7d" then return []
    else if ← takeOp "**" then
      captureTarget
      let _ ← takeOp ","
      op "\x7d"
      return []
    else
      let item ← mappingItem rules
      if ← takeOp "," then return item ++ (← mappingItems rules fuel)
      else
        op "\x7d"
        return item

/-- The arguments of a class pattern behind the opening parenthesis: named ones come last. -/
def classItems (rules : Rules) : Nat → Bool → Reader (List Node)
  | 0, _ => failure
  | fuel + 1, named => do
    if ← takeOp ")" then return []
    else
      let isNamed ← (match ← peek, ← peekSecond with
        | .name _ _, .op "=" => do
          let _ ← next
          let _ ← next
          return true
        | _, _ => return false : Reader Bool)
      guardThat (isNamed || !named)
      let item ← one (rules .pattern)
      if ← takeOp "," then return item :: (← classItems rules fuel (named || isNamed))
      else
        op ")"
        return [item]

/-- A pattern that starts with a name: the wildcard, a capture, a constant or a class. -/
def namePattern (rules : Rules) : Reader Node := do
  match ← peek with
  | .name "_" _ =>
    let _ ← next
    return patternNode []
  | _ =>
    match ← attempt captureTarget with
    | some _ => return patternNode []
    | none =>
      let (n, dotted) ← dottedName
      if ← takeOp "(" then
        let items ← classItems rules (← limit) false
        return patternNode (n :: items)
      else
        guardThat (dotted && !(← atOp "="))
        return patternNode [n]

/-- A pattern without `|` and `as` outside brackets. -/
def closedPattern (rules : Rules) : Reader Node := do
  match ← peek with
  | .name _ _ => namePattern rules
  | .op "(" =>
    let _ ← next
    let starred ← atOp "*"
    let (items, trailing) ← sequenceItems rules ")"
    -- A lone starred capture is no group.
    guardThat !(starred && items.length == 1 && !trailing)
    return patternNode items
  | .op "[" =>
    let _ ← next
    return patternNode (← sequenceItems rules "]").1
  | .op "\x7b" =>
    let _ ← next
    return patternNode (← mappingItems rules (← limit))
  | _ => return patternNode [← literal rules]

/-- Alternatives, possibly named. -/
def pattern (rules : Rules) : Reader Node := do
  let first ← closedPattern rules
  let more ← many (do op "|"; closedPattern rules)
  if ← takeWord "as" then captureTarget
  return patternNode (first :: more)

/-- The pattern of a case, which may be a sequence without brackets. -/
def casePattern (rules : Rules) : Reader Node := do
  let starred ← atOp "*"
  let (items, trailing) ← commaList (sequenceItem rules)
  match items, trailing with
  | [p], false =>
    guardThat !starred
    return p
  | _, _ => return patternNode items

end CodeAtlas.Script
