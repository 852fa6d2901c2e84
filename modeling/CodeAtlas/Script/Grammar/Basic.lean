import CodeAtlas.Script.Node

/-!
# Reading trees from tokens

The reader's state is the list of tokens still to be read, and the end of the last token read that is
not mere layout. A rule of the grammar that can contain itself is called through a table of rules, so
that every definition below is free of recursion and the table alone is built by recursion.

The rules that lie around a token are counted, because there is room for a bounded number of them. They
are counted as the language's own grammar has them, which needs several rules for one rule of the table.
-/

namespace CodeAtlas.Script

open CodeAtlas.Text

/-- The state of the reader; `limit` bounds the length of every repetition. -/
structure Input where
  tokens : List Token
  last : Position
  limit : Nat
  /-- The number of rules around what is read next. -/
  level : Nat
  /-- The greatest level so far. -/
  deepest : Nat

/-- The state behind the next token `t`, with `ts` behind it. -/
def Input.pass (s : Input) (t : Token) (ts : List Token) : Input :=
  { s with tokens := ts, last := if t.lexeme.isLayout then s.last else t.span.stop }

/-- A reader of some part of the grammar. It fails where the tokens do not fit, and what it leaves is
an end of the tokens that it found. -/
structure Reader (α : Type) where
  run : Input → Option (α × Input)
  leaves : ∀ {s a s'}, run s = some (a, s') → s'.tokens <:+ s.tokens

/-- The rules that can contain one another. -/
inductive Rule where
  | expression
  | namedExpression
  | starExpressions
  | disjunction
  | inversion
  | bitwiseOr
  | factor
  | primary
  | pattern
  | block
  | statement
  /-- An expression inside a string literal. -/
  | embedded (source : List Char)

/-- A table of rules; every rule yields a list of nodes. -/
abbrev Rules := Rule → Reader (List Node)

/-- The number of rules of the language that a rule of the table stands for. Between a sum of operands
and a sign there are two for each level of binary operators, and five from there to an atom. -/
def Rule.weight : Rule → Nat
  | .expression | .namedExpression | .inversion | .factor => 1
  | .starExpressions => 2
  | .block | .statement => 3
  | .disjunction => 4
  | .primary => 7
  | .pattern => 9
  | .bitwiseOr => 17
  | .embedded _ => 0

/-- The greatest level there is room for. -/
def maxLevel : Nat := 6000

namespace Reader

variable {α β : Type}

/-- Reads nothing. -/
def value (a : α) : Reader α where
  run s := some (a, s)
  leaves h := by
    cases h
    exact List.suffix_refl _

/-- Reads one part behind another. -/
def andThen (p : Reader α) (f : α → Reader β) : Reader β where
  run s := (p.run s).bind fun r => (f r.1).run r.2
  leaves h := by
    obtain ⟨r, hp, hf⟩ := Option.bind_eq_some_iff.mp h
    exact ((f r.1).leaves hf).trans (p.leaves hp)

instance : Monad Reader where
  pure := value
  bind := andThen

/-- Reads the second part where the first does not fit. -/
def orElse (p : Reader α) (q : Unit → Reader α) : Reader α where
  run s := (p.run s).or ((q ()).run s)
  leaves h := by
    rcases Option.or_eq_some_iff.mp h with hp | ⟨_, hq⟩
    · exact p.leaves hp
    · exact (q ()).leaves hq

instance : Alternative Reader where
  failure := { run := fun _ => none, leaves := nofun }
  orElse := orElse

/-- Looks at the state. -/
def look (f : Input → α) : Reader α where
  run s := some (f s, s)
  leaves h := by
    cases h
    exact List.suffix_refl _

/-- Notes a level that was reached elsewhere. -/
def reach (level : Nat) : Reader Unit where
  run s := some ((), { s with deepest := max s.deepest level })
  leaves h := by
    cases h
    exact List.suffix_refl _

/-- Reads a part that lies inside further rules. -/
def within (rules : Nat) (p : Reader α) : Reader α where
  run s :=
    let level := s.level + rules
    (p.run { s with level := level, deepest := max s.deepest level }).map fun r =>
      (r.1, { r.2 with level := s.level })
  leaves h := by
    obtain ⟨_, hp, hr⟩ := Option.map_eq_some_iff.mp h
    have hsuffix := p.leaves hp
    cases hr
    exact hsuffix

/-- The greatest number of repetitions. -/
def limit : Reader Nat :=
  look Input.limit

/-- The next lexeme. -/
def peek : Reader Lexeme := look fun s =>
  match s.tokens with | t :: _ => t.lexeme | [] => .finish

/-- The lexeme behind the next one. -/
def peekSecond : Reader Lexeme := look fun s =>
  match s.tokens with | _ :: t :: _ => t.lexeme | _ => .finish

/-- The place where the next token starts. -/
def here : Reader Position := look fun s =>
  match s.tokens with | t :: _ => t.span.start | [] => s.last

/-- The span from a place to the end of what was read. -/
def spanFrom (start : Position) : Reader Span := look fun s =>
  ⟨start, s.last⟩

/-- Reads one token. -/
def next : Reader Lexeme where
  run s :=
    match s.tokens with
    | [] => none
    | t :: ts => some (t.lexeme, s.pass t ts)
  leaves h := by
    split at h
    · cases h
    · rename_i t ts htokens
      cases h
      rw [htokens]
      exact List.suffix_cons t ts

/-- Reads the given lexeme. -/
def expect (l : Lexeme) : Reader Unit := do
  if (← next) = l then pure () else failure

/-- Reads an operator. -/
def op (symbol : String) : Reader Unit :=
  expect (.op symbol)

/-- Reads a keyword. -/
def word (w : String) : Reader Unit :=
  expect (.keyword w)

/-- Whether an operator comes next. -/
def atOp (symbol : String) : Reader Bool := do
  return (← peek) = .op symbol

/-- Whether a keyword comes next. -/
def atWord (w : String) : Reader Bool := do
  return (← peek) = .keyword w

/-- Reads an operator if it comes next, and says whether it did. -/
def takeOp (symbol : String) : Reader Bool := do
  if ← atOp symbol then
    let _ ← next
    return true
  else return false

/-- Reads a keyword if it comes next, and says whether it did. -/
def takeWord (w : String) : Reader Bool := do
  if ← atWord w then
    let _ ← next
    return true
  else return false

/-- Reads a name. -/
def identifier : Reader Identifier := do
  match ← next with
  | .name _ identifier => return identifier
  | _ => failure

/-- Reads the text of a name. -/
def name : Reader String := do
  return (← identifier).text

/-- Succeeds only if the condition holds. -/
def guardThat (b : Bool) : Reader Unit :=
  if b then pure () else failure

/-- Tries a reader; where it fails nothing is read. -/
def attempt (p : Reader α) : Reader (Option α) where
  run s :=
    match p.run s with
    | some (a, s') => some (some a, s')
    | none => some (none, s)
  leaves h := by
    split at h
    · rename_i hp
      cases h
      exact p.leaves hp
    · cases h
      exact List.suffix_refl _

/-- Repeats a reader at most `n` times, until it fails. -/
def repeatUpTo (p : Reader α) : Nat → Reader (List α)
  | 0 => pure []
  | n + 1 => do
    match ← attempt p with
    | none => return []
    | some a => return a :: (← repeatUpTo p n)

/-- Repeats a reader until it fails. -/
def many (p : Reader α) : Reader (List α) := do
  repeatUpTo p (← limit)

/-- Repeats a reader until it fails; it must succeed once. -/
def many1 (p : Reader α) : Reader (List α) := do
  let a ← p
  return a :: (← many p)

/-- Items separated by commas; all but the first lie inside `further` rules more. -/
def commaSeparated (p : Reader α) (further : Nat := 0) : Reader (List α) := do
  let a ← p
  return a :: (← many (do op ","; within further p))

/-- Items separated by commas, and whether a comma follows the last one. -/
def commaList (p : Reader α) (further : Nat := 0) : Reader (List α × Bool) := do
  let items ← commaSeparated p further
  return (items, ← takeOp ",")

/-- The one node of a rule that yields a single node. -/
def one (p : Reader (List Node)) : Reader Node := do
  match ← p with
  | [n] => return n
  | _ => failure

end Reader

end CodeAtlas.Script
