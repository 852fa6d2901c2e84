import CodeAtlas.Failure
import CodeAtlas.Script.Depth
import CodeAtlas.Script.Literal
import CodeAtlas.Text.Quoted
import CodeAtlas.Text.Search

/-!
# Writing expressions

An expression is written with single blanks and with parentheses only where the surroundings bind
tighter than the expression itself. Inside the braces of a format string no backslash may occur; an
expression that needs one there cannot be written, nor can a very long integer or a very deep tree.
-/

namespace CodeAtlas.Script

open CodeAtlas.Text

/-! ### Binding strength -/

/-- How tightly an expression binds, from a binding of a name to an atom. -/
abbrev Strength := Nat

namespace Strength

def binding : Strength := 0
def tuple : Strength := 1
def yield : Strength := 2
def test : Strength := 3
def or : Strength := 4
def and : Strength := 5
def not : Strength := 6
def compare : Strength := 7
def operand : Strength := 8
def factor : Strength := 14
def power : Strength := 15
def await : Strength := 16
def atom : Strength := 17

/-- The next tighter strength. -/
def next (s : Strength) : Strength :=
  if s < atom then s + 1 else s

/-- The strength of a binary operator. -/
def ofBinary (symbol : String) : Strength :=
  if symbol = "|" then 8
  else if symbol = "^" then 9
  else if symbol = "&" then 10
  else if symbol = "<<" ∨ symbol = ">>" then 11
  else if symbol = "+" ∨ symbol = "-" then 12
  else if symbol = "**" then power
  else 13

end Strength

/-! ### Constants -/

/-- The text of a byte inside a bytes literal. -/
def byteText (quote : Char) (n : Nat) : List Char :=
  if n = quote.toNat then ['\\', quote]
  else if n = '\\'.toNat ∨ n = '\n'.toNat ∨ n = '\r'.toNat ∨ n = '\t'.toNat then escapeCode n
  else if n < 0x20 ∨ 0x7F ≤ n then '\\' :: 'x' :: hexText 2 n
  else [Char.ofNat n]

/-- A bytes literal. -/
def bytesText (bs : List Nat) : List Char :=
  let q := quoteFor bs
  'b' :: q :: bs.flatMap (byteText q) ++ [q]

/-- An integer, if it is not too long. -/
def intText (n : Nat) : Except Failure (List Char) :=
  let digits := Decimal.natDigits n
  if maxDigits < digits.length then .error .longInteger else .ok digits

/-- A floating-point number; one beyond all bounds is written as a literal that overflows. -/
def floatText (x : Float) : List Char :=
  if x == 1.0 / 0.0 then "1e309".toList else (Decimal.render x).toList

/-- A floating-point number without the zero behind the point of a whole number. -/
def shortFloatText (x : Float) : List Char :=
  let cs := floatText x
  if endsWith ".0".toList cs then cs.dropLast.dropLast else cs

/-- The quotes a string literal may be written with, in the order of preference. -/
def allQuotes : List (List Char) :=
  [['\''], ['"'], ['"', '"', '"'], ['\'', '\'', '\'']]

/-- A string escaped for a literal, and the quotes it can then stand between. -/
def literalBody (quotes : List (List Char)) (escapeBlanks : Bool) (codes : List Nat) :
    List Char × List (List Char) :=
  let escaped := codes.flatMap fun n =>
    if !escapeBlanks && (n = '\n'.toNat || n = '\t'.toNat) then [Char.ofNat n]
    else if n = '\\'.toNat || !isPrintable n then escapeCode n
    else [Char.ofNat n]
  let usable := if escaped.contains '\n' then quotes.filter (·.length == 3) else quotes
  let usable := usable.filter fun q => !contains q escaped
  match usable with
  | [] =>
    let whole := quotedCodes codes
    let mark := whole.take 1
    let q := (quotes.find? fun q => contains mark q).getD mark
    ((whole.drop 1).dropLast, [q])
  | _ :: _ =>
    match escaped.getLast? with
    | none => (escaped, usable)
    | some last =>
      -- Quotes that differ from the last character come first.
      let sorted := usable.filter (·.head? ≠ some last) ++ usable.filter (·.head? = some last)
      if (sorted.head?.bind (·.head?)) = some last then
        (escaped.dropLast ++ ['\\', last], sorted)
      else (escaped, sorted)

/-- A string literal that avoids backslashes where it can. -/
def plainLiteral (codes : List Nat) : List Char :=
  let (body, quotes) := literalBody allQuotes false codes
  let q := quotes.headD ['\'']
  q ++ body ++ q

/-- The text of a constant. -/
def constantText (avoid : Bool) : Constant → Except Failure (List Char)
  | .none => .ok "None".toList
  | .true => .ok "True".toList
  | .false => .ok "False".toList
  | .ellipsis => .ok "...".toList
  | .int n => intText n
  | .float text => .ok (floatText (Decimal.readFloat text))
  | .imaginary text => .ok (shortFloatText (Decimal.readFloat text) ++ ['j'])
  | .text codes marked =>
    .ok ((if marked then ['u'] else []) ++ if avoid then plainLiteral codes else quotedCodes codes)
  | .bytes bs => .ok (bytesText bs)

/-! ### Trees -/

/-- A text, or why there is none. -/
abbrev Written := Except Failure (List Char)

/-- A child as its parent sees it: its kind, its text in surroundings of a given strength, and its
text inside a format string. -/
structure Printed where
  kind : Kind
  text : (avoid : Bool) → Strength → Written
  inner : (avoid : Bool) → Except Failure (List Nat)

/-- The text of a child that stands for itself. -/
def Printed.plain (avoid : Bool) (p : Printed) : Written :=
  p.text avoid .test

/-- Puts parentheses around a text where the surroundings bind tighter. -/
def parens (outer own : Strength) (cs : List Char) : List Char :=
  if own < outer then '(' :: cs ++ [')'] else cs

/-- Texts with a separator. -/
def sepBy (sep : String) (parts : List Written) : Written :=
  (parts.mapM id).map (join sep.toList)

/-- Items of a tuple; a single one has a comma behind it. -/
def itemsText (parts : List Written) : Written :=
  match parts with
  | [p] => p.map (· ++ [','])
  | _ => sepBy ", " parts

/-- Concatenates texts. -/
def textOf (parts : List Written) : Written :=
  (parts.mapM id).map List.flatten

/-- A fixed text. -/
def lit (s : String) : Written :=
  .ok s.toList

/-- The operands of a logical operator, each in tighter surroundings than the one before. -/
def logicalTexts (avoid : Bool) : Strength → List Printed → List Written
  | _, [] => []
  | s, p :: ps => p.text avoid s.next :: logicalTexts avoid s.next ps

/-- The parts of a comparison behind its first operand. -/
def comparisonTexts (avoid : Bool) : List String → List Printed → List Written
  | s :: ss, p :: ps =>
    lit s!" {s} " :: p.text avoid Strength.compare.next :: comparisonTexts avoid ss ps
  | _, _ => []

/-- The entries of a dictionary. -/
def entryTexts (avoid : Bool) : List Bool → List Printed → List Printed → List Written
  | true :: flags, k :: keys, v :: values =>
    textOf [k.plain avoid, lit ": ", v.plain avoid] :: entryTexts avoid flags keys values
  | false :: flags, keys, v :: values =>
    textOf [lit "**", v.text avoid .operand] :: entryTexts avoid flags keys values
  | _, _, _ => []

/-- Parameters with their defaults. -/
def defaulted (avoid : Bool) : List Printed → List (Option Printed) → List Written
  | p :: ps, d :: ds =>
    (match d with
      | some d => textOf [p.plain avoid, lit "=", d.plain avoid]
      | none => p.plain avoid) :: defaulted avoid ps ds
  | _, _ => []

/-- Defaults for the parameters that have one, `none` for the others. -/
def spreadDefaults : List Bool → List Printed → List (Option Printed)
  | true :: flags, d :: ds => some d :: spreadDefaults flags ds
  | _ :: flags, ds => none :: spreadDefaults flags ds
  | [], _ => []

/-- The parameters of a function. -/
def parametersText (avoid : Bool) (positional plain : Nat) (rest : Bool) (namedOnly : List Bool)
    (keywordRest : Bool) (children : List Printed) : Written :=
  let first := children.take (positional + plain)
  let children := children.drop (positional + plain)
  let (restNode, children) := if rest then (children.head?, children.drop 1) else (none, children)
  let named := children.take namedOnly.length
  let children := children.drop namedOnly.length
  let namedDefaults := children.take (namedOnly.filter id).length
  let children := children.drop (namedOnly.filter id).length
  let (lastNode, defaults) :=
    if keywordRest then (children.head?, children.drop 1) else (none, children)
  let missing := first.length - defaults.length
  let plainTexts := defaulted avoid first (List.replicate missing none ++ defaults.map some)
  let slashed := if positional = 0 then plainTexts
    else plainTexts.take positional ++ lit "/" :: plainTexts.drop positional
  let star := if rest || !named.isEmpty then
    [textOf (lit "*" :: restNode.toList.map (·.plain avoid))] else []
  let namedTexts := defaulted avoid named (spreadDefaults namedOnly namedDefaults)
  let last := lastNode.toList.map fun n => textOf [lit "**", n.plain avoid]
  sepBy ", " (slashed ++ star ++ namedTexts ++ last)

/-- Whether a node is a text constant. -/
def isTextConstant (k : Kind) : Bool :=
  match k with
  | .expression (.constant (.text _ _)) => true
  | _ => false

/-- Narrows the quotes for the parts of a format string one after the other; `none` if a part leaves
no quote that the parts before it allow. -/
def formatParts : List (List Char) → List (List Nat × Bool) →
    Option (List (List Char) × List (List Char))
  | quotes, [] => some ([], quotes)
  | quotes, (part, isText) :: rest =>
    let (body, usable) := literalBody quotes isText part
    if usable.any quotes.contains then
      (formatParts usable rest).map fun (bodies, final) => (body :: bodies, final)
    else none

/-- A format string from the code points of its parts. -/
def formatLiteral (parts : List (List Nat × Bool)) : List Char :=
  match formatParts allQuotes parts with
  | some (bodies, quotes) =>
    let q := quotes.headD ['\'']
    'f' :: q ++ bodies.flatten ++ q
  | none =>
    let bodies := parts.map fun (part, _) => ((quotedCodes ('"'.toNat :: part)).drop 2).dropLast
    let q := ['\'', '\'', '\'']
    'f' :: q ++ bodies.flatten ++ q

/-- Doubles the braces of a literal text. -/
def doubleBraces (codes : List Nat) : List Nat :=
  codes.flatMap fun n => if n = '\x7b'.toNat ∨ n = '\x7d'.toNat then [n, n] else [n]

/-- The inner texts of several parts, concatenated. -/
def innerTexts (avoid : Bool) (children : List Printed) : Except Failure (List Nat) :=
  (children.mapM fun (c : Printed) => c.inner avoid).map List.flatten

/-- An embedded expression between braces, from its source and the text of its format. -/
def embeddedText (source : List Char) (conversion : Option Char) (spec : List Nat) : List Nat :=
  let blank := if source.head? = some '\x7b' then [' '] else []
  let mark := match conversion with
    | some c => ['!', c]
    | none => []
  ('\x7b' :: blank ++ source ++ mark).map Char.toNat ++ spec ++ ['\x7d'.toNat]

/-- The text of a node inside a format string. -/
def innerText (kind : Kind) (children : List Printed) (avoid : Bool) : Except Failure (List Nat) :=
  match kind, children with
  | .expression .joined, _ => innerTexts avoid children
  | .expression (.constant (.text codes _)), _ => .ok (doubleBraces codes)
  | .expression (.formatted conversion _), value :: spec => do
    let source ← value.text true Strength.test.next
    if source.contains '\\' then .error .unwritable
    else if spec.isEmpty then .ok (embeddedText source conversion [])
    else
      let inner ← innerTexts avoid spec
      .ok (embeddedText source conversion (':'.toNat :: inner))
  | _, _ => .error .unwritable

/-- Whether an attribute of this constant needs a blank before the dot. -/
def isWhole (k : Kind) : Bool :=
  match k with
  | .expression (.constant (.int _)) | .expression (.constant .true)
  | .expression (.constant .false) => true
  | _ => false

/-- The text of a slice from those of the parts that are written. -/
def sliceText (lower upper step : Bool) (parts : List Written) : Written :=
  let low := if lower then parts.take 1 else []
  let rest := if lower then parts.drop 1 else parts
  let high := if upper then rest.take 1 else []
  let rest := if upper then rest.drop 1 else rest
  textOf (low ++ lit ":" :: high ++ if step then lit ":" :: rest else [])

/-- The text of an expression from those of its operands, in surroundings of strength `outer`. -/
def expressionText (e : Expression) (cs : List Printed) (avoid : Bool) (outer : Strength) : Written :=
  let t := fun (p : Printed) (s : Strength) => p.text avoid s
  match e, cs with
  | .name n, _ => lit n
  | .constant c, _ => constantText avoid c
  | .attribute member, [v] =>
    textOf [t v .atom, if isWhole v.kind then lit " ." else lit ".", lit member]
  | .subscript, [v, i] =>
    let index := match i.kind with
      | .expression .tuple => t i .tuple
      | _ => t i .test
    textOf [t v .atom, lit "[", index, lit "]"]
  | .slice lower upper step, _ => sliceText lower upper step (cs.map (·.plain avoid))
  | .call, f :: args =>
    textOf [t f .atom, lit "(", sepBy ", " (args.map (·.plain avoid)), lit ")"]
  | .starred, [v] => textOf [lit "*", t v .operand]
  | .logical, o :: operands =>
    let (own, symbol) := match o.kind with
      | .part (.operator .or) => (Strength.or, " or ")
      | _ => (Strength.and, " and ")
    (sepBy symbol (logicalTexts avoid own operands)).map (parens outer own)
  | .binary s, [l, r] =>
    let own := Strength.ofBinary s
    let (left, right) := if s = "**" then (own.next, own) else (own, own.next)
    (textOf [t l left, lit s!" {s} ", t r right]).map (parens outer own)
  | .unary s, [v] =>
    let own := if s = "not" then Strength.not else Strength.factor
    (textOf [lit s, if s = "not" then lit " " else lit "", t v own]).map (parens outer own)
  | .compare symbols, first :: rest =>
    (textOf (t first Strength.compare.next :: comparisonTexts avoid symbols rest)).map
      (parens outer .compare)
  | .conditional, [test, body, other] =>
    (textOf [t body Strength.test.next, lit " if ", t test Strength.test.next, lit " else ",
      t other .test]).map (parens outer .test)
  | .lambda, [ps, body] => do
    let params ← t ps .test
    let written ← textOf [lit "lambda", .ok (if params.isEmpty then [] else ' ' :: params), lit ": ",
      t body .test]
    return parens outer .test written
  | .named, [target, value] =>
    (textOf [t target .atom, lit " := ", t value .atom]).map (parens outer .binding)
  | .await, [v] => (textOf [lit "await ", t v .atom]).map (parens outer .await)
  | .yield, [] => .ok (parens outer .yield "yield".toList)
  | .yield, v :: _ => (textOf [lit "yield ", t v .atom]).map (parens outer .yield)
  | .yieldFrom, [v] => (textOf [lit "yield from ", t v .atom]).map (parens outer .yield)
  | .list, _ => textOf [lit "[", sepBy ", " (cs.map (·.plain avoid)), lit "]"]
  | .tuple, [] => lit "()"
  | .tuple, _ => (itemsText (cs.map (·.plain avoid))).map (parens outer .tuple)
  | .set, _ => textOf [lit "\x7b", sepBy ", " (cs.map (·.plain avoid)), lit "\x7d"]
  | .dict keyed, _ =>
    let count := (keyed.filter id).length
    textOf [lit "\x7b", sepBy ", " (entryTexts avoid keyed (cs.take count) (cs.drop count)),
      lit "\x7d"]
  | .listComp, _ => textOf (lit "[" :: cs.map (·.plain avoid) ++ [lit "]"])
  | .setComp, _ => textOf (lit "\x7b" :: cs.map (·.plain avoid) ++ [lit "\x7d"])
  | .generator, _ => textOf (lit "(" :: cs.map (·.plain avoid) ++ [lit ")"])
  | .dictComp, k :: v :: clauses =>
    textOf (lit "\x7b" :: t k .test :: lit ": " :: t v .test ::
      clauses.map (·.plain avoid) ++ [lit "\x7d"])
  | .joined, _ =>
    if avoid then (innerTexts avoid cs).map fun body => 'f' :: plainLiteral body
    else
      (cs.mapM fun (p : Printed) => (p.inner avoid).map fun part => (part, isTextConstant p.kind)).map
        formatLiteral
  | _, _ => .error .unwritable

/-- The text of a part of an expression. -/
def partText (p : Part) (cs : List Printed) (avoid : Bool) : Written :=
  match p, cs with
  | .parameters positional plain rest namedOnly keywordRest, _ =>
    parametersText avoid positional plain rest namedOnly keywordRest cs
  | .parameter n, [] => lit n
  | .parameter n, a :: _ => textOf [lit n, lit ": ", a.plain avoid]
  | .keyword (some n), [v] => textOf [lit n, lit "=", v.plain avoid]
  | .keyword none, [v] => textOf [lit "**", v.plain avoid]
  | .clause isAsync _, target :: source :: conditions =>
    textOf (lit (if isAsync then " async for " else " for ") :: target.text avoid .tuple ::
      lit " in " :: source.text avoid Strength.test.next ::
      conditions.flatMap fun c => [lit " if ", c.text avoid Strength.test.next])
  | _, _ => .error .unwritable

/-- The printed form of a node from those of its children. -/
def printNode (kind : Kind) (children : List Printed) : Printed where
  kind := kind
  text := fun avoid outer =>
    match kind with
    | .expression e => expressionText e children avoid outer
    | .part p => partText p children avoid
    | _ => .error .unwritable
  inner := innerText kind children

mutual

/-- The printed form of a tree. -/
def Node.printed : Node → Printed
  | .mk kind children => printNode kind (printedAll children)

/-- The printed forms of several trees. -/
def printedAll : List Node → List Printed
  | [] => []
  | n :: ns => n.printed :: printedAll ns

end

/-- The text of an expression. -/
def Node.source (n : Node) : Except Failure String :=
  if n.isWritable then (n.printed.text false .test).map String.ofList else .error .deepExpression

end CodeAtlas.Script
