import CodeAtlas.Script.Token

/-!
# Syntax trees of scripts

A tree node has a kind and its children in the order in which they are visited. What is not a node
itself (names, operators, which optional parts are there) belongs to the kind. Statements know the
part of the text they were read from.
-/

namespace CodeAtlas.Script

open CodeAtlas.Text

/-- Literal values. A floating-point number keeps its digits as they are written. A text is given by
its code points, because an escape can name the code point of a surrogate. -/
inductive Constant where
  | none
  | true
  | false
  | ellipsis
  | int (value : Nat)
  | float (text : List Char)
  | imaginary (text : List Char)
  | text (codes : List Nat) (marked : Bool)
  | bytes (value : List Nat)
  deriving Repr, DecidableEq, Inhabited

/-- The two operators that decide by their first operand. -/
inductive Logical where
  | and
  | or
  deriving Repr, DecidableEq, Inhabited

/-- What an expression is, apart from its operands. -/
inductive Expression where
  | name (identifier : String)
  | constant (value : Constant)
  | attribute (member : String)
  | subscript
  /-- A slice, with which of its three parts are written. -/
  | slice (lower upper step : Bool)
  | call
  | starred
  | logical
  | binary (symbol : String)
  | unary (symbol : String)
  | compare (symbols : List String)
  | conditional
  | lambda
  | named
  | await
  | yield
  | yieldFrom
  | list
  | tuple
  | set
  /-- A dictionary; an entry without a key spreads another dictionary. -/
  | dict (keyed : List Bool)
  | listComp
  | setComp
  | dictComp
  | generator
  /-- A string with embedded expressions. -/
  | joined
  /-- An embedded expression, with its conversion and whether a format follows. -/
  | formatted (conversion : Option Char) (spec : Bool)
  deriving Repr, DecidableEq, Inhabited

/-- An imported name and the name it gets. -/
structure Alias where
  name : String
  asName : Option String
  deriving Repr, DecidableEq, Inhabited

/-- What a statement is, apart from its parts. -/
inductive Statement where
  | functionDef (name : Identifier) (isAsync : Bool)
  | classDef (name : Identifier)
  | returns
  | deletes
  | assign
  | update (symbol : String)
  | annotate
  | forLoop (isAsync : Bool)
  | whileLoop
  | branch
  | context (isAsync : Bool)
  | select
  | raises
  | attempt (groups : Bool)
  | asserts
  | importModules (names : List Alias)
  | importFrom (source : Option String) (names : List Alias)
  | globals (names : List String)
  | nonlocals (names : List String)
  | expression
  | pass
  | breaks
  | continues
  deriving Repr, DecidableEq, Inhabited

/-- Nodes that are neither statements nor expressions. -/
inductive Part where
  /-- Parameters: how many are positional only, how many may be named, whether there is a rest
  parameter, which of the named-only ones have a default, and whether there is a keyword rest. The
  children are the parameters in this order, the defaults of the named-only ones before the keyword
  rest, and the other defaults last. -/
  | parameters (positional plain : Nat) (rest : Bool) (namedOnly : List Bool) (keywordRest : Bool)
  | parameter (name : String)
  | keyword (name : Option String)
  | clause (isAsync : Bool) (conditions : Nat)
  | handler (name : Option String)
  | contextItem
  | matchCase
  | pattern
  | operator (which : Logical)
  deriving Repr, DecidableEq, Inhabited

/-- The kind of a node. -/
inductive Kind where
  | module
  | statement (s : Statement) (span : Span)
  | expression (e : Expression)
  | part (p : Part)
  deriving Repr, DecidableEq, Inhabited

/-- A syntax tree. -/
inductive Node where
  | mk (kind : Kind) (children : List Node)
  deriving Repr, Inhabited

namespace Node

def kind : Node → Kind
  | mk k _ => k

def children : Node → List Node
  | mk _ cs => cs

/-- An expression node. -/
def expr (e : Expression) (children : List Node) : Node :=
  mk (.expression e) children

def isStatement (n : Node) : Bool :=
  match n.kind with
  | .statement _ _ => true
  | _ => false

def isExpression (n : Node) : Bool :=
  match n.kind with
  | .expression _ => true
  | _ => false

/-- The statements directly below a node. -/
def body (n : Node) : List Node :=
  n.children.filter isStatement

end Node

end CodeAtlas.Script
