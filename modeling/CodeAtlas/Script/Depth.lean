import CodeAtlas.Script.Node

/-!
# The depth of trees

Keeping and writing a tree takes room for every level of it, and room is bounded. A kind of node has a
weight for each of the two tasks, and the task is refused if the weights along some path from the root to
a leaf add up to more than its bound.
-/

namespace CodeAtlas.Script

mutual

/-- The greatest sum of weights along a path from a node to a leaf. -/
def Node.height (weight : Kind → Nat) : Node → Nat
  | .mk kind children => weight kind + heightAll weight children

/-- The greatest height of several trees. -/
def heightAll (weight : Kind → Nat) : List Node → Nat
  | [] => 0
  | n :: ns => max (n.height weight) (heightAll weight ns)

end

/-! ### Keeping -/

/-- The bound for nodes below one another. -/
def maxNodes : Nat := 2950

/-- Whether there is room for the nodes of a tree. -/
def Node.isKeepable (n : Node) : Bool :=
  n.height (fun _ => 1) ≤ maxNodes

/-! ### Writing -/

/-- The steps between writing a node and writing one of its children. Sequences, entries and operands
of a chain take more of them than a single child. -/
def Kind.writingWeight : Kind → Nat
  | .expression e =>
    match e with
    | .list | .set => 4
    | .tuple | .logical => 5
    | .dict _ => 6
    | .formatted _ _ => 2
    | _ => 3
  | .part (.operator _) => 0
  | _ => 3

/-- The bound for steps inside one another. -/
def maxSteps : Nat := 975

/-- Whether there is room to write a tree. -/
def Node.isWritable (n : Node) : Bool :=
  n.height Kind.writingWeight ≤ maxSteps

end CodeAtlas.Script
