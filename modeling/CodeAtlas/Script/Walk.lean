import CodeAtlas.Script.Node

/-!
# Walking over syntax trees

A walk visits a node, then its children, then their children, level by level. The metrics of a
function are taken along such a walk.
-/

namespace CodeAtlas.Script

mutual

/-- The number of nodes of a tree. -/
def Node.size : Node → Nat
  | .mk _ children => 1 + sizeAll children

/-- The number of nodes of several trees. -/
def sizeAll : List Node → Nat
  | [] => 0
  | n :: ns => n.size + sizeAll ns

end

theorem sizeAll_append (xs ys : List Node) : sizeAll (xs ++ ys) = sizeAll xs + sizeAll ys := by
  induction xs with
  | nil => simp [sizeAll]
  | cons x xs ih => simp [sizeAll, ih]; omega

theorem Node.size_eq (n : Node) : n.size = 1 + sizeAll n.children := by
  cases n
  simp [Node.size, Node.children]

/-- Trees have as many nodes as there are roots and nodes below the roots. -/
theorem sizeAll_eq (ns : List Node) :
    sizeAll ns = ns.length + sizeAll (ns.flatMap Node.children) := by
  induction ns with
  | nil => simp [sizeAll]
  | cons n ns ih =>
    simp only [sizeAll, List.length_cons, List.flatMap_cons, sizeAll_append, Node.size_eq]
    omega

/-- The nodes of several trees, level by level. -/
def walkLevels : List Node → List Node
  | [] => []
  | n :: ns => n :: ns ++ walkLevels ((n :: ns).flatMap Node.children)
termination_by ns => sizeAll ns
decreasing_by
  rw [sizeAll_eq (n :: ns), List.length_cons]
  omega

/-- All nodes of a tree, level by level. -/
def Node.walk (n : Node) : List Node :=
  walkLevels [n]

/-! ### Metrics -/

/-- The places where the flow of control can take another way: branches, loops, contexts, blocks with
handlers and their handlers, and the operators `and` and `or`. Asynchronous loops and contexts and
handlers of groups do not count. -/
def Kind.isDecision : Kind → Bool
  | .statement .branch _ => true
  | .statement .whileLoop _ => true
  | .statement (.forLoop false) _ => true
  | .statement (.context false) _ => true
  | .statement (.attempt false) _ => true
  | .part (.handler _) => true
  | .part (.operator _) => true
  | _ => false

/-- The complexity of a function: one more than the number of its decisions. -/
def Node.complexity (n : Node) : Nat :=
  1 + n.walk.countP fun m => m.kind.isDecision

/-- The name that a call goes by: that of a function, or that of a member. -/
def Node.callee? (n : Node) : Option String :=
  match n with
  | .mk (.expression .call) (f :: _) =>
    match f.kind with
    | .expression (.name identifier) => some identifier
    | .expression (.attribute member) => some member
    | _ => none
  | _ => none

/-- The names of all calls in a tree. -/
def Node.calls (n : Node) : List String :=
  n.walk.filterMap Node.callee?

end CodeAtlas.Script
