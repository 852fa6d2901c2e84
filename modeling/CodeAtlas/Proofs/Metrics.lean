import CodeAtlas.Script.Walk
import Mathlib.Tactic

/-!
# Metrics of functions

The metrics of a function are taken along a walk over its tree. Level by level is the order of a queue: a
tree is taken from the front, and its children join at the end. At every moment, what was visited and the
nodes of the trees in the queue make up the whole tree, so the walk comes to each node exactly once.

Hence the metrics can be read off the tree by recursion, and none of them shrinks from a function to one
that it is nested in.
-/

namespace CodeAtlas.Script

/-! ### The walk with a queue -/

/-- Visits the trees of a queue: the first one leaves the queue, and its children join it at the end. -/
def walkQueue : List Node → List Node
  | [] => []
  | n :: queue => n :: walkQueue (queue ++ n.children)
termination_by queue => sizeAll queue
decreasing_by
  rw [sizeAll, sizeAll_append, Node.size_eq]
  omega

/-- The front of a queue is visited as it stands, and its children wait behind the rest. -/
lemma walkQueue_append (front queue : List Node) :
    walkQueue (front ++ queue) = front ++ walkQueue (queue ++ front.flatMap Node.children) := by
  induction front generalizing queue with
  | nil => simp
  | cons n front ih =>
    rw [List.cons_append, walkQueue, List.append_assoc, ih, List.flatMap_cons, List.append_assoc,
      List.cons_append]

theorem walkLevels_eq_walkQueue (ns : List Node) : walkLevels ns = walkQueue ns := by
  induction ns using walkLevels.induct with
  | case1 => rw [walkLevels, walkQueue]
  | case2 n ns ih =>
    -- When a level has left the queue, the next one is all that is in it.
    have hlevel := walkQueue_append (n :: ns) []
    rw [List.append_nil, List.nil_append] at hlevel
    rw [walkLevels, ih, hlevel]

/-! ### The nodes of a tree -/

/-- What holds of a node if it holds of its children holds of every tree. -/
theorem Node.induct {motive : Node → Prop}
    (mk : ∀ kind children, (∀ child ∈ children, motive child) → motive (.mk kind children))
    (n : Node) : motive n :=
  @Node.rec motive (fun ns => ∀ child ∈ ns, motive child) mk (List.forall_mem_nil motive)
    (fun _ _ hn hns => List.forall_mem_cons.mpr ⟨hn, hns⟩) n

mutual

/-- The nodes of a tree, each before those below it. -/
def Node.nodes : Node → List Node
  | .mk kind children => .mk kind children :: nodesAll children

/-- The nodes of several trees. -/
def nodesAll : List Node → List Node
  | [] => []
  | n :: ns => n.nodes ++ nodesAll ns

end

lemma Node.nodes_eq (n : Node) : n.nodes = n :: nodesAll n.children := by
  cases n
  rw [Node.nodes, Node.children]

lemma nodesAll_eq_flatMap (ns : List Node) : nodesAll ns = ns.flatMap Node.nodes := by
  induction ns with
  | nil => rfl
  | cons n ns ih => rw [nodesAll, ih, List.flatMap_cons]

/-- One visit: the nodes of the queue are the one that is visited and those of the queue behind it. -/
lemma nodesAll_cons_perm (n : Node) (queue : List Node) :
    (nodesAll (n :: queue)).Perm (n :: nodesAll (queue ++ n.children)) := by
  have hqueue : nodesAll (queue ++ n.children) = nodesAll queue ++ nodesAll n.children := by
    simp only [nodesAll_eq_flatMap, List.flatMap_append]
  rw [nodesAll, Node.nodes_eq, hqueue, List.cons_append]
  exact List.perm_append_comm.cons n

/-- A whole walk comes to each node of the queue exactly once. -/
theorem walkQueue_perm (queue : List Node) : (walkQueue queue).Perm (nodesAll queue) := by
  -- The queue also grows while it is worked off, so the induction is along the walk and not on the list.
  induction queue using walkQueue.induct with
  | case1 => rw [walkQueue, nodesAll]
  | case2 n queue ih =>
    rw [walkQueue]
    exact (ih.cons n).trans (nodesAll_cons_perm n queue).symm

lemma Node.walk_eq_walkQueue (n : Node) : n.walk = walkQueue [n] :=
  walkLevels_eq_walkQueue [n]

theorem Node.walk_perm (n : Node) : n.walk.Perm n.nodes := by
  have hnodes : nodesAll [n] = n.nodes := by rw [nodesAll, nodesAll, List.append_nil]
  rw [n.walk_eq_walkQueue, ← hnodes]
  exact walkQueue_perm [n]

/-! ### Counting by recursion -/

mutual

/-- The number of nodes of a tree whose kind passes a test. -/
def Node.tally (p : Kind → Bool) : Node → Nat
  | .mk kind children => (p kind).toNat + tallyAll p children

/-- The number of such nodes of several trees. -/
def tallyAll (p : Kind → Bool) : List Node → Nat
  | [] => 0
  | n :: ns => n.tally p + tallyAll p ns

end

lemma Node.tally_eq (p : Kind → Bool) (n : Node) :
    n.tally p = (p n.kind).toNat + tallyAll p n.children := by
  cases n
  rw [Node.tally, Node.kind, Node.children]

lemma tallyAll_eq_sum (p : Kind → Bool) (ns : List Node) :
    tallyAll p ns = (ns.map (Node.tally p)).sum := by
  induction ns with
  | nil => rfl
  | cons n ns ih => rw [tallyAll, ih, List.map_cons, List.sum_cons]

lemma countP_cons_eq_toNat (p : Node → Bool) (n : Node) (ns : List Node) :
    (n :: ns).countP p = (p n).toNat + ns.countP p := by
  rw [List.countP_cons, Nat.add_comm]
  cases p n <;> rfl

/-- Going through the nodes of a tree counts what the recursion counts. -/
lemma Node.countP_nodes (p : Kind → Bool) (n : Node) :
    n.nodes.countP (fun m => p m.kind) = n.tally p := by
  induction n using Node.induct with
  | mk kind children ih =>
    have hbelow : (nodesAll children).countP (fun m => p m.kind) = tallyAll p children := by
      rw [nodesAll_eq_flatMap, tallyAll_eq_sum, List.countP_flatMap]
      exact congrArg List.sum (List.map_congr_left ih)
    rw [Node.nodes, countP_cons_eq_toNat, hbelow, Node.tally, Node.kind]

/-! ### Decisions -/

/-- The sorts of decisions, each of which adds to the complexity of a function. -/
inductive Decision where
  | branch
  | whileLoop
  | forLoop
  | attempt
  | context
  | handler
  | conjunction
  | disjunction
  deriving Repr, DecidableEq

namespace Decision

def all : List Decision :=
  [branch, whileLoop, forLoop, attempt, context, handler, conjunction, disjunction]

/-- Whether a node of some kind is a decision of this sort. Asynchronous loops and contexts are of no sort,
and neither are blocks whose handlers take groups. -/
def fits : Decision → Kind → Bool
  | branch, .statement .branch _ => true
  | whileLoop, .statement .whileLoop _ => true
  | forLoop, .statement (.forLoop isAsync) _ => !isAsync
  | attempt, .statement (.attempt groups) _ => !groups
  | context, .statement (.context isAsync) _ => !isAsync
  | handler, .part (.handler _) => true
  | conjunction, .part (.operator .and) => true
  | disjunction, .part (.operator .or) => true
  | _, _ => false

end Decision

/-- A kind is a decision of at most one sort. -/
lemma Kind.toNat_isDecision (k : Kind) :
    k.isDecision.toNat = (Decision.all.map fun d => (d.fits k).toNat).sum := by
  cases k with
  | module => rfl
  | expression e => rfl
  | statement s span =>
    cases s with
    | forLoop isAsync => cases isAsync <;> rfl
    | context isAsync => cases isAsync <;> rfl
    | attempt groups => cases groups <;> rfl
    | _ => rfl
  | part p =>
    cases p with
    | operator which => cases which <;> rfl
    | _ => rfl

/-- Decisions can be counted sort by sort. -/
lemma countP_isDecision (ns : List Node) :
    ns.countP (fun m => m.kind.isDecision) =
      (Decision.all.map fun d => ns.countP fun m => d.fits m.kind).sum := by
  induction ns with
  | nil => rfl
  | cons n ns ih =>
    simp only [countP_cons_eq_toNat, ih, List.sum_map_add, Kind.toNat_isDecision]

theorem Node.complexity_eq (n : Node) :
    n.complexity = 1 + (Decision.all.map fun d => n.tally d.fits).sum := by
  rw [Node.complexity, n.walk_perm.countP_eq, countP_isDecision]
  simp only [Node.countP_nodes]

/-! ### Trees inside a tree -/

/-- `m.Within n` says that `m` is `n`, or stands somewhere below it. -/
inductive Node.Within (m : Node) : Node → Prop
  | self : Within m m
  | child {c n : Node} (hc : c ∈ n.children) (hm : Within m c) : Within m n

variable {l m n : Node}

lemma Node.Within.trans (hm : m.Within n) (hl : l.Within m) : l.Within n := by
  induction hm with
  | self => exact hl
  | child hc _ ih => exact .child hc ih

lemma Node.mem_nodes_iff : m ∈ n.nodes ↔ m.Within n := by
  constructor
  · intro hm
    induction n using Node.induct with
    | mk kind children ih =>
      rw [Node.nodes, nodesAll_eq_flatMap, List.mem_cons, List.mem_flatMap] at hm
      rcases hm with rfl | ⟨c, hc, hm⟩
      · exact .self
      · exact .child hc (ih c hc hm)
  · intro hm
    induction hm with
    | self => simp [Node.nodes_eq]
    | child hc _ ih =>
      rw [Node.nodes_eq, nodesAll_eq_flatMap]
      exact List.mem_cons_of_mem _ (List.mem_flatMap.mpr ⟨_, hc, ih⟩)

/-- A tree has at least the nodes of each tree inside it. -/
lemma Node.Within.tally_le (hm : m.Within n) (p : Kind → Bool) : m.tally p ≤ n.tally p := by
  induction hm with
  | self => exact le_rfl
  | @child c n hc _ ih =>
    have hbelow : c.tally p ≤ tallyAll p n.children := by
      rw [tallyAll_eq_sum]
      exact List.le_sum_of_mem (List.mem_map_of_mem hc)
    rw [Node.tally_eq p n]
    omega

lemma Node.Within.complexity_le (hm : m.Within n) : m.complexity ≤ n.complexity := by
  rw [Node.complexity_eq, Node.complexity_eq]
  exact Nat.add_le_add_left (List.sum_le_sum fun d _ => hm.tally_le d.fits) 1

/-! ### Calls -/

/-- `n.Calls name` says that `n` is a call of something that goes by `name`: a name, or a member of
anything. -/
inductive Node.Calls : Node → String → Prop
  | name {callee : Node} {name : String} (h : callee.kind = .expression (.name name))
      (arguments : List Node) : Calls (.mk (.expression .call) (callee :: arguments)) name
  | member {callee : Node} {name : String} (h : callee.kind = .expression (.attribute name))
      (arguments : List Node) : Calls (.mk (.expression .call) (callee :: arguments)) name

lemma Node.callee?_eq_some_iff {name : String} : n.callee? = some name ↔ n.Calls name := by
  constructor
  · intro h
    unfold Node.callee? at h
    split at h
    · split at h
      case h_1 identifier hkind =>
        obtain rfl := Option.some.inj h
        exact .name hkind _
      case h_2 member hkind =>
        obtain rfl := Option.some.inj h
        exact .member hkind _
      case h_3 => cases h
    · cases h
  · rintro (⟨h, arguments⟩ | ⟨h, arguments⟩) <;> simp [Node.callee?, h]

lemma Node.mem_calls_iff {name : String} :
    name ∈ n.calls ↔ ∃ m : Node, m.Within n ∧ m.Calls name := by
  rw [Node.calls, List.mem_filterMap]
  simp only [n.walk_perm.mem_iff, Node.mem_nodes_iff, Node.callee?_eq_some_iff]

lemma Node.Within.calls_subset (hm : m.Within n) : m.calls ⊆ n.calls := by
  intro name hname
  obtain ⟨l, hl, hcalls⟩ := Node.mem_calls_iff.mp hname
  exact Node.mem_calls_iff.mpr ⟨l, hm.trans hl, hcalls⟩

/-- The metrics of a function are those of its tree. The walk takes trees from a queue and comes to each
node exactly once. The complexity is one more than the number of branches, loops, blocks with handlers,
contexts, handlers and logical operators in the tree, counted by recursion. The calls are those of the
call nodes in the tree. So a function that stands anywhere inside another one is at most as complex, and
calls nothing that the other one does not call. -/
theorem metrics_follow_tree (f : Node) :
    (f.walk = walkQueue [f] ∧ f.walk.Perm f.nodes) ∧
    f.complexity = 1 + (Decision.all.map fun d => f.tally d.fits).sum ∧
    (∀ name, name ∈ f.calls ↔ ∃ m : Node, m.Within f ∧ m.Calls name) ∧
    ∀ g : Node, g.Within f → g.complexity ≤ f.complexity ∧ g.calls ⊆ f.calls := by
  refine ⟨⟨f.walk_eq_walkQueue, f.walk_perm⟩, f.complexity_eq, fun _ => Node.mem_calls_iff, ?_⟩
  intro g hg
  exact ⟨hg.complexity_le, hg.calls_subset⟩

/-- The call `engine.step()`. -/
def engineStep : Node :=
  .expr .call [.expr (.attribute "step") [.expr (.name "engine") []]]

/-- A function with the body `while ready: engine.step()`. -/
def innerFunction : Node :=
  .mk (.statement (.functionDef ⟨"inner", by decide⟩ false) default)
    [.mk (.part (.parameters 0 0 false [] false)) [],
      .mk (.statement .whileLoop default)
        [.expr (.name "ready") [], .mk (.statement .expression default) [engineStep]]]

/-- A function with the inner one in its body, and then `if ready and willing: inner()`. -/
def outerFunction : Node :=
  .mk (.statement (.functionDef ⟨"outer", by decide⟩ false) default)
    [.mk (.part (.parameters 0 0 false [] false)) [],
      innerFunction,
      .mk (.statement .branch default)
        [.expr .logical
            [.mk (.part (.operator .and)) [], .expr (.name "ready") [], .expr (.name "willing") []],
          .mk (.statement .expression default) [.expr .call [.expr (.name "inner") []]]]]

theorem metrics_of_outerFunction :
    innerFunction.Within outerFunction ∧
    innerFunction.complexity = 2 ∧ outerFunction.complexity = 4 ∧
    innerFunction.complexity ≤ outerFunction.complexity ∧
    innerFunction.calls ⊆ outerFunction.calls ∧ "step" ∈ outerFunction.calls := by
  have hinner : innerFunction.Within outerFunction :=
    .child (List.mem_cons_of_mem _ List.mem_cons_self) .self
  obtain ⟨_, hcomplexity, hcalls, _⟩ := metrics_follow_tree innerFunction
  obtain ⟨_, houter, _, hnested⟩ := metrics_follow_tree outerFunction
  obtain ⟨hle, hsubset⟩ := hnested innerFunction hinner
  have hstep : engineStep.Within innerFunction :=
    .child (List.mem_cons_of_mem _ List.mem_cons_self)
      (.child (List.mem_cons_of_mem _ List.mem_cons_self) (.child List.mem_cons_self .self))
  have hcalled : "step" ∈ innerFunction.calls := (hcalls "step").mpr ⟨engineStep, hstep, .member rfl []⟩
  exact ⟨hinner, hcomplexity, houter, hle, hsubset, hsubset hcalled⟩

end CodeAtlas.Script
