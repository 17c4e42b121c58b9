import QueryFlow.Flow.Digraph

/-!
# Cycles of a directed graph

Nodes that reach each other are found in two passes over some nodes of a graph. Only edges between
these nodes count; the others might as well not be there.

The first pass *walks* through them in depth: it enters a node, then one by one the successors that
were not entered before, and leaves a node when no such successor is left. The nodes between the
present one and the first are the *path*; with each of them stand the successors that were not yet
tried.

The second pass takes the nodes in the opposite order, the one that was left last first, and
*gathers* with each of them whatever it is reached from and was not taken before.

* `leaving` — the nodes in the order of the second pass;
* `components` — what the second pass gathers;
* `cycles` — the components of at least two nodes.

## Stacks instead of recursion

Neither pass calls itself: the path of a walk and the waiting nodes of a gathering are lists in the
state, and a step looks at the head of the list alone. So each pass is a loop of small steps, and
what it keeps is proved of one step. Both end because of a number that every step makes smaller, and
both numbers count each node twice, since it is entered and left, or taken and looked at.

## Main results

* `Walk.step_cases`: a step of a walk leaves the present node or enters one new node, and it says
  which.
* `Walk.remaining_step` and `Gathering.remaining_step`: each step leaves less to do.
-/

namespace QueryFlow.Flow

namespace Digraph

/-! ### Walking -/

/-- The state of a walk in depth. A node is in one of three conditions: not entered, entered and
still on the path, or left. -/
structure Walk where
  /-- The nodes that were entered. -/
  seen : List Nat
  /-- The nodes that were left, the last one first. -/
  left : List Nat
  /-- The nodes that were entered and not left, the present one first, each with the successors that
  were not tried yet. -/
  path : List (Nat × List Nat)
deriving DecidableEq, Repr

namespace Walk

/-- The state before the first node is entered. -/
def start : Walk := ⟨[], [], []⟩

/-- Enters a node, which is put on the path with all its successors to be tried. -/
def enter (w : Walk) (d : Digraph) (node : Nat) : Walk :=
  { w with seen := node :: w.seen, path := (node, d.next node) :: w.path }

/-- A node is one of those that are walked through, and was not entered. Successors outside the
given nodes are never new, so that the walk passes them over. -/
def isNew (w : Walk) (nodes : List Nat) (node : Nat) : Bool :=
  nodes.contains node && !w.seen.contains node

/-- Enters the first new successor of the present node, or leaves the node if it has none. -/
def step? (d : Digraph) (nodes : List Nat) (w : Walk) : Option Walk :=
  match w.path with
  | [] => none
  | (node, untried) :: path =>
    match untried.dropWhile fun child => !w.isNew nodes child with
    | [] => some { w with left := node :: w.left, path }
    | child :: untried => some (enter { w with path := (node, untried) :: path } d child)

/-- **What a step does**: the present node is left if none of its untried successors is new, and
otherwise the first new one is entered. -/
theorem step_cases {d : Digraph} {nodes : List Nat} {w w' : Walk}
    (step : w.step? d nodes = some w') :
    ∃ node untried path, w.path = (node, untried) :: path ∧
      ((∀ t ∈ untried, w.isNew nodes t = false) ∧ w' = { w with left := node :: w.left, path } ∨
        ∃ skipped child rest, untried = skipped ++ child :: rest
          ∧ (∀ t ∈ skipped, w.isNew nodes t = false) ∧ w.isNew nodes child = true
          ∧ w' = enter { w with path := (node, rest) :: path } d child) := by
  unfold step? at step
  split at step
  · nomatch step
  · next node untried path present =>
    refine ⟨node, untried, path, present, ?_⟩
    have parts := List.takeWhile_append_dropWhile (p := fun t => !w.isNew nodes t) (l := untried)
    have skipped : ∀ t ∈ untried.takeWhile (fun t => !w.isNew nodes t), w.isNew nodes t = false :=
      fun t member => by simpa using List.all_eq_true.1 List.all_takeWhile t member
    split at step
    · next none =>
      injection step with step
      rw [none, List.append_nil] at parts
      exact .inl ⟨parts ▸ skipped, step.symm⟩
    · next child rest first =>
      injection step with step
      have new := List.head?_dropWhile_not (fun t => !w.isNew nodes t) untried
      rw [first] at parts new
      exact .inr ⟨_, child, rest, parts.symm, skipped, by simpa using new, step.symm⟩

/-- A bound for the steps that are left: every node is entered at most once, and left once. -/
def remaining (nodes : List Nat) (w : Walk) : Nat :=
  2 * (nodes.filter (w.isNew nodes)).length + w.path.length

/-- **Every step leaves less to do.** -/
theorem remaining_step {d : Digraph} {nodes : List Nat} {w w' : Walk}
    (step : w.step? d nodes = some w') : w'.remaining nodes < w.remaining nodes := by
  obtain ⟨node, untried, path, present, ⟨-, rfl⟩ | ⟨skipped, child, rest, -, -, new, rfl⟩⟩ :=
    step_cases step
  · have same : isNew { w with left := node :: w.left, path } nodes = w.isNew nodes := rfl
    simp [remaining, same, present]
  · have member : child ∈ nodes := by
      simp only [isNew, Bool.and_eq_true, List.contains_iff_mem] at new
      exact new.1
    have kept : nodes.filter (isNew (enter { w with path := (node, rest) :: path } d child) nodes)
        = (nodes.filter (w.isNew nodes)).filter (· != child) := by
      rw [List.filter_filter]
      refine List.filter_congr fun v _ => ?_
      simp only [isNew, enter, List.contains_cons]
      grind
    have fewer := List.length_filter_lt_length_iff_exists (p := (· != child)).2
      ⟨child, List.mem_filter.2 ⟨member, new⟩, by simp⟩
    simp only [remaining, kept]
    simp only [enter, present, List.length_cons]
    omega

/-- The walk to its end. -/
def finish (d : Digraph) (nodes : List Nat) (w : Walk) : Walk :=
  match _step : w.step? d nodes with
  | none => w
  | some w' => w'.finish d nodes
termination_by w.remaining nodes
decreasing_by exact remaining_step _step

/-- Walks from a root to the end, unless the root was entered in an earlier walk. -/
def visit (d : Digraph) (nodes : List Nat) (w : Walk) (root : Nat) : Walk :=
  if w.seen.contains root then w else (w.enter d root).finish d nodes

end Walk

/-- The nodes in the opposite of the order in which walks from each of them leave them: the last one
that was left comes first. -/
def leaving (d : Digraph) (nodes : List Nat) : List Nat :=
  (nodes.foldl (Walk.visit d nodes) Walk.start).left

/-! ### Gathering -/

/-- The state of the work on one component. What was taken for earlier components stays taken, so
that no node is gathered twice. -/
structure Gathering where
  /-- The nodes that were taken, for this component or an earlier one. -/
  taken : List Nat
  /-- The nodes that were taken and not looked at. -/
  waiting : List Nat
  /-- The nodes of the component that were looked at. -/
  members : List Nat
deriving DecidableEq, Repr

namespace Gathering

/-- The nodes that were not taken. -/
def untaken (nodes : List Nat) (c : Gathering) : List Nat :=
  nodes.filter fun node => !c.taken.contains node

/-- The untaken nodes with an edge to a node: the second pass follows edges from their ends to their
starts. -/
def newBefore (d : Digraph) (nodes : List Nat) (c : Gathering) (node : Nat) : List Nat :=
  (c.untaken nodes).filter fun source => (d.next source).contains node

/-- Looks at the node that was taken last, and takes what has an edge to it. -/
def step? (d : Digraph) (nodes : List Nat) (c : Gathering) : Option Gathering :=
  match c.waiting with
  | [] => none
  | node :: waiting =>
    let found := c.newBefore d nodes node
    some ⟨c.taken ++ found, found.reverse ++ waiting, c.members ++ [node]⟩

/-- A bound for the steps that are left: every node is taken at most once, and looked at once. -/
def remaining (nodes : List Nat) (c : Gathering) : Nat :=
  (c.untaken nodes).length + c.waiting.length

/-- **Every step leaves less to do.** -/
theorem remaining_step {d : Digraph} {nodes : List Nat} {c c' : Gathering}
    (step : c.step? d nodes = some c') : c'.remaining nodes < c.remaining nodes := by
  unfold step? at step
  split at step
  · nomatch step
  · next node waiting first =>
    injection step with step
    subst step
    have kept : untaken nodes ⟨c.taken ++ c.newBefore d nodes node,
          (c.newBefore d nodes node).reverse ++ waiting, c.members ++ [node]⟩ =
        (c.untaken nodes).filter fun source => ¬ (d.next source).contains node = true := by
      rw [untaken, untaken, List.filter_filter]
      refine List.filter_congr fun source member => ?_
      simp [newBefore, untaken, member]
      grind
    have parts := List.length_eq_countP_add_countP (fun source => (d.next source).contains node)
      (l := c.untaken nodes)
    simp only [List.countP_eq_length_filter] at parts
    simp only [remaining, kept, first, List.length_cons, List.length_append, List.length_reverse]
    simp only [newBefore]
    omega

/-- The work on a component to its end. -/
def finish (d : Digraph) (nodes : List Nat) (c : Gathering) : Gathering :=
  match _step : c.step? d nodes with
  | none => c
  | some c' => c'.finish d nodes
termination_by c.remaining nodes
decreasing_by exact remaining_step _step

end Gathering

/-- The components that the nodes of a list belong to, where some nodes were taken before. A node of
the list that was taken for an earlier component starts none. -/
def componentsOf (d : Digraph) (nodes : List Nat) : List Nat → List Nat → List (List Nat)
  | _, [] => []
  | taken, root :: roots =>
    if taken.contains root then d.componentsOf nodes taken roots
    else
      let c := Gathering.finish d nodes ⟨root :: taken, [root], []⟩
      c.members :: d.componentsOf nodes c.taken roots

/-- The sets of nodes that reach each other, where the second pass takes the nodes in the order in
which the first one left them, the last one first. -/
def components (d : Digraph) (nodes : List Nat) : List (List Nat) :=
  d.componentsOf nodes [] (d.leaving nodes)

/-- The sets of at least two nodes that reach each other. A node alone is no cycle, since there are
no edges from a node to itself. -/
def cycles (d : Digraph) (nodes : List Nat) : List (List Nat) :=
  (d.components nodes).filter fun component => decide (1 < component.length)

end Digraph

end QueryFlow.Flow
