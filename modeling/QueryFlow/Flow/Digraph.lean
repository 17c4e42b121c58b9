/-!
# Directed graphs and their order

A directed graph on the nodes `0, …, n - 1` is given by the successors of each node. The graphs here
have no edge from a node to itself, and no edge twice; both are part of the type, so that the work
on an order never has to ask for them.

Its nodes are placed in order, front by front: a node is *ready* when all its predecessors are
placed, and the node that has been ready longest is placed next. The state of the work is a `Front`:
the nodes placed so far, those that are ready, and for every node how many of its predecessors are
not placed. Placing a node takes one from the number of each of its successors, and a successor
whose number becomes zero is ready behind all others. When no node is ready, every node that is not
placed lies on a cycle or behind one.

* `order` — the nodes that can be placed, in the order in which they are;
* `blocked` — those that cannot, in ascending order.

## Why there are as many steps as nodes

A step is partial: `step?` places one node or finds that none is ready. The work is run for as many
steps as the graph has nodes, and stops early when none is ready. This bound is not a cut-off: every
step places another node, no node is placed twice, and so nothing can be ready when the steps are
used up. That, and what the numbers mean while the work goes on, is the theory of sound fronts.

## Main results

* `lt_size_of_mem_next`, `nodup_next` and `notMem_next_self`: what a graph promises of the
  successors of a node, also of one outside the graph, which has none.
* `mem_blocked`: the blocked nodes are those that wait for a predecessor in the end.
-/

namespace QueryFlow.Flow

/-- A directed graph, by the successors of each node. The three fields that are no data say that the
lists of successors are those of a simple graph: they name nodes of the graph, each of them once,
and never the node whose list it is. -/
structure Digraph where
  successors : List (List Nat)
  /-- Every edge ends in a node. -/
  bounded : ∀ targets ∈ successors, ∀ node ∈ targets, node < successors.length
  /-- No edge is there twice. -/
  nodup : ∀ targets ∈ successors, targets.Nodup
  /-- No edge ends where it starts. -/
  loopless : ∀ (node : Nat) (targets : List Nat), successors[node]? = some targets → node ∉ targets
deriving DecidableEq, Repr

namespace Digraph

/-- The number of nodes. -/
def size (d : Digraph) : Nat := d.successors.length

/-- The successors of a node. A node that is not one of the graph has none, so that there is no edge
to speak of outside the graph. -/
def next (d : Digraph) (node : Nat) : List Nat := d.successors[node]?.getD []

/-- How many edges end in a node, counted over the lists of all nodes together. -/
def inDegree (d : Digraph) (node : Nat) : Nat := d.successors.flatten.count node

/-- The successors of a node, found at its place. -/
theorem next_of_getElem? {d : Digraph} {node : Nat} {targets : List Nat}
    (found : d.successors[node]? = some targets) : d.next node = targets := by
  simp [next, found]

/-- A node outside the graph has no successors. -/
theorem next_of_size_le {d : Digraph} {node : Nat} (outside : d.size ≤ node) :
    d.next node = [] := by
  simp [next, List.getElem?_eq_none outside]

/-- The successors of a node of the graph are one of its lists. -/
theorem next_mem_successors {d : Digraph} {node : Nat} (inside : node < d.size) :
    d.next node ∈ d.successors := by
  rw [next_of_getElem? (List.getElem?_eq_getElem inside)]
  exact List.getElem_mem inside

/-- An edge starts in a node of the graph. -/
theorem lt_size_of_next {d : Digraph} {source target : Nat} (edge : target ∈ d.next source) :
    source < d.size := by
  refine Nat.lt_of_not_le fun outside => ?_
  rw [next_of_size_le outside] at edge
  nomatch edge

/-- **Every edge ends in a node of the graph.** -/
theorem lt_size_of_mem_next {d : Digraph} {source target : Nat} (edge : target ∈ d.next source) :
    target < d.size :=
  d.bounded _ (next_mem_successors (lt_size_of_next edge)) _ edge

/-- **No successor is listed twice.** -/
theorem nodup_next (d : Digraph) (node : Nat) : (d.next node).Nodup := by
  rcases Nat.lt_or_ge node d.size with inside | outside
  · exact d.nodup _ (next_mem_successors inside)
  · simp [next_of_size_le outside]

/-- **No node is its own successor.** -/
theorem notMem_next_self (d : Digraph) (node : Nat) : node ∉ d.next node := by
  intro edge
  have inside := lt_size_of_next edge
  have found := List.getElem?_eq_getElem inside
  rw [next_of_getElem? found] at edge
  exact d.loopless node _ found edge

/-! ### Order -/

/-- The state of the work on an order. The order itself is read off `placed` in the end; the other
two fields are there to find the next node without looking at the edges again. -/
structure Front where
  /-- For every node, how many of its predecessors are not placed. -/
  waits : List Nat
  /-- The nodes whose predecessors are all placed, in the order in which they became so. -/
  ready : List Nat
  /-- The nodes that are placed, the last one first. -/
  placed : List Nat
deriving DecidableEq, Repr

namespace Front

/-- How many predecessors of a node are not placed, by the number that is kept of it. That this is
the number of such predecessors is an invariant of the work and not part of the definition. -/
def waitsFor (s : Front) (node : Nat) : Nat := s.waits[node]?.getD 0

/-- One more predecessor of a node is placed, which becomes ready if this was the last one it waited
for. The number is a difference of naturals, so that it would stay at zero; no released node is at
zero, as it still waits for the node that is placed. -/
def release (s : Front) (node : Nat) : Front :=
  let left := s.waitsFor node - 1
  { s with
    waits := s.waits.set node left
    ready := if left = 0 then s.ready ++ [node] else s.ready }

end Front

/-- The state before any node is placed: every node waits for all its predecessors, and those that
have none are ready in ascending order. -/
def start (d : Digraph) : Front :=
  { waits := (List.range d.size).map d.inDegree
    ready := (List.range d.size).filter fun node => d.inDegree node == 0
    placed := [] }

/-- Places the node that has been ready longest and releases its successors one by one, if a node is
ready. -/
def step? (d : Digraph) (s : Front) : Option Front :=
  match s.ready with
  | [] => none
  | node :: ready =>
    some ((d.next node).foldl Front.release { s with ready, placed := node :: s.placed })

/-- The state after at most `n` steps. The work stays where it is when no node is ready. -/
def run (d : Digraph) : Nat → Front → Front
  | 0, s => s
  | n + 1, s =>
    match d.step? s with
    | none => s
    | some s => d.run n s

/-- The state when no further node can be placed. There are as many steps as nodes, which is enough
since each of them places another node. -/
def final (d : Digraph) : Front := d.run d.size d.start

/-- The nodes that can be placed, each behind its predecessors. A node on a cycle is none of them,
and neither is one that a cycle reaches. -/
def order (d : Digraph) : List Nat := d.final.placed.reverse

/-- The nodes that cannot be placed, in ascending order: those that still wait for a predecessor
when nothing is ready. -/
def blocked (d : Digraph) : List Nat :=
  (List.range d.size).filter fun node => decide (0 < d.final.waitsFor node)

/-- **A blocked node waits for a predecessor.** -/
theorem mem_blocked {d : Digraph} {node : Nat} :
    node ∈ d.blocked ↔ node < d.size ∧ 0 < d.final.waitsFor node := by
  simp [blocked]

end Digraph

end QueryFlow.Flow
