import QueryFlow.Fault
import QueryFlow.Flow.Component
import QueryFlow.Flow.Graph

/-!
# Phases

The queries of a flow graph are laid out in phases. A query that reads a table runs after every
query that writes it, wherever they stand in the log: its phase is one more than the greatest phase
of a query that writes one of its sources, and zero if none of its sources is written. Only the
sources that a query does not write itself are asked for their writers.

Phases exist unless the tables depend on each other in cycles. Then all cycles are reported and no
phase is.

* `Graph.dependencies` — which table is written from which other ones;
* `Graph.rank` — the phase of every query that writes something;
* `Graph.phases` — the phases, or the fault that names the cycles.

## How phases are given

The tables are taken in an order in which each comes behind those that it depends on. The writers of
a table get their phases when the table is taken, unless they have got them with an earlier one of
their targets. What is known so far are the `Ranks`: the phase of every query that has one, and for
every table the greatest phase of those of its writers that have theirs.

When a query gets its phase, its targets may be tables that were taken before or will be taken
later; all of them learn of the phase at once. So the number of a table may still grow after the
table was taken. It does not grow any more when a query reads it: that query has a target, which
depends on the table unless the query writes it too, and so the target is taken behind the table and
behind all of its writers.

A query that writes nothing has no phase, and neither has one that could not be placed; the number
of phases is one more than the greatest phase that was given.

## Main results

* `mem_dependents`: a node depends on another one if a query moves rows from that one to it.
* `next_dependencies` and `size_dependencies`: the digraph of dependencies has these successors, and
  the nodes of the graph.
-/

namespace QueryFlow.Flow

/-- Queries that may run side by side, with the names of the tables that they write. -/
structure Phase where
  index : Nat
  /-- The queries, in their order. -/
  queries : List Nat
  /-- What the queries write. -/
  tables : NameSet
deriving DecidableEq

/-- The phases that are known while they are given: nothing is known at first, and a query that has
a phase keeps it. -/
structure Ranks where
  /-- The greatest phase of a query that writes the table, table by table. -/
  tables : List (Option Nat)
  /-- The phase of the query, query by query. -/
  queries : List (Option Nat)
deriving DecidableEq, Repr

namespace Ranks

/-- The greatest phase so far of a query that writes the table, if one of its writers has a phase.
-/
def table? (r : Ranks) (node : Nat) : Option Nat := r.tables[node]?.join

/-- The phase of a query, if it has one. -/
def query? (r : Ranks) (query : Nat) : Option Nat := r.queries[query]?.join

/-- The first phase after all those in which the outer sources of a query are written, as far as
these phases are known; zero if none of them is written. -/
def above (r : Ranks) (f : Footprint) : Nat :=
  f.outerSources.foldl (fun phase node => max phase ((r.table? node).elim 0 (· + 1))) 0

/-- A table is written in a phase, which counts for the table if it is greater than those before. -/
def write (phase : Nat) (r : Ranks) (node : Nat) : Ranks :=
  { r with tables := r.tables.set node (some (max phase ((r.table? node).getD 0))) }

/-- Gives a query of a footprint its phase, unless it has one, and lets all its targets know of it.
-/
def place (r : Ranks) (query : Nat) (f : Footprint) : Ranks :=
  match r.query? query with
  | some _ => r
  | none =>
    let phase := r.above f
    f.targets.foldl (write phase) { r with queries := r.queries.set query (some phase) }

end Ranks

namespace Graph

/-- The nodes that are written from a node, without itself and in ascending order. Several queries
between two nodes make one dependency, and a query between a node and itself makes none. -/
def dependents (g : Graph) (node : Nat) : List Nat :=
  let targets := (g.edges.filter fun e => e.source == node).map Edge.target
  (List.range g.nodes.length).filter fun t => t != node && targets.contains t

/-- **A node depends on another one if a query moves rows from that one to it.** -/
theorem mem_dependents {g : Graph} {source target : Nat} :
    target ∈ g.dependents source ↔
      target < g.nodes.length ∧ target ≠ source
        ∧ ∃ e ∈ g.edges, e.source = source ∧ e.target = target := by
  simp [dependents, and_assoc]

/-- Which node is written from which other ones, as a digraph. It forgets which queries move the
rows, and how many do. -/
def dependencies (g : Graph) : Digraph where
  successors := (List.range g.nodes.length).map g.dependents
  bounded := by
    intro targets listed node member
    obtain ⟨source, -, rfl⟩ := List.mem_map.1 listed
    simpa using (mem_dependents.1 member).1
  nodup := by
    intro targets listed
    obtain ⟨source, -, rfl⟩ := List.mem_map.1 listed
    exact List.nodup_range.sublist List.filter_sublist
  loopless := by
    intro node targets found member
    obtain ⟨_, ⟨-, rfl⟩, rfl⟩ : ∃ source, (node < g.nodes.length ∧ node = source)
        ∧ g.dependents source = targets := by
      simpa [List.getElem?_eq_some_iff] using found
    exact (mem_dependents.1 member).2.1 rfl

/-- The names of some nodes, in ascending order. The positions are those of nodes, so that none of
the names is missing. -/
def names (g : Graph) (nodes : List Nat) : List String :=
  (nodes.filterMap g.nodeName?).mergeSort fun a b => decide (a ≤ b)

/-- The cycles in which nodes depend on each other: their names in order, and the cycles in order
themselves, as lists of words are. -/
def cycles (g : Graph) : List (List String) :=
  let d := g.dependencies
  ((d.cycles d.blocked).map g.names).mergeSort fun a b => !b.lex a fun x y => decide (x < y)

/-- Gives the queries that a table of writers has for a node their phases, one after the other in
the order of the log. -/
def rankWriters (g : Graph) (writers : List (List Nat)) (r : Ranks) (node : Nat) : Ranks :=
  (writers[node]?.getD []).foldl
    (fun r query => (g.footprint? query).elim r fun f => r.place query f) r

/-- The phase of every query that writes something, where the nodes are taken in an order. The table
of writers is made once and serves for all nodes. -/
def rankAlong (g : Graph) (order : List Nat) : Ranks :=
  order.foldl (g.rankWriters g.writers)
    ⟨List.replicate g.nodes.length none, List.replicate g.queries.length none⟩

/-- The phase of every query that writes something, with the nodes in the order of their
dependencies. -/
def rank (g : Graph) : Ranks := g.rankAlong g.dependencies.order

/-- The names that some queries write, each once and in ascending order. -/
def written (g : Graph) (queries : List Nat) : NameSet :=
  .ofList <| queries.flatMap fun query =>
    (g.footprint? query).elim [] fun f => f.targets.filterMap g.nodeName?

/-- The phase of an index: the queries that have it, in the order of the log, and what they write.
-/
def phaseAt (g : Graph) (r : Ranks) (index : Nat) : Phase :=
  let queries := (List.range g.queries.length).filter fun query => r.query? query == some index
  ⟨index, queries, g.written queries⟩

/-- The number of phases, one more than the greatest that a query has, and zero if no query has one.
-/
def phaseCount (r : Ranks) : Nat :=
  r.queries.foldl (fun count phase => max count (phase.elim 0 (· + 1))) 0

/-- The phases of the queries, unless nodes depend on each other in cycles. In that case the fault
names every cycle, and no phase is given at all. -/
def phases (g : Graph) : Except Fault (List Phase) :=
  if g.dependencies.blocked.isEmpty then
    let r := g.rank
    .ok ((List.range (phaseCount r)).map (g.phaseAt r))
  else
    .error (.cyclic g.cycles)

/-- The nodes of the graph are those of the dependencies. -/
@[simp] theorem size_dependencies (g : Graph) : g.dependencies.size = g.nodes.length := by
  simp [dependencies, Digraph.size]

/-- The successors of a node are those that depend on it. -/
theorem next_dependencies {g : Graph} {node : Nat} (bound : node < g.nodes.length) :
    g.dependencies.next node = g.dependents node := by
  simp [dependencies, Digraph.next, bound]

end Graph

end QueryFlow.Flow
