import Mathlib.Data.List.Nodup
import QueryFlow.Flow.Phase
import QueryFlow.Proofs.Flow.Reach

/-!
# How a flow graph grows

A flow graph has *grown* if nodes and queries were added to the empty graph, in any order and
number. What every such graph keeps is said here once; all later modules argue from it and do not
open the functions that add something.

## The index and the nodes

The graph finds a name through its *index*, a table from names to positions that is kept beside the
list of nodes. The two could disagree: a name might be missing from the index, be found at a
position where no node is, or stand for two nodes. `Indexed` says that they agree at every name and
every position. A node is added only when the index does not know its name, and then at the end of
the nodes and with that position in the index (`Indexed.push`). No two nodes having one name is not
asked for besides: the index would have to give two positions for the name (`Indexed.nodup`).

## Validity

A graph is `Valid` if its index agrees with its nodes, its queries read and write nodes that are
there, and its edges are those of the queries in their order. The steps are arranged by what they
leave alone. Adding a node, or several, `Extends` a graph: edges and queries stay as they are, the
nodes are a beginning of the new ones, and an index in step stays so. Whatever extends a valid graph
is valid, so that in `Valid.addQuery` only the last step is left, which puts the footprint and its
edges behind the others. Validity of all that has grown is then an induction with one case for each
way to grow.

## Reading, writing and feeding

On a valid graph it is enough to know which query `Reads` and which one `Writes` a node. A node
`Feeds` another one if some query reads the one and writes the other; this is the relation of which
the digraph of dependencies is an image (`Valid.edge_dependencies_iff`), and which is used where
cycles and phases are described.

## Main results

* `Indexed.push` and `Grown.valid`: a new node keeps index and nodes in step, and what has grown is
  valid.
* `Valid.mem_edges`: an edge leads from what a query reads to what it writes.
* `Valid.mem_writers_iff`: the table of writers lists the queries that write a node.
* `Valid.edge_dependencies_iff`: the digraph of dependencies has the edges of the graph without
  loops.
-/

namespace QueryFlow.Flow.Graph

open QueryFlow.Text

/-- A graph that nodes and queries were added to, and nothing else. Every graph that an analysis
builds is one. -/
inductive Grown : Graph → Prop
  | empty : Grown empty
  | addNode {g : Graph} (name : String) : Grown g → Grown (g.addNode name).1
  | addQuery {g : Graph} (c : Classification) : Grown g → Grown (g.addQuery c).1

/-- The index and the nodes of a graph say the same: a name has a position in the index exactly if it
is the name of the node there. So no name is missing from the index, and none stands at two nodes. -/
def Indexed (g : Graph) : Prop :=
  ∀ name node, g.index.lookup name = some node ↔ g.nodes[node]? = some name

/-- What is promised of a flow graph, and kept by whatever is added to it. -/
structure Valid (g : Graph) : Prop where
  /-- The index finds every node under its name, and nothing else. -/
  indexed : g.Indexed
  /-- Queries read and write nodes of the graph. -/
  bounded : ∀ f ∈ g.queries, ∀ n ∈ f.sources ++ f.targets, n < g.nodes.length
  /-- The edges are those of the queries, in their order. -/
  edges_eq : g.edges = g.queries.zipIdx.flatMap fun (f, query) => f.edges query

/-- The query at a position reads a node. -/
def Reads (g : Graph) (query node : Nat) : Prop :=
  ∃ f, g.footprint? query = some f ∧ node ∈ f.sources

/-- The query at a position writes a node. -/
def Writes (g : Graph) (query node : Nat) : Prop :=
  ∃ f, g.footprint? query = some f ∧ node ∈ f.targets

/-- Some query moves rows from a node to another one. A query that reads and writes the same node
moves nothing between different nodes and does not count. -/
def Feeds (g : Graph) (source target : Nat) : Prop :=
  source ≠ target ∧ ∃ e ∈ g.edges, e.source = source ∧ e.target = target

/-! ### The index -/

section Indexed

variable {g h : Graph} {name : String}

/-- A name is in the index if it is the name of a node. -/
theorem Indexed.isSome_lookup_iff (indexed : g.Indexed) :
    (g.index.lookup name).isSome = true ↔ name ∈ g.nodes := by
  simp only [Option.isSome_iff_exists, indexed name, List.mem_iff_getElem?]

/-- A name is not in the index if no node has it. -/
theorem Indexed.lookup_eq_none_iff (indexed : g.Indexed) :
    g.index.lookup name = none ↔ name ∉ g.nodes := by
  rw [← indexed.isSome_lookup_iff, Bool.not_eq_true, Option.isSome_eq_false_iff,
    Option.isNone_iff_eq_none]

/-- No two nodes have one name: the index would have to give both positions. -/
theorem Indexed.nodup (indexed : g.Indexed) : g.nodes.Nodup := by
  refine List.nodup_iff_getElem?_ne_getElem?.2 fun i j less bound same => ?_
  have named := List.getElem?_eq_getElem (Nat.lt_trans less bound)
  have first := (indexed _ i).2 named
  have second := (indexed _ j).2 (same.symm.trans named)
  exact Nat.ne_of_lt less (Option.some.inj (first.symm.trans second))

/-- Graphs with the same nodes find a name at the same position, whatever the indices look like. -/
theorem Indexed.lookup_congr (indexed : g.Indexed) (indexed' : h.Indexed)
    (same : g.nodes = h.nodes) (name : String) : g.index.lookup name = h.index.lookup name :=
  Option.ext fun node => by rw [indexed name node, indexed' name node, same]

/-- The graph without nodes has nothing to look up. -/
theorem indexed_empty : empty.Indexed := by
  simp [Indexed, empty]

/-- **A node that is added to the list and to the index keeps them in step**, if the index did not
know its name. For any other name the index answers as before, and at any other position the nodes
are as before. -/
theorem Indexed.push (indexed : g.Indexed) (missing : g.index.lookup name = none) :
    Indexed { g with
      nodes := g.nodes ++ [name]
      index := (name, g.nodes.length) :: g.index } := by
  intro other node
  have absent : name ∉ g.nodes := indexed.lookup_eq_none_iff.1 missing
  rw [List.lookup_cons]
  rcases eq_or_ne other name with rfl | different
  · -- the name is at the last position, and at no earlier one
    rw [beq_self_eq_true, Option.some.injEq]
    constructor
    · rintro rfl
      exact List.getElem?_concat_length
    · intro found
      by_contra elsewhere
      rw [List.getElem?_append] at found
      split at found
      · exact absent (List.mem_of_getElem? found)
      · have := (List.getElem?_eq_some_iff.1 found).1
        grind
  · -- any other name is where it was
    rw [beq_false_of_ne different, indexed other node, List.getElem?_append]
    split
    · rfl
    · grind

end Indexed

/-! ### Adding nodes -/

/-- A name that is known adds nothing. -/
theorem addNode_of_mem {g : Graph} (indexed : g.Indexed) {name : String}
    (known : lowercase name ∈ g.nodes) : (g.addNode name).1 = g := by
  obtain ⟨node, found⟩ := Option.isSome_iff_exists.1 (indexed.isSome_lookup_iff.2 known)
  simp [addNode, found]

/-- A new name becomes the last node. -/
theorem nodes_addNode_of_notMem {g : Graph} (indexed : g.Indexed) {name : String}
    (new : lowercase name ∉ g.nodes) :
    (g.addNode name).1.nodes = g.nodes ++ [lowercase name] := by
  simp [addNode, indexed.lookup_eq_none_iff.2 new]

/-- What adding nodes to a graph leaves as it is, and what it may add to. The relation composes, so
that adding several nodes needs no argument of its own. -/
structure Extends (g h : Graph) : Prop where
  edges : h.edges = g.edges
  queries : h.queries = g.queries
  nodes : g.nodes <+: h.nodes
  indexed : g.Indexed → h.Indexed

theorem Extends.refl (g : Graph) : g.Extends g := ⟨rfl, rfl, List.prefix_refl _, id⟩

theorem Extends.trans {g h k : Graph} (first : g.Extends h) (second : h.Extends k) : g.Extends k :=
  ⟨second.edges.trans first.edges, second.queries.trans first.queries,
    first.nodes.trans second.nodes, second.indexed ∘ first.indexed⟩

/-- **Adding a node leaves the rest of a graph as it is**, and the index in step with the nodes. -/
theorem extends_addNode (g : Graph) (name : String) : g.Extends (g.addNode name).1 := by
  cases found : g.index.lookup (lowercase name) with
  | some node =>
      have same : (g.addNode name).1 = g := by simp [addNode, found]
      rw [same]
      exact .refl g
  | none =>
      have pushed : (g.addNode name).1 = { g with
          nodes := g.nodes ++ [lowercase name]
          index := (lowercase name, g.nodes.length) :: g.index } := by
        simp [addNode, found]
      rw [pushed]
      exact ⟨rfl, rfl, List.prefix_append .., fun indexed => indexed.push found⟩

/-- An added node has the name in lower case. -/
theorem nodeName?_addNode {g : Graph} (indexed : g.Indexed) (name : String) :
    (g.addNode name).1.nodeName? (g.addNode name).2 = some (lowercase name) :=
  ((extends_addNode g name).indexed indexed _ _).1 (nodeIndex?_addNode g name)

/-- The position of an added node is one of the graph. -/
theorem addNode_lt {g : Graph} (indexed : g.Indexed) (name : String) :
    (g.addNode name).2 < (g.addNode name).1.nodes.length :=
  (List.getElem?_eq_some_iff.1 (nodeName?_addNode indexed name)).1

/-- **Adding nodes leaves the rest of a graph as it is.** By induction on the names. -/
theorem extends_addNodes (g : Graph) (names : List String) : g.Extends (g.addNodes names).1 := by
  induction names generalizing g with
  | nil => exact .refl g
  | cons name names ih => exact (extends_addNode g name).trans (ih (g.addNode name).1)

/-- The positions of added nodes are those of the graph. -/
theorem addNodes_lt {g : Graph} (indexed : g.Indexed) (names : List String) :
    ∀ n ∈ (g.addNodes names).2, n < (g.addNodes names).1.nodes.length := by
  induction names generalizing g with
  | nil => simp [addNodes]
  | cons name names ih =>
      intro n member
      rcases List.mem_cons.1 member with rfl | member
      · exact Nat.lt_of_lt_of_le (addNode_lt indexed name)
          (extends_addNodes (g.addNode name).1 names).nodes.length_le
      · exact ih ((extends_addNode g name).indexed indexed) n member

/-! ### Growing -/

/-- Adding a node keeps a graph valid. -/
theorem Valid.of_extends {g h : Graph} (valid : g.Valid) (more : g.Extends h) : h.Valid where
  indexed := more.indexed valid.indexed
  bounded := by
    intro f hf n hn
    rw [more.queries] at hf
    exact Nat.lt_of_lt_of_le (valid.bounded f hf n hn) more.nodes.length_le
  edges_eq := by rw [more.edges, more.queries, valid.edges_eq]

/-- A query is added behind its nodes: first its sources become nodes, then its targets, and then
the footprint of the positions they got is put behind the others, with its edges. -/
theorem addQuery_fst (g : Graph) (c : Classification) :
    ∃ h sources k targets, g.addNodes c.sources.toList = (h, sources)
      ∧ h.addNodes c.targets.toList = (k, targets)
      ∧ (g.addQuery c).1 =
        { k with
          edges := k.edges ++ Footprint.edges ⟨sources, targets⟩ g.queries.length
          queries := k.queries ++ [⟨sources, targets⟩] } :=
  ⟨_, _, _, _, rfl, rfl, rfl⟩

/-- **Adding a query keeps a graph valid**: its edges and its footprint speak of nodes that are
there by then. -/
theorem Valid.addQuery {g : Graph} (valid : g.Valid) (c : Classification) :
    (g.addQuery c).1.Valid := by
  obtain ⟨h, sources, k, targets, read, written, eq⟩ := addQuery_fst g c
  have more := extends_addNodes g c.sources.toList
  have more' := extends_addNodes h c.targets.toList
  have boundSources := addNodes_lt valid.indexed c.sources.toList
  simp only [read] at more boundSources
  have boundTargets := addNodes_lt (more.indexed valid.indexed) c.targets.toList
  simp only [written] at more' boundTargets
  rw [eq]
  have valid' := valid.of_extends (more.trans more')
  have same := more'.queries.trans more.queries
  refine ⟨valid'.indexed, fun f hf n hn => ?_, ?_⟩
  · rcases List.mem_append.1 hf with hf | hf
    · exact valid'.bounded f hf n hn
    · obtain rfl := List.mem_singleton.1 hf
      rcases List.mem_append.1 hn with hn | hn
      · exact Nat.lt_of_lt_of_le (boundSources n hn) more'.nodes.length_le
      · exact boundTargets n hn
  · simp [valid'.edges_eq, same, List.zipIdx_append]

/-- **What has grown is valid.** By induction on the growth of the graph, step by step. -/
theorem Grown.valid {g : Graph} (grown : g.Grown) : g.Valid := by
  induction grown with
  | empty => exact ⟨indexed_empty, by simp [Graph.empty], rfl⟩
  | addNode name _ ih => exact ih.of_extends (extends_addNode _ name)
  | addQuery c _ ih => exact ih.addQuery c

/-- No two nodes have one name. -/
theorem Valid.nodup {g : Graph} (valid : g.Valid) : g.nodes.Nodup := valid.indexed.nodup

/-- The graph of some queries has grown. -/
theorem grown_ofQueries (cs : List Classification) : (ofQueries cs).Grown := by
  have more (g : Graph) (grown : g.Grown) :
      (cs.foldl (fun g c => (g.addQuery c).1) g).Grown := by
    induction cs generalizing g with
    | nil => exact grown
    | cons c cs ih => exact ih _ (.addQuery c grown)
  exact more empty .empty

/-! ### Reading and writing -/

section Valid

variable {g : Graph} {query source target node : Nat}

theorem reads_iff {f : Footprint} (found : g.footprint? query = some f) :
    g.Reads query node ↔ node ∈ f.sources := by
  simp [Reads, found]

theorem writes_iff {f : Footprint} (found : g.footprint? query = some f) :
    g.Writes query node ↔ node ∈ f.targets := by
  simp [Writes, found]

/-- What is read is a node of the graph. -/
theorem Valid.lt_of_reads (valid : g.Valid) (reads : g.Reads query node) :
    node < g.nodes.length := by
  obtain ⟨f, found, member⟩ := reads
  exact valid.bounded f (List.mem_of_getElem? found) node (List.mem_append_left _ member)

/-- What is written is a node of the graph. -/
theorem Valid.lt_of_writes (valid : g.Valid) (writes : g.Writes query node) :
    node < g.nodes.length := by
  obtain ⟨f, found, member⟩ := writes
  exact valid.bounded f (List.mem_of_getElem? found) node (List.mem_append_right _ member)

/-- The table of writers has the queries that write a node at its position, and nothing where there is
no node. -/
theorem Valid.mem_writers_iff (valid : g.Valid) :
    query ∈ g.writers[node]?.getD [] ↔ g.Writes query node := by
  rcases Nat.lt_or_ge node g.nodes.length with bound | outside
  · rw [getElem?_writers bound, Option.getD_some, mem_writersOf]
    rfl
  · rw [List.getElem?_eq_none (by simpa using outside), Option.getD_none]
    constructor
    · intro member
      cases member
    · intro writes
      exact absurd (valid.lt_of_writes writes) (Nat.not_lt_of_ge outside)

/-- **An edge leads from what a query reads to what it writes**, and every such pair has an edge. -/
theorem Valid.mem_edges (valid : g.Valid) {e : Edge} :
    e ∈ g.edges ↔ g.Reads e.query e.source ∧ g.Writes e.query e.target := by
  simp only [valid.edges_eq, List.mem_flatMap, Prod.exists, List.mem_zipIdx_iff_getElem?,
    Footprint.edges, List.mem_map]
  constructor
  · rintro ⟨f, q, found, target, ht, source, hs, rfl⟩
    exact ⟨⟨f, found, hs⟩, ⟨f, found, ht⟩⟩
  · rintro ⟨⟨f, found, hs⟩, writes⟩
    exact ⟨f, e.query, found, e.target, (writes_iff found).1 writes, e.source, hs, rfl⟩

/-- **A node feeds another one if some query reads the one and writes the other.** -/
theorem Valid.feeds_iff (valid : g.Valid) :
    g.Feeds source target ↔
      source ≠ target ∧ ∃ query, g.Reads query source ∧ g.Writes query target := by
  refine and_congr_right fun _ => ⟨?_, ?_⟩
  · rintro ⟨e, member, rfl, rfl⟩
    exact ⟨e.query, valid.mem_edges.1 member⟩
  · rintro ⟨query, edge⟩
    exact ⟨⟨source, target, query⟩, valid.mem_edges.2 edge, rfl, rfl⟩

/-- **The digraph of dependencies has the edges of a graph, without loops**: a node that a query
both reads and writes does not wait for itself. -/
theorem Valid.edge_dependencies_iff (valid : g.Valid) :
    g.dependencies.Edge source target ↔ g.Feeds source target := by
  constructor
  · intro edge
    have bound := Digraph.lt_size_of_next edge
    rw [size_dependencies] at bound
    rw [Digraph.Edge, next_dependencies bound] at edge
    obtain ⟨-, different, e, found⟩ := mem_dependents.1 edge
    exact ⟨different.symm, e, found⟩
  · intro feeds
    obtain ⟨different, query, reads, writes⟩ := valid.feeds_iff.1 feeds
    rw [Digraph.Edge, next_dependencies (valid.lt_of_reads reads)]
    exact mem_dependents.2 ⟨valid.lt_of_writes writes, different.symm, feeds.2⟩

end Valid

end QueryFlow.Flow.Graph
