import QueryFlow.Intent.Context
import QueryFlow.Text.Lowercase

/-!
# The flow of rows between tables

A *flow graph* has tables and places outside as nodes, and an edge for every pair of a source and a
target of a query. Nodes, edges and queries are known by their positions. A graph only grows: what is
added comes last and leaves everything before it as it is. Two queries over the same tables give two
edges.

* `addNode` — names that differ only in case name the same node;
* `addQuery` — the nodes that a query reads and writes, and its edges, target by target;
* `writers` — the queries that write the nodes, in a table that is filled query by query.

A graph keeps its nodes twice, as the list of their names and as the index from names to positions.
Looking a name up asks the index alone, and what stands at a position is read off the list alone.
Nothing in the data forces the two to agree: they do because a name that the index does not know is
added to both. That is an invariant of growing, which is proved where graphs grow.

## Main results

* `nodeIndex?_addNode`: a name is found once it was added, at the position that adding it gave.
* `getElem?_writers`: filling the table of writers gives every node the list `writersOf` it, which is
  stated query by query. It rests on `getElem?_enter`, what one query adds to the list of one node,
  and `getElem?_foldl_enter`, what all of them do.
* `mem_writersOf`: the writers of a node are the queries that have it among their targets.
-/

namespace QueryFlow.Flow

open QueryFlow.Text

/-- A query moves rows from a node to a node. The three positions identify the query and the pair of
its footprint that the edge stands for. -/
structure Edge where
  source : Nat
  target : Nat
  query : Nat
deriving DecidableEq, Repr

/-- The nodes that a query reads and those that it writes, in the order in which it names them. A
node may be named twice, by names that differ in case. -/
structure Footprint where
  sources : List Nat
  targets : List Nat
deriving DecidableEq, Repr

namespace Footprint

/-- The edges of a query, target by target, and for each target in the order of the sources. -/
def edges (f : Footprint) (query : Nat) : List Edge :=
  f.targets.flatMap fun target => f.sources.map fun source => ⟨source, target, query⟩

/-- The nodes that a query reads and does not write: those that other queries have to write before
it. -/
def outerSources (f : Footprint) : List Nat :=
  f.sources.filter fun source => !f.targets.contains source

/-- Enters a query behind the writers of each of its targets. A node that is a target twice has the
query twice among its writers. -/
def enter (f : Footprint) (query : Nat) (writers : List (List Nat)) : List (List Nat) :=
  f.targets.foldl (fun writers target => writers.modify target (· ++ [query])) writers

end Footprint

/-- A flow graph. The index is a second view of the nodes: adding a node writes to both, and only the
index is asked for the position of a name. -/
structure Graph where
  /-- The names of the nodes, in lower case. -/
  nodes : List String
  edges : List Edge
  /-- The position of every name, the name that was added last in front. -/
  index : List (String × Nat)
  queries : List Footprint
deriving DecidableEq, Repr

namespace Graph

/-- The graph without nodes. -/
def empty : Graph := ⟨[], [], [], []⟩

/-! ### Nodes -/

/-- The position of the node of a name, which the index knows by the name in lower case. -/
def nodeIndex? (g : Graph) (name : String) : Option Nat := g.index.lookup (lowercase name)

/-- The name of the node at a position, if there is a node there. -/
def nodeName? (g : Graph) (index : Nat) : Option String := g.nodes[index]?

/-- The position of the node of a name. If the index has none, the name becomes the last node and the
index gets its position. -/
def addNode (g : Graph) (name : String) : Graph × Nat :=
  let key := lowercase name
  match g.index.lookup key with
  | some node => (g, node)
  | none =>
    let node := g.nodes.length
    ({ g with nodes := g.nodes ++ [key], index := (key, node) :: g.index }, node)

/-- The positions of the nodes of some names, each of which is added if there is no node of it. -/
def addNodes (g : Graph) : List String → Graph × List Nat
  | [] => (g, [])
  | name :: names =>
    let (g, index) := g.addNode name
    let (g, indices) := g.addNodes names
    (g, index :: indices)

/-! ### Queries -/

/-- Adds a query by what it reads and writes, and gives its position. The nodes of its sources come
before those of its targets, and its edges behind all others. -/
def addQuery (g : Graph) (c : Classification) : Graph × Nat :=
  let (h, sources) := g.addNodes c.sources.toList
  let (h, targets) := h.addNodes c.targets.toList
  let f : Footprint := ⟨sources, targets⟩
  let query := g.queries.length
  ({ h with edges := h.edges ++ f.edges query, queries := h.queries ++ [f] }, query)

/-- The graph of some queries, each of which has its position in the list as its number. -/
def ofQueries (cs : List Classification) : Graph :=
  cs.foldl (fun g c => (g.addQuery c).1) empty

/-- The nodes that the query at a position reads and writes. -/
def footprint? (g : Graph) (query : Nat) : Option Footprint := g.queries[query]?

/-- The queries that write each of the nodes: one list for every node, into which the queries are
entered one after the other. -/
def writers (g : Graph) : List (List Nat) :=
  g.queries.zipIdx.foldl (fun writers (f, query) => f.enter query writers)
    (List.replicate g.nodes.length [])

/-- The queries that write one node, in their order and as often as they have it as a target. -/
def writersOf (g : Graph) (node : Nat) : List Nat :=
  g.queries.zipIdx.flatMap fun (f, query) => List.replicate (f.targets.count node) query

/-- Some query moves rows from the first node to the second. Names are looked up in lower case, and
a name without a node has no edge. -/
def hasEdge (g : Graph) (source target : String) : Bool :=
  match g.nodeIndex? source, g.nodeIndex? target with
  | some s, some t => g.edges.any fun e => e.source == s && e.target == t
  | _, _ => false

/-! ### What is found again -/

/-- **A node is found under the name that it was added by.** -/
theorem nodeIndex?_addNode (g : Graph) (name : String) :
    (g.addNode name).1.nodeIndex? name = some (g.addNode name).2 := by
  unfold addNode nodeIndex?
  dsimp only
  split
  · next found => exact found
  · exact List.lookup_cons_self

/-! ### Writers -/

/-- **A query that is entered stands behind the writers of a node** as often as it has the node as a
target. -/
theorem getElem?_enter (f : Footprint) (query : Nat) (writers : List (List Nat)) (node : Nat) :
    (f.enter query writers)[node]? =
      writers[node]?.map (· ++ List.replicate (f.targets.count node) query) := by
  rw [Footprint.enter]
  induction f.targets generalizing writers with
  | nil => simp
  | cons target targets ih =>
    rw [List.foldl_cons, ih, List.getElem?_modify, List.count_cons]
    by_cases same : target = node
    · simp [same, Function.comp_def, List.replicate_succ]
    · simp [same]

/-- Queries that are entered one after the other stand behind the writers of a node, each as often as
it has the node as a target. By induction on the queries, for any table at the start. -/
theorem getElem?_foldl_enter (queries : List (Footprint × Nat)) (writers : List (List Nat))
    (node : Nat) :
    (queries.foldl (fun writers (f, query) => f.enter query writers) writers)[node]? =
      writers[node]?.map
        (· ++ queries.flatMap fun (f, query) => List.replicate (f.targets.count node) query) := by
  induction queries generalizing writers with
  | nil => simp
  | cons query queries ih =>
    rw [List.foldl_cons, ih, getElem?_enter, Option.map_map]
    simp [Function.comp_def, List.append_assoc]

/-- **The table of writers has the list of every node at its position.** -/
theorem getElem?_writers {g : Graph} {node : Nat} (bound : node < g.nodes.length) :
    g.writers[node]? = some (g.writersOf node) := by
  rw [writers, getElem?_foldl_enter, List.getElem?_replicate, if_pos bound]
  simp [writersOf]

/-- Entering a query leaves one list for every node. -/
@[simp] theorem length_enter (f : Footprint) (query : Nat) (writers : List (List Nat)) :
    (f.enter query writers).length = writers.length :=
  List.foldlRecOn (motive := fun entered : List (List Nat) => entered.length = writers.length)
    f.targets _ rfl fun entered same target _ => by rw [List.length_modify, same]

/-- The table of writers has one list for every node. -/
@[simp] theorem length_writers (g : Graph) : g.writers.length = g.nodes.length :=
  List.foldlRecOn (motive := fun entered : List (List Nat) => entered.length = g.nodes.length)
    g.queries.zipIdx _ List.length_replicate fun entered same query _ => by rw [length_enter, same]

/-- What the table of writers has at a position is the list of the node there. -/
theorem eq_writersOf {g : Graph} {node : Nat} {qs : List Nat} (listed : g.writers[node]? = some qs) :
    qs = g.writersOf node := by
  have bound := (List.getElem?_eq_some_iff.1 listed).1
  rw [length_writers] at bound
  exact Option.some.inj (listed.symm.trans (getElem?_writers bound))

/-- **The writers of a node are the queries that have it among their targets.** -/
theorem mem_writersOf {g : Graph} {node query : Nat} :
    query ∈ g.writersOf node ↔ ∃ f, g.footprint? query = some f ∧ node ∈ f.targets := by
  simp only [writersOf, List.mem_flatMap, Prod.exists, List.mem_replicate, footprint?,
    List.mem_zipIdx_iff_getElem?]
  constructor
  · rintro ⟨f, q, found, many, rfl⟩
    exact ⟨f, found, List.count_pos_iff.1 (Nat.pos_of_ne_zero many)⟩
  · rintro ⟨f, found, member⟩
    exact ⟨f, query, found, Nat.ne_of_gt (List.count_pos_iff.2 member), rfl⟩

end Graph

end QueryFlow.Flow
