import QueryFlow.Proofs.Flow.Contribution
import QueryFlow.Proofs.Text.Lowercase

/-!
# What a flow graph promises

Nodes and queries are added to a flow graph in any order. Names that differ only in case name one
node, so that a query may have a node more than once among its sources or its targets; it then has
parallel edges. However a graph has come about, its nodes, its index, its edges, its table of
writers and what it knows of its queries are *consistent*, and all that is added comes behind what
was there.

* `Addition`, `add`, `ofAdditions` — what can be added, and the graph of some additions;
* `Consistent` — what is promised of a graph that some queries were added to.

## How the promises are kept

The fields of `Consistent` that speak of the index come from `Indexed`, which says of it that it
gives a name the position of its node and no other. To look a name up means to look up its lower
case, and the names of the nodes are in lower case already. That the two go together needs that
lowering a name twice is the same as lowering it once, which is a fact about characters and is shown
with the tables of letters.

The fields about edges come from the equation that a valid graph keeps: its edges are those of its
footprints, query by query. The table of writers is made by pushing the number of every query once
for each of its targets. It is ascending because the queries are gone through in their order, and a
query stands in the list of a node as often as it has the node as a target.

That nothing moves when more is added is shown for one addition, by the list of what each kind of
addition leaves as it is, and needs no induction.

## Main results

* `Grown.lowercase_of_mem`: the names of the nodes are in lower case.
* `Valid.nodeIndex?_eq_some_iff`: a name finds the node that has it in lower case.
* `Valid.hasEdge_iff`: there is an edge between two names if a query moves rows between them.
* `consistent_ofAdditions`: every graph of additions is consistent, and one more addition only puts
  something behind what was there.
-/

namespace QueryFlow.Flow.Graph

open QueryFlow.Text

/-! ### Additions -/

/-- What can be added to a graph: a node by its name, as when a table is named that no query has
touched yet, or a query with all its nodes. -/
inductive Addition
  | node (name : String)
  | query (c : Classification)

/-- Adds a node or a query. -/
def add (g : Graph) : Addition → Graph
  | .node name => (g.addNode name).1
  | .query c => (g.addQuery c).1

/-- The graph of some additions, one after the other. Every graph that a program builds is of this
form. -/
def ofAdditions (as : List Addition) : Graph := as.foldl add empty

/-- The query that is added, if it is one. -/
def Addition.query? : Addition → Option Classification
  | .node _ => none
  | .query c => some c

/-- The queries among some additions, in their order: a node that is added by itself is none. -/
def queriesOf (as : List Addition) : List Classification := as.filterMap Addition.query?

/-- What is promised of a graph that some queries were added to. The fields follow the parts of a
graph: nodes and index, edges, queries, and the table of writers. -/
structure Consistent (g : Graph) (cs : List Classification) : Prop where
  /-- No two nodes have one name. -/
  nodup : g.nodes.Nodup
  /-- Names are in lower case. -/
  lowered : ∀ name ∈ g.nodes, lowercase name = name
  /-- A node is found under its name. -/
  found : ∀ node name, g.nodeName? node = some name → g.nodeIndex? name = some node
  /-- A name finds a node if there is one with the name in lower case. -/
  isSome_iff : ∀ name, (g.nodeIndex? name).isSome = true ↔ lowercase name ∈ g.nodes
  /-- Edges lead from nodes to nodes and belong to queries. -/
  edges_bounded : ∀ e ∈ g.edges,
    e.source < g.nodes.length ∧ e.target < g.nodes.length ∧ e.query < g.queries.length
  /-- Queries read and write nodes. -/
  queries_bounded : ∀ f ∈ g.queries, ∀ node ∈ f.sources ++ f.targets, node < g.nodes.length
  /-- The edges of a query are the pairs of its targets and its sources, target by target. -/
  edgesOf_eq : ∀ query f, g.footprint? query = some f → g.edgesOf query =
    f.targets.flatMap fun target => f.sources.map fun source => ⟨source, target, query⟩
  /-- Edges come query by query. -/
  grouped : g.edges.Pairwise fun d e => d.query ≤ e.query
  /-- The nodes of a query have the names of its sources and its targets, in lower case. -/
  recorded : g.Recorded cs
  /-- Two names have an edge if a query moves rows from the one to the other, up to case. -/
  hasEdge_iff : ∀ source target, g.hasEdge source target = true ↔ ∃ c ∈ cs,
    (∃ name ∈ c.sources, lowercase name = lowercase source)
      ∧ ∃ name ∈ c.targets, lowercase name = lowercase target
  /-- Every node has a list of writers. -/
  length_writers : g.writers.length = g.nodes.length
  /-- The list is ascending. -/
  ascending : ∀ qs ∈ g.writers, qs.Pairwise (· ≤ ·)
  /-- It holds the queries that have the node as a target, -/
  mem_writers_iff : ∀ node qs, g.writers[node]? = some qs → ∀ query,
    query ∈ qs ↔ ∃ f, g.footprint? query = some f ∧ node ∈ f.targets
  /-- each of them as often as it has it. -/
  count_writers : ∀ node qs, g.writers[node]? = some qs → ∀ query f,
    g.footprint? query = some f → qs.count query = f.targets.count node

theorem ofAdditions_concat (as : List Addition) (a : Addition) :
    ofAdditions (as ++ [a]) = (ofAdditions as).add a := by
  simp [ofAdditions]

/-- The graph of some additions has grown. -/
theorem grown_ofAdditions (as : List Addition) : (ofAdditions as).Grown := by
  induction as using List.reverseRecOn with
  | nil => exact .empty
  | append_singleton as a ih =>
      rw [ofAdditions_concat]
      cases a with
      | node name => exact ih.addNode name
      | query c => exact ih.addQuery c

/-- **The graph of some additions records the queries among them**, at their positions. -/
theorem recorded_ofAdditions (as : List Addition) : (ofAdditions as).Recorded (queriesOf as) := by
  induction as using List.reverseRecOn with
  | nil => exact .nil
  | append_singleton as a ih =>
      rw [ofAdditions_concat, queriesOf, List.filterMap_append]
      cases a with
      | node name =>
          have none : [Addition.node name].filterMap Addition.query? = [] := rfl
          rw [none, List.append_nil]
          exact (extends_addNode _ name).recorded ih
      | query c => exact ih.addQuery (grown_ofAdditions as).valid.indexed c

/-- **An addition only puts something behind what is there**: nodes keep their numbers, edges and
queries their positions. -/
theorem prefix_add (g : Graph) (a : Addition) :
    g.nodes <+: (g.add a).nodes ∧ g.edges <+: (g.add a).edges
      ∧ g.queries <+: (g.add a).queries := by
  cases a with
  | node name =>
      have more := extends_addNode g name
      exact ⟨more.nodes, more.edges ▸ List.prefix_refl _, more.queries ▸ List.prefix_refl _⟩
  | query c =>
      obtain ⟨h, sources, k, targets, read, written, eq⟩ := addQuery_fst g c
      have more : g.Extends k := by
        have first := extends_addNodes g c.sources.toList
        have second := extends_addNodes h c.targets.toList
        rw [read] at first
        rw [written] at second
        exact first.trans second
      rw [add, eq]
      exact ⟨more.nodes, more.edges ▸ List.prefix_append _ _,
        more.queries ▸ List.prefix_append _ _⟩

/-! ### Names -/

section Names

variable {g : Graph} {node : Nat} {name source target : String}

/-- A node of a graph that a node was added to was there before or has the name, in lower case. -/
theorem mem_nodes_addNode (indexed : g.Indexed) {added : String}
    (member : name ∈ (g.addNode added).1.nodes) : name ∈ g.nodes ∨ name = lowercase added := by
  by_cases known : lowercase added ∈ g.nodes
  · rw [addNode_of_mem indexed known] at member
    exact .inl member
  · rw [nodes_addNode_of_notMem indexed known] at member
    simpa using member

/-- Adding a node leaves names in lower case. -/
theorem lowered_addNode (indexed : g.Indexed) (lowered : ∀ name ∈ g.nodes, lowercase name = name)
    (added : String) : ∀ name ∈ (g.addNode added).1.nodes, lowercase name = name := by
  intro name member
  rcases mem_nodes_addNode indexed member with member | rfl
  · exact lowered name member
  · exact lowercase_lowercase added

/-- Adding nodes leaves names in lower case. -/
theorem lowered_addNodes (indexed : g.Indexed) (lowered : ∀ name ∈ g.nodes, lowercase name = name)
    (names : List String) : ∀ name ∈ (g.addNodes names).1.nodes, lowercase name = name := by
  induction names generalizing g with
  | nil => exact lowered
  | cons first names ih =>
      exact ih ((extends_addNode g first).indexed indexed) (lowered_addNode indexed lowered first)

/-- **The names of the nodes are in lower case.** By induction on the growth of the graph, each step
of which adds names in that form. -/
theorem Grown.lowercase_of_mem (grown : g.Grown) : ∀ name ∈ g.nodes, lowercase name = name := by
  induction grown with
  | empty => simp [Graph.empty]
  | addNode name before ih => exact lowered_addNode before.valid.indexed ih name
  | addQuery c before ih =>
      have indexed := before.valid.indexed
      exact lowered_addNodes ((extends_addNodes _ _).indexed indexed)
        (lowered_addNodes indexed ih _) _

/-- **A name finds the node that has it in lower case**: the index and the list of nodes say the
same. -/
theorem Valid.nodeIndex?_eq_some_iff (valid : g.Valid) :
    g.nodeIndex? name = some node ↔ g.nodeName? node = some (lowercase name) :=
  valid.indexed (lowercase name) node

/-- **Two names have an edge if a query moves rows from the one to the other.** -/
theorem Valid.hasEdge_iff (valid : g.Valid) :
    g.hasEdge source target = true ↔
      ∃ query, g.ReadsFrom query (lowercase source) ∧ g.WritesTo query (lowercase target) := by
  constructor
  · intro edge
    unfold hasEdge at edge
    split at edge
    · next s t found found' =>
      obtain ⟨e, member, same⟩ := List.any_eq_true.1 edge
      obtain ⟨rfl, rfl⟩ : e.source = s ∧ e.target = t := by simpa using same
      obtain ⟨reads, writes⟩ := valid.mem_edges.1 member
      exact ⟨e.query, ⟨_, reads, valid.nodeIndex?_eq_some_iff.1 found⟩,
        ⟨_, writes, valid.nodeIndex?_eq_some_iff.1 found'⟩⟩
    · cases edge
  · rintro ⟨query, ⟨s, reads, named⟩, ⟨t, writes, named'⟩⟩
    have member : (⟨s, t, query⟩ : Edge) ∈ g.edges := valid.mem_edges.2 ⟨reads, writes⟩
    simp only [hasEdge, valid.nodeIndex?_eq_some_iff.2 named, valid.nodeIndex?_eq_some_iff.2 named']
    exact List.any_eq_true.2 ⟨_, member, by simp⟩

/-- The same by the queries that a graph records. -/
theorem Valid.hasEdge_iff_of_recorded {cs : List Classification} (valid : g.Valid)
    (recorded : g.Recorded cs) :
    g.hasEdge source target = true ↔ ∃ c ∈ cs,
      (∃ name ∈ c.sources, lowercase name = lowercase source)
        ∧ ∃ name ∈ c.targets, lowercase name = lowercase target := by
  simp only [valid.hasEdge_iff, recorded.readsFrom_iff, recorded.writesTo_iff]
  constructor
  · rintro ⟨query, ⟨c, listed, reads⟩, ⟨c', listed', writes⟩⟩
    obtain rfl : c = c' := Option.some.inj (listed.symm.trans listed')
    exact ⟨c, List.mem_of_getElem? listed, reads, writes⟩
  · rintro ⟨c, member, reads, writes⟩
    obtain ⟨query, listed⟩ := List.mem_iff_getElem?.1 member
    exact ⟨query, ⟨c, listed, reads⟩, ⟨c, listed, writes⟩⟩

end Names

/-! ### Edges and writers -/

section Order

variable {g : Graph} {node query : Nat} {f : Footprint}

/-- Edges lead from nodes to nodes and belong to queries. -/
theorem Valid.lt_of_mem_edges (valid : g.Valid) {e : Edge} (member : e ∈ g.edges) :
    e.source < g.nodes.length ∧ e.target < g.nodes.length ∧ e.query < g.queries.length := by
  obtain ⟨reads, writes⟩ := valid.mem_edges.1 member
  have bound : e.query < g.queries.length := by
    obtain ⟨f, found, -⟩ := reads
    exact (List.getElem?_eq_some_iff.1 found).1
  exact ⟨valid.lt_of_reads reads, valid.lt_of_writes writes, bound⟩

/-- Edges come query by query. -/
theorem Valid.pairwise_edges (valid : g.Valid) :
    g.edges.Pairwise fun d e => d.query ≤ e.query := by
  rw [valid.edges_eq]
  exact pairwise_flatMap_zipIdx Footprint.query_of_mem_edges g.queries 0

/-- A query is listed for its targets by its number. -/
theorem eq_of_mem_replicate_count (node : Nat) (f : Footprint) (query : Nat) :
    ∀ q ∈ List.replicate (f.targets.count node) query, q = query :=
  fun _ => List.eq_of_mem_replicate

/-- The writers of a node are ascending. -/
theorem pairwise_writersOf (g : Graph) (node : Nat) : (g.writersOf node).Pairwise (· ≤ ·) :=
  pairwise_flatMap_zipIdx (eq_of_mem_replicate_count node) g.queries 0

/-- **A writer of a node is listed as often as it has the node as a target.** It has it more than
once if two of its targets are spellings of one name. -/
theorem count_writersOf (found : g.footprint? query = some f) (node : Nat) :
    (g.writersOf node).count query = f.targets.count node := by
  have listed : (g.writersOf node).filter (fun q => q = query)
      = List.replicate (f.targets.count node) query := by
    rw [footprint?] at found
    rw [writersOf, filter_flatMap_zipIdx (eq_of_mem_replicate_count node),
      if_pos (Nat.zero_le _), Nat.sub_zero, found]
    rfl
  calc (g.writersOf node).count query
      = ((g.writersOf node).filter (fun q => q = query)).length := by
        rw [List.count_eq_length_filter]
        rfl
    _ = f.targets.count node := by rw [listed, List.length_replicate]

/-- **What has grown is consistent** with the queries that it records. Each part follows from an
invariant of its own: of the index, of the edges, of the footprints, or of the loop over the
writers. -/
theorem Grown.consistent {cs : List Classification} (grown : g.Grown) (recorded : g.Recorded cs) :
    g.Consistent cs := by
  have valid := grown.valid
  exact {
    nodup := valid.nodup
    lowered := grown.lowercase_of_mem
    found := fun node name named => by
      have lower := grown.lowercase_of_mem name (List.mem_of_getElem? named)
      rwa [valid.nodeIndex?_eq_some_iff, lower]
    isSome_iff := fun name => valid.indexed.isSome_lookup_iff
    edges_bounded := fun e => valid.lt_of_mem_edges
    queries_bounded := valid.bounded
    edgesOf_eq := fun query f => valid.edgesOf_eq
    grouped := valid.pairwise_edges
    recorded := recorded
    hasEdge_iff := fun source target => valid.hasEdge_iff_of_recorded recorded
    length_writers := Graph.length_writers g
    ascending := fun qs member => by
      obtain ⟨node, listed⟩ := List.mem_iff_getElem?.1 member
      exact eq_writersOf listed ▸ pairwise_writersOf g node
    mem_writers_iff := fun node qs listed query => by
      rw [eq_writersOf listed, mem_writersOf]
    count_writers := fun node qs listed query f found => by
      rw [eq_writersOf listed, count_writersOf found] }

end Order

/-- **Every graph of additions is consistent with the queries among them**, and one more addition
leaves all nodes, edges and queries where they are. -/
theorem consistent_ofAdditions (as : List Addition) :
    (ofAdditions as).Consistent (queriesOf as)
      ∧ ∀ a, (ofAdditions as).nodes <+: (ofAdditions (as ++ [a])).nodes
        ∧ (ofAdditions as).edges <+: (ofAdditions (as ++ [a])).edges
        ∧ (ofAdditions as).queries <+: (ofAdditions (as ++ [a])).queries :=
  ⟨(grown_ofAdditions as).consistent (recorded_ofAdditions as), fun a => by
    rw [ofAdditions_concat]
    exact prefix_add _ a⟩

/-- Two spellings of a source meet in lower case, so the query has it twice. -/
example :
    let insertion : Insertion := ⟨"t", .ofList ["A", "a"]⟩
    let g := ofAdditions [.node "T", .query ⟨[.insert insertion]⟩]
    g.nodes = ["t", "a"] ∧ g.edges = [⟨1, 0, 0⟩, ⟨1, 0, 0⟩] ∧ g.writers = [[0], []] := by
  decide +kernel

end QueryFlow.Flow.Graph
