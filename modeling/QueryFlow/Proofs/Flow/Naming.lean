import Mathlib.Data.List.Forall2
import Mathlib.Data.List.Induction
import QueryFlow.Proofs.Flow.Growth
import QueryFlow.Proofs.Lists

/-!
# What queries read and write, by name

The positions of nodes depend on the order in which names came up; the names do not. Whoever
compares two graphs, of a log in another order or of a part of a log, therefore speaks of names: a
query *reads from* a name, or *writes to* it, if it reads or writes the node of that name.

## What a graph records

The link between a query and its footprint in the graph is `Records`: source by source and target by
target, the node at the recorded position has the name of the source or target in lower case. It is
a relation between lists of the same length and not between sets, because two spellings of a name
give one node twice and the edges of the query count both of them.

Adding a query records it, and leaves what was recorded before as it is, for a node keeps its name
when nodes are added behind it (`Extends.names`). So the graph of some queries `Recorded` all of
them, each at its position, by induction on the queries from the end of their list. What a query of
the graph reads from or writes to is then read off the query itself.

## Main results

* `records_addQuery`: adding a query records it, and leaves what was recorded before.
* `Recorded.readsFrom_iff` and `Recorded.writesTo_iff`: what the queries of a graph read from and
  write to, by what it records.
* `recorded_ofQueries`: the graph of some queries records every one of them.
-/

namespace QueryFlow.Flow.Graph

open QueryFlow.Text

/-- A query reads the node of a name. The name is that of the node, in lower case; the query itself
may spell it otherwise. -/
def ReadsFrom (g : Graph) (query : Nat) (name : String) : Prop :=
  ∃ n, g.Reads query n ∧ g.nodeName? n = some name

/-- A query writes the node of a name, which is again in lower case. -/
def WritesTo (g : Graph) (query : Nat) (name : String) : Prop :=
  ∃ n, g.Writes query n ∧ g.nodeName? n = some name

/-! ### What a graph records -/

/-- Some nodes are those of some names, one by one and in their order. -/
def Names (g : Graph) (nodes : List Nat) (names : List String) : Prop :=
  List.Forall₂ (fun n name => g.nodeName? n = some (lowercase name)) nodes names

/-- A footprint has the sources and the targets of a query: the positions in it are those of the
nodes with these names, one by one. -/
structure Records (g : Graph) (f : Footprint) (c : Classification) : Prop where
  sources : g.Names f.sources c.sources.toList
  targets : g.Names f.targets c.targets.toList

variable {g h : Graph} {n : Nat} {name : String}

/-- A node keeps its name when nodes are added. -/
theorem Extends.nodeName?_eq_some (more : g.Extends h) (found : g.nodeName? n = some name) :
    h.nodeName? n = some name :=
  getElem?_of_prefix more.nodes found

/-- Nodes keep their names when nodes are added. -/
theorem Extends.names (more : g.Extends h) {nodes : List Nat} {names : List String}
    (named : g.Names nodes names) : h.Names nodes names :=
  named.imp fun _ _ found => more.nodeName?_eq_some found

/-- Added nodes have the names in lower case. -/
theorem names_addNodes (indexed : g.Indexed) (names : List String) :
    (g.addNodes names).1.Names (g.addNodes names).2 names := by
  induction names generalizing g with
  | nil => exact .nil
  | cons name names ih =>
      have more := extends_addNodes (g.addNode name).1 names
      have indexed' := (extends_addNode g name).indexed indexed
      exact .cons (more.nodeName?_eq_some (nodeName?_addNode indexed name)) (ih indexed')

/-- **Adding a query records it**, and leaves what was recorded before: the numbers of nodes that
were there stay the same. -/
theorem records_addQuery (indexed : g.Indexed) (c : Classification) :
    ∃ f, (g.addQuery c).1.queries = g.queries ++ [f] ∧ (g.addQuery c).1.Records f c
      ∧ ∀ f' c', g.Records f' c' → (g.addQuery c).1.Records f' c' := by
  obtain ⟨h, sources, k, targets, read, written, eq⟩ := addQuery_fst g c
  have more := extends_addNodes g c.sources.toList
  have more' := extends_addNodes h c.targets.toList
  have named := names_addNodes indexed c.sources.toList
  simp only [read] at more named
  have named' := names_addNodes (more.indexed indexed) c.targets.toList
  simp only [written] at more' named'
  -- the edges and the footprint that come last do not change the names of nodes
  have kept {nodes : List Nat} {names : List String} (named : k.Names nodes names) :
      (g.addQuery c).1.Names nodes names := by
    rw [eq]
    exact named
  refine ⟨⟨sources, targets⟩, ?_, ⟨kept (more'.names named), kept named'⟩, fun f' c' records => ?_⟩
  · rw [eq, more'.queries, more.queries]
  · exact ⟨kept ((more.trans more').names records.sources),
      kept ((more.trans more').names records.targets)⟩

/-- A graph records some queries if it has a footprint of each of them, at its position. -/
def Recorded (g : Graph) (cs : List Classification) : Prop := List.Forall₂ g.Records g.queries cs

/-- Adding nodes leaves what was recorded. -/
theorem Extends.recorded {cs : List Classification} (more : g.Extends h) (recorded : g.Recorded cs) :
    h.Recorded cs := by
  rw [Recorded, more.queries]
  exact recorded.imp fun _ _ records => ⟨more.names records.sources, more.names records.targets⟩

/-- **A query that is added is recorded behind the others.** -/
theorem Recorded.addQuery {cs : List Classification} (recorded : g.Recorded cs)
    (indexed : g.Indexed) (c : Classification) : (g.addQuery c).1.Recorded (cs ++ [c]) := by
  obtain ⟨f, queries, records, kept⟩ := records_addQuery indexed c
  rw [Recorded, queries]
  exact List.rel_append (recorded.imp kept) (.cons records .nil)

/-- The names of some nodes are the given ones in lower case. -/
theorem Names.exists_iff {nodes : List Nat} {names : List String} (named : g.Names nodes names) :
    (∃ n ∈ nodes, g.nodeName? n = some name) ↔ ∃ given ∈ names, lowercase given = name := by
  induction named with
  | nil => simp
  | cons found _ ih => simp [found, ih]

section Recorded

variable {cs : List Classification} {query : Nat} {f : Footprint} {c : Classification}

/-- A footprint that is found records the query at its position. -/
theorem Recorded.records (recorded : g.Recorded cs) (found : g.footprint? query = some f) :
    ∃ c, cs[query]? = some c ∧ g.Records f c := by
  obtain ⟨bound, same⟩ := List.getElem?_eq_some_iff.1 found
  have bound' : query < cs.length := recorded.length_eq ▸ bound
  refine ⟨cs[query], List.getElem?_eq_getElem bound', ?_⟩
  exact same ▸ recorded.get bound bound'

/-- A query of the list has a footprint that records it. -/
theorem Recorded.exists_footprint? (recorded : g.Recorded cs) (listed : cs[query]? = some c) :
    ∃ f, g.footprint? query = some f ∧ g.Records f c := by
  obtain ⟨bound, same⟩ := List.getElem?_eq_some_iff.1 listed
  have bound' : query < g.queries.length := recorded.length_eq ▸ bound
  obtain ⟨c', listed', records⟩ := recorded.records (List.getElem?_eq_getElem bound')
  rw [listed] at listed'
  exact ⟨_, List.getElem?_eq_getElem bound', Option.some.inj listed' ▸ records⟩

/-- **A query reads from the names that it has as sources, in lower case.** -/
theorem Recorded.readsFrom_iff (recorded : g.Recorded cs) :
    g.ReadsFrom query name ↔
      ∃ c, cs[query]? = some c ∧ ∃ given ∈ c.sources, lowercase given = name := by
  constructor
  · rintro ⟨n, ⟨f, found, member⟩, named⟩
    obtain ⟨c, listed, records⟩ := recorded.records found
    exact ⟨c, listed, records.sources.exists_iff.1 ⟨n, member, named⟩⟩
  · rintro ⟨c, listed, given⟩
    obtain ⟨f, found, records⟩ := recorded.exists_footprint? listed
    obtain ⟨n, member, named⟩ := records.sources.exists_iff.2 given
    exact ⟨n, ⟨f, found, member⟩, named⟩

/-- **A query writes to the names that it has as targets, in lower case.** -/
theorem Recorded.writesTo_iff (recorded : g.Recorded cs) :
    g.WritesTo query name ↔
      ∃ c, cs[query]? = some c ∧ ∃ given ∈ c.targets, lowercase given = name := by
  constructor
  · rintro ⟨n, ⟨f, found, member⟩, named⟩
    obtain ⟨c, listed, records⟩ := recorded.records found
    exact ⟨c, listed, records.targets.exists_iff.1 ⟨n, member, named⟩⟩
  · rintro ⟨c, listed, given⟩
    obtain ⟨f, found, records⟩ := recorded.exists_footprint? listed
    obtain ⟨n, member, named⟩ := records.targets.exists_iff.2 given
    exact ⟨n, ⟨f, found, member⟩, named⟩

end Recorded

/-! ### The graph of some queries -/

section OfQueries

variable {cs : List Classification} {query : Nat}

theorem ofQueries_concat (cs : List Classification) (c : Classification) :
    ofQueries (cs ++ [c]) = ((ofQueries cs).addQuery c).1 := by
  simp [ofQueries]

/-- **The graph of some queries records every one of them, at its position.** By induction on the
queries, the last of which is recorded behind the others. -/
theorem recorded_ofQueries (cs : List Classification) : (ofQueries cs).Recorded cs := by
  induction cs using List.reverseRecOn with
  | nil => exact .nil
  | append_singleton cs c ih =>
      rw [ofQueries_concat]
      exact ih.addQuery (grown_ofQueries cs).valid.indexed c

/-- The graph of some queries has a footprint for each of them. -/
theorem length_queries_ofQueries (cs : List Classification) :
    (ofQueries cs).queries.length = cs.length :=
  (recorded_ofQueries cs).length_eq

/-- Only the queries of the list have footprints. -/
theorem lt_of_footprint? {f : Footprint} (found : (ofQueries cs).footprint? query = some f) :
    query < cs.length := by
  obtain ⟨c, listed, -⟩ := (recorded_ofQueries cs).records found
  exact (List.getElem?_eq_some_iff.1 listed).1

/-- What the queries of a graph of queries read from. -/
theorem readsFrom_ofQueries :
    (ofQueries cs).ReadsFrom query name ↔
      ∃ c, cs[query]? = some c ∧ ∃ given ∈ c.sources, lowercase given = name :=
  (recorded_ofQueries cs).readsFrom_iff

/-- What the queries of a graph of queries write to. -/
theorem writesTo_ofQueries :
    (ofQueries cs).WritesTo query name ↔
      ∃ c, cs[query]? = some c ∧ ∃ given ∈ c.targets, lowercase given = name :=
  (recorded_ofQueries cs).writesTo_iff

end OfQueries

end QueryFlow.Flow.Graph
