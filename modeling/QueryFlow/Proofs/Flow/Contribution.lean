import QueryFlow.Proofs.Flow.Naming
import QueryFlow.Proofs.Lists

/-!
# What one query contributes to a graph

The edges of a graph are those of its queries, one query after the other, and each edge knows its
query. So the edges with the number of a query are the pairs of a source and a target of that query,
whatever else the graph holds: filtering the whole list by the number takes out the part that the
query has put in.

The second result is for statements that name one source and one target, such as a file that is
loaded into a table. Such a query is seen in the graph as a single edge between two nodes, and the
names of these nodes are the two names in lower case.

## Main results

* `Valid.edgesOf_eq`: the edges with the number of a query are those of its footprint.
* `soleEdge_ofQueries`: a query with one source and one target has a single edge.
-/

namespace QueryFlow.Flow

open QueryFlow.Text

namespace Graph

/-- The edges with the number of a query. -/
def edgesOf (g : Graph) (query : Nat) : List Edge := g.edges.filter fun e => e.query = query

/-- A query has a single edge, which leads from the node of one name to the node of another one. -/
def SoleEdge (g : Graph) (query : Nat) (source target : String) : Prop :=
  ∃ s t, g.edgesOf query = [⟨s, t, query⟩]
    ∧ g.nodeName? s = some source ∧ g.nodeName? t = some target

end Graph

/-- The edges of a footprint have the number that they are given. -/
theorem Footprint.query_of_mem_edges (f : Footprint) (query : Nat) :
    ∀ e ∈ f.edges query, e.query = query := by
  intro e member
  simp only [edges, List.mem_flatMap, List.mem_map] at member
  obtain ⟨_, -, _, -, rfl⟩ := member
  rfl

namespace Graph

/-- **The edges with the number of a query are those of its footprint**, in the order of its sources
and targets. -/
theorem Valid.edgesOf_eq {g : Graph} (valid : g.Valid) {query : Nat} {f : Footprint}
    (found : g.footprint? query = some f) : g.edgesOf query = f.edges query := by
  rw [footprint?] at found
  rw [edgesOf, valid.edges_eq, filter_flatMap_zipIdx Footprint.query_of_mem_edges,
    if_pos (Nat.zero_le _), Nat.sub_zero, found]
  rfl

/-- **A query with one source and one target has a single edge**, between the nodes of their names
in lower case. -/
theorem soleEdge_ofQueries {cs : List Classification} {query : Nat} {c : Classification}
    {source target : String} (listed : cs[query]? = some c) (sources : c.sources.toList = [source])
    (targets : c.targets.toList = [target]) :
    (ofQueries cs).SoleEdge query (lowercase source) (lowercase target) := by
  obtain ⟨⟨reads, writes⟩, found, records⟩ := (recorded_ofQueries cs).exists_footprint? listed
  obtain ⟨s, more, named, none, rfl⟩ := List.forall₂_cons_right_iff.1 (sources ▸ records.sources)
  obtain ⟨t, more', named', none', rfl⟩ := List.forall₂_cons_right_iff.1 (targets ▸ records.targets)
  obtain rfl := List.forall₂_nil_right_iff.1 none
  obtain rfl := List.forall₂_nil_right_iff.1 none'
  exact ⟨s, t, (grown_ofQueries cs).valid.edgesOf_eq found, named, named'⟩

end Graph

end QueryFlow.Flow
