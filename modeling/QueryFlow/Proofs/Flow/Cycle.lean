import QueryFlow.Proofs.Flow.Component
import QueryFlow.Proofs.Flow.Growth

/-!
# The cycles of a flow graph

A graph without phases says which nodes depend on each other in cycles. The nodes of a *cycle* are
all that are joined to one of them, two or more; a node that is merely reached from a cycle, or
leads to one, belongs to none. A cycle is given by the names of its nodes.

## From positions to names

Here the positions of nodes and the digraph of dependencies are left behind: what is reported is
said of names and of the edges of the flow graph. The two ways of speaking are linked by three
facts. The edges of the digraph are those of `Feeds` (`Valid.edge_eq`), so that being joined or on a
cycle is the same for both. Every node has a name, and no two nodes have one name, so that a set of
names stands for one set of nodes. And the names of different nodes, put in order, are strictly
ascending, so that a list of names is determined by which names are in it; two cycles with the same
names are therefore the same list, and the sorted list of cycles has each of them once.

## When there are phases

The blocked nodes are those that a cycle reaches, so there is a blocked node exactly if there is a
node on a cycle. It is enough to ask whether a node is blocked, which is what the program does.

## Main results

* `Valid.mem_cycles_iff`: the cycles of a valid graph are listed, and nothing else.
* `Valid.pairwise_cycles` and `Valid.disjoint_cycles`: they come in order, and share no name.
* `phases_eq_error`: a graph has no phases if some node is on a cycle, and reports its cycles then.
-/

open Relation

namespace QueryFlow.Flow.Graph

/-- Rows get from each of two nodes to the other one, over other nodes too. -/
def Joined (g : Graph) (s t : Nat) : Prop := ReflTransGen g.Feeds s t ∧ ReflTransGen g.Feeds t s

/-- The names of two or more nodes, which are all that are joined to one of them, in ascending
order. So a cycle is as large as it can be: no node that could be added to it is missing. -/
structure IsCycle (g : Graph) (c : List String) : Prop where
  ascending : c.Pairwise (· < ·)
  several : 2 ≤ c.length
  exists_root : ∃ v, ∀ name, name ∈ c ↔ ∃ u, g.Joined u v ∧ g.nodeName? u = some name

/-- What is reported of a graph whose nodes depend on each other in cycles. The fields speak of the
cycles first and then of the tables of the fault, the names on any of the cycles. -/
structure Reports (g : Graph) (cycles : List (List String)) : Prop where
  /-- What is listed are the cycles. -/
  mem_iff : ∀ c, c ∈ cycles ↔ g.IsCycle c
  /-- No two cycles have a node in common. -/
  disjoint : cycles.Pairwise List.Disjoint
  /-- The cycles are in lexicographic order, each once. -/
  ordered : cycles.Pairwise (· < ·)
  /-- The tables are in ascending order, each once. -/
  tables_ordered : (Fault.cyclic cycles).cyclicTables.Pairwise (· < ·)
  /-- The tables are the nodes that are joined to another one. -/
  mem_tables : ∀ name, name ∈ (Fault.cyclic cycles).cyclicTables ↔
    ∃ v u, g.nodeName? v = some name ∧ u ≠ v ∧ g.Joined v u
  /-- A node on no cycle is not among the tables, whatever it leads to or is reached from. -/
  notMem_tables : ∀ v name, g.nodeName? v = some name → ¬ TransGen g.Feeds v v →
    name ∉ (Fault.cyclic cycles).cyclicTables

/-! ### Names -/

section Names

variable {g : Graph} {nodes : List Nat} {name : String} {s t v : Nat}

/-- The names of some nodes. -/
theorem mem_names : name ∈ g.names nodes ↔ ∃ u ∈ nodes, g.nodeName? u = some name := by
  simp [names]

/-- Every node of a graph has a name. -/
theorem exists_nodeName? (bound : v < g.nodes.length) : ∃ name, g.nodeName? v = some name :=
  ⟨g.nodes[v], List.getElem?_eq_getElem bound⟩

/-- No two nodes have one name. -/
theorem Valid.nodeName?_inj (valid : g.Valid) (hs : g.nodeName? s = some name)
    (ht : g.nodeName? t = some name) : s = t := by
  obtain ⟨bound, -⟩ := List.getElem?_eq_some_iff.1 hs
  exact (List.getElem?_inj bound valid.nodup).1 (hs.trans ht.symm)

/-- The names of different nodes are in strictly ascending order. -/
theorem Valid.pairwise_names (valid : g.Valid) (nodup : nodes.Nodup) :
    (g.names nodes).Pairwise (· < ·) := by
  refine pairwise_mergeSort_of_nodup ?_ ?_ ?_ ?_
  · intro a b c hab hbc
    simp only [decide_eq_true_eq] at hab hbc ⊢
    exact String.le_trans hab hbc
  · intro a b
    simpa using String.le_total a b
  · intro a b hab different
    refine String.not_le.1 fun hba => different ?_
    exact String.le_antisymm (of_decide_eq_true hab) hba
  · exact nodup.filterMap fun s t name hs ht => valid.nodeName?_inj hs ht

/-- There are as many names as nodes. -/
theorem length_names (bounded : ∀ u ∈ nodes, u < g.nodes.length) :
    (g.names nodes).length = nodes.length := by
  rw [names, List.length_mergeSort, List.filterMap_length_eq_length]
  intro u hu
  obtain ⟨name, found⟩ := exists_nodeName? (bounded u hu)
  simp [found]

end Names

/-! ### Edges between nodes and between names -/

section Valid

variable {g : Graph} {s t v : Nat}

theorem Valid.edge_eq (valid : g.Valid) : g.dependencies.Edge = g.Feeds := by
  funext s t
  exact propext valid.edge_dependencies_iff

theorem Valid.joined_iff (valid : g.Valid) : g.dependencies.Joined s t ↔ g.Joined s t := by
  simp only [Digraph.Joined, Digraph.Reaches, valid.edge_eq, Joined]

theorem Valid.onCycle_iff (valid : g.Valid) :
    g.dependencies.OnCycle v ↔ TransGen g.Feeds v v := by
  rw [Digraph.OnCycle, valid.edge_eq]

/-- A node on a cycle is one of the graph. -/
theorem lt_of_onCycle (onCycle : g.dependencies.OnCycle v) : v < g.nodes.length := by
  obtain ⟨t, edge, -⟩ := TransGen.head'_iff.1 onCycle
  simpa using Digraph.lt_size_of_next edge

/-! ### What is listed -/

/-- A listed cycle has the names of a cycle of the dependencies. -/
theorem mem_cycles {c : List String} :
    c ∈ g.cycles ↔
      ∃ nodes ∈ g.dependencies.cycles g.dependencies.blocked, g.names nodes = c := by
  simp [cycles]

/-- The nodes of a cycle of the dependencies are nodes of the graph. -/
theorem lt_of_mem_cycles {nodes : List Nat}
    (listed : nodes ∈ g.dependencies.cycles g.dependencies.blocked) :
    ∀ u ∈ nodes, u < g.nodes.length := by
  obtain ⟨root, onCycle, mem⟩ := Digraph.exists_root_of_mem_cycles listed
  intro u hu
  by_cases same : u = root
  · exact same ▸ lt_of_onCycle onCycle
  · exact lt_of_onCycle (((mem u).1 hu).onCycle same)

/-- A cycle of names has a node that is on a cycle, and its names are those of the nodes joined to
that one. -/
theorem IsCycle.exists_onCycle {c : List String} (cycle : g.IsCycle c) (valid : g.Valid) :
    ∃ v, g.dependencies.OnCycle v
      ∧ ∀ name, name ∈ c ↔ ∃ u, g.dependencies.Joined u v ∧ g.nodeName? u = some name := by
  obtain ⟨v, mem⟩ := cycle.exists_root
  simp only [← valid.joined_iff] at mem
  have nodup : c.Nodup := by
    refine cycle.ascending.imp fun {a b} less => ?_
    rintro rfl
    exact String.lt_irrefl a less
  obtain ⟨a, ha⟩ := List.exists_mem_of_length_pos (Nat.zero_lt_of_lt cycle.several)
  obtain ⟨b, hb, different⟩ := exists_mem_ne nodup cycle.several a
  obtain ⟨s, joined, hs⟩ := (mem a).1 ha
  obtain ⟨t, joined', ht⟩ := (mem b).1 hb
  refine ⟨v, ?_, mem⟩
  -- the two names belong to different nodes, so that one of these is not the root
  by_cases same : s = v
  · refine joined'.symm.onCycle fun same' => different ?_
    have : some b = some a := by rw [← ht, ← hs, same, same']
    exact Option.some.inj this
  · exact joined.symm.onCycle fun same' => same same'.symm

/-- **The cycles of a valid graph are listed, and nothing else.** What is listed has the properties
of a cycle; a cycle has a node on it, and the listed one through that node has the same names. -/
theorem Valid.mem_cycles_iff (valid : g.Valid) {c : List String} : c ∈ g.cycles ↔ g.IsCycle c := by
  rw [mem_cycles]
  constructor
  · rintro ⟨nodes, listed, rfl⟩
    obtain ⟨root, -, mem⟩ := Digraph.exists_root_of_mem_cycles listed
    have nodup := Digraph.nodup_of_mem_cycles (Digraph.nodup_blocked _) listed
    constructor
    case ascending => exact valid.pairwise_names nodup
    case several =>
      rw [length_names (lt_of_mem_cycles listed)]
      exact of_decide_eq_true (List.mem_filter.1 listed).2
    case exists_root =>
      refine ⟨root, fun name => ?_⟩
      simp only [mem_names, mem, valid.joined_iff]
  · intro cycle
    obtain ⟨v, onCycle, mem⟩ := cycle.exists_onCycle valid
    obtain ⟨nodes, listed, mem'⟩ := Digraph.exists_cycle_of_onCycle onCycle
    have nodup := Digraph.nodup_of_mem_cycles (Digraph.nodup_blocked _) listed
    refine ⟨nodes, listed, ?_⟩
    refine NameSet.eq_of_sorted_of_mem_iff (valid.pairwise_names nodup) cycle.ascending ?_
    intro name
    simp only [mem_names, mem, mem']

/-- **No two cycles have a name in common**: different nodes have different names, and no two cycles
share a node. -/
theorem Valid.disjoint_cycles (valid : g.Valid) : g.cycles.Pairwise List.Disjoint := by
  have apart : (g.dependencies.cycles g.dependencies.blocked).Pairwise List.Disjoint :=
    Digraph.pairwise_disjoint_cycles (Digraph.nodup_blocked _)
  refine ((List.mergeSort_perm _ _).pairwise_iff List.disjoint_symm).2 (apart.map _ ?_)
  intro c c' disjoint name here there
  obtain ⟨s, hs, found⟩ := mem_names.1 here
  obtain ⟨t, ht, found'⟩ := mem_names.1 there
  exact disjoint hs (valid.nodeName?_inj found found' ▸ ht)

/-- **The cycles are in lexicographic order**, and strictly so, as two cycles without a common name
are not equal. -/
theorem Valid.pairwise_cycles (valid : g.Valid) : g.cycles.Pairwise (· < ·) := by
  have le_iff (a b : List String) :
      (!b.lex a fun x y => decide (x < y)) = true ↔ List.le a b := by
    rw [Bool.not_eq_true']
    exact List.lex_eq_false_iff_ge
  have distinct : g.cycles.Nodup := by
    refine valid.disjoint_cycles.imp_of_mem fun {c c'} listed _ disjoint => ?_
    rintro rfl
    have several := (valid.mem_cycles_iff.1 listed).several
    obtain ⟨name, member⟩ := List.exists_mem_of_length_pos (Nat.zero_lt_of_lt several)
    exact disjoint member member
  refine pairwise_mergeSort_of_nodup ?_ ?_ ?_ ((List.mergeSort_perm _ _).nodup_iff.1 distinct)
  · intro a b c hab hbc
    rw [le_iff] at hab hbc ⊢
    exact List.le_trans hab hbc
  · intro a b
    rw [Bool.or_eq_true, le_iff, le_iff]
    exact List.le_total a b
  · intro a b hab different
    exact (List.le_iff_lt_or_eq.1 ((le_iff a b).1 hab)).resolve_right different

/-! ### What is reported -/

/-- Only cycles keep a graph from having phases. -/
theorem phases_eq_error_iff {fault : Fault} :
    g.phases = .error fault ↔ g.dependencies.blocked ≠ [] ∧ fault = .cyclic g.cycles := by
  unfold phases
  split
  · next free => simp [List.isEmpty_iff.1 free]
  · next blocked =>
    simp only [List.isEmpty_iff] at blocked
    simp [blocked, eq_comm]

/-- A node is blocked if some node is on a cycle. -/
theorem Valid.blocked_ne_nil_iff (valid : g.Valid) :
    g.dependencies.blocked ≠ [] ↔ ∃ v, TransGen g.Feeds v v := by
  constructor
  · intro blocked
    obtain ⟨v, member⟩ := List.exists_mem_of_ne_nil _ blocked
    obtain ⟨source, onCycle, -⟩ := Digraph.mem_blocked_iff.1 member
    exact ⟨source, valid.onCycle_iff.1 onCycle⟩
  · rintro ⟨v, onCycle⟩
    exact List.ne_nil_of_mem (valid.onCycle_iff.2 onCycle).mem_blocked

/-- **The tables of a cyclic dependency are those on a cycle**, which need not be all that are
blocked. -/
theorem Valid.mem_tables_iff (valid : g.Valid) {name : String} :
    name ∈ (Fault.cyclic g.cycles).cyclicTables ↔
      ∃ v, g.nodeName? v = some name ∧ g.dependencies.OnCycle v := by
  rw [Fault.mem_cyclicTables]
  constructor
  · rintro ⟨c, listed, member⟩
    obtain ⟨v, onCycle, mem⟩ := (valid.mem_cycles_iff.1 listed).exists_onCycle valid
    obtain ⟨u, joined, found⟩ := (mem name).1 member
    by_cases same : u = v
    · exact ⟨u, found, same ▸ onCycle⟩
    · exact ⟨u, found, joined.onCycle same⟩
  · rintro ⟨v, found, onCycle⟩
    obtain ⟨nodes, listed, mem⟩ := Digraph.exists_cycle_of_onCycle onCycle
    refine ⟨g.names nodes, mem_cycles.2 ⟨nodes, listed, rfl⟩, ?_⟩
    exact mem_names.2 ⟨v, (mem v).2 (.refl _ v), found⟩

/-- **What is listed is to be reported.** The parts of the report are the results above, said of
names. -/
theorem Valid.reports_cycles (valid : g.Valid) : g.Reports g.cycles where
  mem_iff _ := valid.mem_cycles_iff
  disjoint := valid.disjoint_cycles
  ordered := valid.pairwise_cycles
  tables_ordered := Fault.pairwise_cyclicTables _
  mem_tables := by
    intro name
    rw [valid.mem_tables_iff]
    refine exists_congr fun v => ?_
    constructor
    · rintro ⟨found, onCycle⟩
      obtain ⟨u, different, joined⟩ := onCycle.exists_joined
      exact ⟨u, found, different, valid.joined_iff.1 joined⟩
    · rintro ⟨u, found, different, joined⟩
      exact ⟨found, (valid.joined_iff.2 joined).onCycle different.symm⟩
  notMem_tables := by
    intro v name found off member
    obtain ⟨u, found', onCycle⟩ := valid.mem_tables_iff.1 member
    obtain rfl := valid.nodeName?_inj found found'
    exact off (valid.onCycle_iff.1 onCycle)

/-- **A graph has no phases if nodes depend on each other in cycles**, and then it reports these. -/
theorem phases_eq_error (grown : g.Grown) :
    ((∃ cycles, g.phases = .error (.cyclic cycles)) ↔ ∃ v, TransGen g.Feeds v v)
      ∧ ∀ fault, g.phases = .error fault →
        ∃ cycles, fault = .cyclic cycles ∧ g.Reports cycles := by
  simp only [phases_eq_error_iff]
  constructor
  · rw [← grown.valid.blocked_ne_nil_iff]
    exact ⟨fun ⟨_, blocked, _⟩ => blocked, fun blocked => ⟨_, blocked, rfl⟩⟩
  · rintro fault ⟨-, rfl⟩
    exact ⟨g.cycles, rfl, grown.valid.reports_cycles⟩

end Valid

/-- A table between two cycles is on neither of them: it is blocked by the one and blocks the other,
and is not reported. -/
theorem reports_of_two_cycles :
    ∃ g : Graph, g.Grown ∧ g.phases = .error (.cyclic [["a", "b"], ["d", "e"]])
      ∧ (∃ v, TransGen g.Feeds v v) ∧ g.Reports [["a", "b"], ["d", "e"]] := by
  obtain ⟨g, grown, nodes, blocked, components⟩ : ∃ g : Graph, g.Grown
      ∧ g.nodes = ["a", "b", "c", "d", "e"] ∧ g.dependencies.blocked ≠ []
      ∧ g.dependencies.cycles g.dependencies.blocked = [[0, 1], [3, 4]] :=
    ⟨ofQueries [⟨[.insert ⟨"b", .singleton "A"⟩]⟩, ⟨[.insert ⟨"a", .singleton "b"⟩]⟩,
      ⟨[.insert ⟨"c", .ofList ["a", "c"]⟩]⟩, ⟨[.insert ⟨"d", .singleton "c"⟩]⟩,
      ⟨[.insert ⟨"e", .singleton "d"⟩]⟩, ⟨[.insert ⟨"d", .singleton "e"⟩]⟩], grown_ofQueries _,
      by decide +kernel, by decide +kernel, by decide +kernel⟩
  have listed : g.cycles = [["a", "b"], ["d", "e"]] := by
    have names (i j : Nat) (a b : String) (ha : g.nodeName? i = some a)
        (hb : g.nodeName? j = some b) (less : a ≤ b) : g.names [i, j] = [a, b] := by
      simp only [Graph.names, List.filterMap_cons, ha, hb, List.filterMap_nil]
      exact List.mergeSort_of_pairwise (by simpa using less)
    have first : g.names [0, 1] = ["a", "b"] :=
      names 0 1 "a" "b" (by simp [nodeName?, nodes]) (by simp [nodeName?, nodes]) (by decide)
    have second : g.names [3, 4] = ["d", "e"] :=
      names 3 4 "d" "e" (by simp [nodeName?, nodes]) (by simp [nodeName?, nodes]) (by decide)
    simp only [cycles, components, List.map_cons, List.map_nil, first, second]
    exact List.mergeSort_of_pairwise (by decide)
  have phases : g.phases = .error (.cyclic [["a", "b"], ["d", "e"]]) :=
    phases_eq_error_iff.2 ⟨blocked, by rw [listed]⟩
  obtain ⟨cyclic, reports⟩ := phases_eq_error grown
  obtain ⟨cycles, same, reported⟩ := reports _ phases
  injection same with same
  exact ⟨g, grown, phases, cyclic.1 ⟨_, phases⟩, same ▸ reported⟩

end QueryFlow.Flow.Graph
