import Mathlib.Order.Monotone.Basic
import Mathlib.SetTheory.Cardinal.Arithmetic
import QueryFlow.Proofs.Flow.Renaming

/-!
# Graphs without the queries that do nothing

Queries that neither read nor write anything may be left out of a flow graph. The queries behind
them move up, in their order; nodes and edges stay as they are, and so do the cycles or the phases,
up to the numbers of the queries.

## The places of kept elements

Some elements of a list are kept. `keptAt` says where in the whole list the elements stand that are
kept, from the marks of all elements. It goes up strictly, and on behind the end of the list, so
that it is a function on all numbers and its two halves at an append can be told apart. The numbers
in edges and phases change by it.

## Two arguments

Nodes and edges are followed through the building of both graphs, by induction on the queries from
the end of the list. A query that is left out adds neither node nor edge. One that is kept finds the
same nodes in both graphs and gets the same positions, and its edges differ in the number of the
query only (`addQuery_congr`).

The phases need no second look at the algorithm. On the places of the kept queries `keptAt` can be
extended to a permutation of all numbers, and with it the graph without the idle queries is a
renaming of the whole one (`renaming_filter`). A renaming that keeps the order keeps the order of
the queries within each phase too, so that phases do not only have the same members but are the same
lists, renumbered (`Renaming.phases_eq_map`).

## Main results

* `strictMono_keptAt`, `getElem?_filter_keptAt`: kept elements stay in their order.
* `nodes_edges_filter`: leaving out queries that do nothing keeps nodes and edges.
* `phases_filter`: it keeps cycles and phases.
-/

namespace QueryFlow

/-! ### The places of kept elements -/

/-- The place of an element that is kept, by its place among the kept ones. Behind the end of the
marks every element counts as kept. -/
def keptAt : List Bool → Nat → Nat
  | [], i => i
  | true :: _, 0 => 0
  | true :: marks, i + 1 => keptAt marks i + 1
  | false :: marks, i => keptAt marks i + 1

/-- **Kept elements stay in their order.** -/
theorem strictMono_keptAt (marks : List Bool) : StrictMono (keptAt marks) := by
  induction marks with
  | nil => exact strictMono_id
  | cons mark marks ih =>
      intro i j less
      cases mark with
      | false => exact Nat.succ_lt_succ (ih less)
      | true =>
          cases j with
          | zero => cases less
          | succ j =>
              cases i with
              | zero => exact Nat.succ_pos _
              | succ i => exact Nat.succ_lt_succ (ih (Nat.lt_of_succ_lt_succ less))

/-- **A kept element is one of the whole list**, at its place there. By induction on the list. -/
theorem getElem?_filter_keptAt {α : Type} (p : α → Bool) (xs : List α) (i : Nat) :
    (xs.filter p)[i]? = xs[keptAt (xs.map p) i]? := by
  induction xs generalizing i with
  | nil => rfl
  | cons x xs ih =>
      cases keeps : p x with
      | false => simp [keeps, keptAt, ih]
      | true => cases i <;> simp [keeps, keptAt, ih]

/-- Every element with a mark is one of those that are kept. -/
theorem exists_keptAt {marks : List Bool} {j : Nat} (marked : marks[j]? = some true) :
    ∃ i < marks.count true, keptAt marks i = j := by
  induction marks generalizing j with
  | nil => cases marked
  | cons mark marks ih =>
      cases j with
      | zero =>
          obtain rfl : mark = true := by simpa using marked
          exact ⟨0, by simp, rfl⟩
      | succ j =>
          obtain ⟨i, bound, same⟩ := ih (by simpa using marked)
          cases mark with
          | false => exact ⟨i, by simpa using bound, by simp [keptAt, same]⟩
          | true => exact ⟨i + 1, by simpa using bound, by simp [keptAt, same]⟩

/-- The places of the elements that are kept of a list do not change with what comes behind it. -/
theorem keptAt_append_of_lt {marks : List Bool} {i : Nat} (bound : i < marks.count true)
    (more : List Bool) : keptAt (marks ++ more) i = keptAt marks i := by
  induction marks generalizing i with
  | nil => cases bound
  | cons mark marks ih =>
      cases mark with
      | false => simpa [keptAt] using ih (by simpa using bound)
      | true =>
          cases i with
          | zero => rfl
          | succ i => simpa [keptAt] using ih (by simpa using bound)

/-- Behind the elements of a list come those that are kept of what follows it. -/
theorem keptAt_append_add (marks more : List Bool) (i : Nat) :
    keptAt (marks ++ more) (marks.count true + i) = marks.length + keptAt more i := by
  induction marks with
  | nil => simp
  | cons mark marks ih =>
      cases mark with
      | false => simp [keptAt, ih, Nat.add_right_comm]
      | true => simp [keptAt, ih, Nat.add_right_comm]

namespace Flow

/-- An edge with another number for its query. -/
def Edge.renumber (f : Nat → Nat) (e : Edge) : Edge := { e with query := f e.query }

/-- A phase with other numbers for its queries, and the same tables. -/
def Phase.renumber (f : Nat → Nat) (p : Phase) : Phase := { p with queries := p.queries.map f }

theorem Footprint.renumber_edges (f : Footprint) (place : Nat → Nat) (query : Nat) :
    (f.edges query).map (Edge.renumber place) = f.edges (place query) := by
  simp [edges, List.map_flatMap, Function.comp_def, Edge.renumber]

namespace Graph

/-! ### Leaving out queries that do nothing -/

/-- Where the nodes of names are depends on the nodes only. -/
theorem addNodes_congr {g h : Graph} (indexed : g.Indexed) (indexed' : h.Indexed)
    (same : g.nodes = h.nodes) (names : List String) :
    (g.addNodes names).1.nodes = (h.addNodes names).1.nodes
      ∧ (g.addNodes names).2 = (h.addNodes names).2 := by
  induction names generalizing g h with
  | nil => exact ⟨same, rfl⟩
  | cons name names ih =>
      have first : (g.addNode name).1.nodes = (h.addNode name).1.nodes
          ∧ (g.addNode name).2 = (h.addNode name).2 := by
        simp only [addNode, indexed.lookup_congr indexed' same, same]
        split <;> simp [same]
      obtain ⟨nodes, indices⟩ := ih ((extends_addNode g name).indexed indexed)
        ((extends_addNode h name).indexed indexed') first.1
      exact ⟨nodes, by simp [addNodes, first.2, indices]⟩

/-- What is added with a query depends on the nodes, and on how many queries there are: graphs with
the same nodes, whatever their indices look like inside, get the same nodes and the same footprint.
-/
theorem addQuery_congr {g h : Graph} (indexed : g.Indexed) (indexed' : h.Indexed)
    (same : g.nodes = h.nodes) (c : Classification) :
    ∃ f : Footprint, (g.addQuery c).1.nodes = (h.addQuery c).1.nodes
      ∧ (g.addQuery c).1.edges = g.edges ++ f.edges g.queries.length
      ∧ (h.addQuery c).1.edges = h.edges ++ f.edges h.queries.length := by
  obtain ⟨read, sources⟩ := addNodes_congr indexed indexed' same c.sources.toList
  obtain ⟨written, targets⟩ := addNodes_congr ((extends_addNodes g c.sources.toList).indexed indexed)
    ((extends_addNodes h c.sources.toList).indexed indexed') read c.targets.toList
  have kept (k : Graph) (names names' : List String) :
      ((k.addNodes names).1.addNodes names').1.edges = k.edges :=
    (extends_addNodes _ names').edges.trans (extends_addNodes k names).edges
  refine ⟨⟨(g.addNodes c.sources.toList).2,
    ((g.addNodes c.sources.toList).1.addNodes c.targets.toList).2⟩, written, ?_, ?_⟩
  · simp [addQuery, kept]
  · simp [addQuery, kept, sources, targets]

/-- A query that does nothing leaves nodes and edges as they are. -/
theorem addQuery_idle (g : Graph) {c : Classification} (sources : c.sources = .empty)
    (targets : c.targets = .empty) :
    (g.addQuery c).1.nodes = g.nodes ∧ (g.addQuery c).1.edges = g.edges := by
  simp [addQuery, sources, targets, NameSet.empty, addNodes, Footprint.edges]

section Filter

variable {p : Classification → Bool} {cs : List Classification}

/-- The queries that are left out read and write nothing. Others that read and write nothing may be
kept. -/
def IdleUnless (p : Classification → Bool) (cs : List Classification) : Prop :=
  ∀ c ∈ cs, p c = false → c.sources = .empty ∧ c.targets = .empty

theorem count_marks (p : Classification → Bool) (cs : List Classification) :
    (cs.map p).count true = (cs.filter p).length := by
  rw [List.count, List.countP_map, List.countP_eq_length_filter]
  simp [Function.comp_def]

/-- Nodes and edges stay when queries that do nothing are left out. -/
theorem nodes_edges_filter (idle : IdleUnless p cs) :
    (ofQueries (cs.filter p)).nodes = (ofQueries cs).nodes
      ∧ (ofQueries (cs.filter p)).edges.map (Edge.renumber (keptAt (cs.map p)))
        = (ofQueries cs).edges := by
  induction cs using List.reverseRecOn with
  | nil => exact ⟨rfl, rfl⟩
  | append_singleton cs c ih =>
      obtain ⟨nodes, edges⟩ := ih fun c member => idle c (List.mem_append_left _ member)
      have counted := count_marks p cs
      -- the edges that are there already have the numbers of earlier queries
      have before : (ofQueries (cs.filter p)).edges.map (Edge.renumber (keptAt ((cs ++ [c]).map p)))
          = (ofQueries cs).edges := by
        rw [← edges]
        refine List.map_congr_left fun e member => ?_
        obtain ⟨f, found, -⟩ := ((grown_ofQueries _).valid.mem_edges.1 member).1
        have bound : e.query < (cs.map p).count true := counted ▸ lt_of_footprint? found
        simp [Edge.renumber, keptAt_append_of_lt bound]
      cases keeps : p c with
      | false =>
          obtain ⟨sources, targets⟩ := idle c (by simp) keeps
          have added := addQuery_idle (ofQueries cs) sources targets
          have same : (cs ++ [c]).filter p = cs.filter p := by simp [List.filter_append, keeps]
          rw [ofQueries_concat, added.1, added.2, same]
          exact ⟨nodes, before⟩
      | true =>
          obtain ⟨f, nodes', kept, whole⟩ := addQuery_congr (grown_ofQueries _).valid.indexed
            (grown_ofQueries _).valid.indexed nodes c
          have same : (cs ++ [c]).filter p = cs.filter p ++ [c] := by
            simp [List.filter_append, keeps]
          have last : keptAt ((cs ++ [c]).map p) (cs.filter p).length = cs.length := by
            have := keptAt_append_add (cs.map p) [true] 0
            simpa [counted, keeps, keptAt] using this
          rw [ofQueries_concat, same, ofQueries_concat, kept, whole]
          refine ⟨nodes', ?_⟩
          rw [List.map_append, before, Footprint.renumber_edges, length_queries_ofQueries,
            length_queries_ofQueries, last]

end Filter

/-! ### Phases of a renaming that keeps the order -/

variable {g h : Graph} {σ : Equiv.Perm Nat}

/-- What a graph says of its phase at a position. -/
theorem phase_of_getElem? {ps : List Phase} {p : Phase} {i : Nat} (phases : g.phases = .ok ps)
    (found : ps[i]? = some p) :
    p.index = i ∧ p.queries.Pairwise (· < ·) ∧ ∀ q ∈ p.queries, q < g.queries.length := by
  obtain ⟨-, laid⟩ := phases_eq_ok_iff.1 phases
  obtain ⟨-, rfl⟩ := (getElem?_laid laid).1 found
  refine ⟨rfl, List.pairwise_lt_range.filter _, fun q member => ?_⟩
  exact List.mem_range.1 (List.mem_filter.1 member).1

/-- **A renaming that keeps the order of the queries renumbers the phases.** Equal tables alone
would not do: the queries of a phase are ascending on both sides, so equal sets are equal lists. -/
theorem Renaming.phases_eq_map (renamed : g.Renaming h σ) (valid : g.Valid) (valid' : h.Valid)
    {f : Nat → Nat} (ascending : StrictMono f) (placed : ∀ q < h.queries.length, σ q = f q) :
    g.phases = h.phases.map fun ps => ps.map (Phase.renumber f) := by
  rcases renamed.phases_eq valid valid' with ⟨cycles, failed, failed'⟩
    | ⟨ps, ps', phases, phases', tables, same⟩
  · rw [failed, failed']
    rfl
  rw [phases, phases']
  refine congrArg Except.ok (List.ext_getElem? fun i => ?_)
  have table : (ps'[i]?).map Phase.tables = (ps[i]?).map Phase.tables := by
    simpa using congrArg (·[i]?) tables
  rw [List.getElem?_map]
  cases found : ps[i]? with
  | none => simpa [found] using table
  | some p =>
      obtain ⟨p', found', same'⟩ : ∃ p', ps'[i]? = some p' ∧ p'.tables = p.tables := by
        simpa [found] using table
      obtain ⟨index, sorted, -⟩ := phase_of_getElem? phases found
      obtain ⟨index', sorted', bounded⟩ := phase_of_getElem? phases' found'
      have mem (q : Nat) : q ∈ p'.queries ↔ σ q ∈ p.queries := by
        simpa [InPhase, found, found'] using same q i
      have queries : p.queries = p'.queries.map f := by
        have sorted'' : (p'.queries.map f).Pairwise (· < ·) :=
          List.pairwise_map.2 (sorted'.imp fun less => ascending less)
        refine sorted.eq_of_mem_iff sorted'' fun q => ?_
        obtain ⟨q', rfl⟩ := σ.surjective q
        rw [← mem, List.mem_map]
        constructor
        · intro member
          exact ⟨q', member, (placed q' (bounded q' member)).symm⟩
        · rintro ⟨q, member, moved⟩
          rw [← placed q (bounded q member)] at moved
          exact σ.injective moved ▸ member
      rw [found', Option.map_some, Option.some.injEq]
      exact (Phase.mk.injEq ..).mpr ⟨index.trans index'.symm, queries, same'.symm⟩

/-! ### Phases without the queries that do nothing -/

/-- The numbers of the queries that are kept are those that some permutation gives. Finitely many
numbers and their places can be exchanged, and what the permutation does with the others is of no
account. -/
theorem exists_perm_keptAt (marks : List Bool) :
    ∃ σ : Equiv.Perm Nat, ∀ i < marks.count true, σ i = keptAt marks i := by
  let kept : Set Nat := {i | i < marks.count true}
  let place : kept ↪ Nat :=
    ⟨fun i => keptAt marks i,
      fun i j same => Subtype.ext ((strictMono_keptAt marks).injective same)⟩
  obtain ⟨σ, same⟩ := Cardinal.extend_function_of_lt place (by simp)
    ⟨Equiv.refl Nat⟩
  exact ⟨σ, fun i bound => same ⟨i, bound⟩⟩

section Filter

variable {p : Classification → Bool} {cs : List Classification}

/-- What only kept queries do is done by the query of the old number, and the other way round. -/
theorem exists_filter_iff {P : Classification → Prop} (only : ∀ c ∈ cs, P c → p c = true)
    (placed : ∀ i < (cs.map p).count true, σ i = keptAt (cs.map p) i) (query : Nat) :
    (∃ c, (cs.filter p)[query]? = some c ∧ P c) ↔ ∃ c, cs[σ query]? = some c ∧ P c := by
  rcases Nat.lt_or_ge query ((cs.map p).count true) with bound | outside
  · rw [getElem?_filter_keptAt, placed query bound]
  · constructor
    · rintro ⟨c, found, -⟩
      have := (List.getElem?_eq_some_iff.1 found).1
      rw [← count_marks] at this
      omega
    · rintro ⟨c, found, done⟩
      have marked : (cs.map p)[σ query]? = some true := by
        simp [found, only c (List.mem_of_getElem? found) done]
      obtain ⟨i, bound, same⟩ := exists_keptAt marked
      rw [← placed i bound] at same
      have := σ.injective same
      omega

/-- Without the queries that do nothing, the graph is a renaming. -/
theorem renaming_filter (idle : IdleUnless p cs)
    (placed : ∀ i < (cs.map p).count true, σ i = keptAt (cs.map p) i) :
    (ofQueries cs).Renaming (ofQueries (cs.filter p)) σ where
  reads query name := by
    simp only [readsFrom_ofQueries]
    refine exists_filter_iff (fun c member => ?_) placed query
    rintro ⟨given, named, -⟩
    by_contra dropped
    simp [(idle c member (by simpa using dropped)).1] at named
  writes query name := by
    simp only [writesTo_ofQueries]
    refine exists_filter_iff (fun c member => ?_) placed query
    rintro ⟨given, named, -⟩
    by_contra dropped
    simp [(idle c member (by simpa using dropped)).2] at named

/-- **Cycles and phases stay when queries that do nothing are left out**, but for the numbers of the
queries. -/
theorem phases_filter (idle : IdleUnless p cs) :
    (ofQueries cs).phases = (ofQueries (cs.filter p)).phases.map fun ps =>
      ps.map (Phase.renumber (keptAt (cs.map p))) := by
  obtain ⟨σ, placed⟩ := exists_perm_keptAt (cs.map p)
  refine (renaming_filter idle placed).phases_eq_map (grown_ofQueries _).valid
    (grown_ofQueries _).valid (strictMono_keptAt _) fun q bound => placed q ?_
  rwa [count_marks, ← length_queries_ofQueries]

end Filter

end Graph

end Flow

end QueryFlow
