import Mathlib.Data.Fin.Basic
import Mathlib.Data.List.Sort
import Mathlib.Logic.Equiv.Basic
import QueryFlow.Proofs.Flow.Cycle
import QueryFlow.Proofs.Flow.Naming
import QueryFlow.Proofs.Flow.Schedule

/-!
# The order of the log does not matter

A graph is a *renaming* of another one if its queries, taken in another order, read from and write
to the same names. The order of the queries decides about the positions of nodes and edges and about
the order in which nodes are placed, walked through and ranked. Cycles and phases come out alike
nevertheless, because either of them is determined by names alone: the cycles by which name leads to
which, and the phases by who waits for whom.

## Why no run is compared with another

Nothing is said about what two runs of the algorithm do step by step; they have little in common.
Both results are instead described without the algorithm, and the descriptions are compared. A list
of names is a cycle if its names are all that are joined to one of them (`Valid.isCycle_iff`), and
the joined names are the same in both graphs. The list of cycles is sorted and without repetition,
so equal members make equal lists.

For the phases the description is the one that the layout gives: zero for a query that awaits none,
and otherwise one more than the greatest phase of those that it awaits. Two functions with this
property agree by strong induction on the phase: the queries that are awaited have lesser phases, in
which the graphs agree already (`Renaming.query?_eq_some`). The induction shows one direction; the
other one is the same statement about the inverse renaming.

## Main results

* `Valid.isCycle_iff` and `Valid.awaits_iff`: cycles, and who waits for whom, are told by names.
* `Renaming.cycles_eq`: a renaming has the same cycles.
* `Renaming.query?_eq_some_iff`: a renamed query has the same phase.
* `phases_rearranged`: queries in another order have the same cycles, or the same phases.
-/

open Relation

namespace QueryFlow.Flow.Graph

/-- Some query moves rows from a name to another one: what `Feeds` says of nodes, said of their
names. -/
def Leads (g : Graph) (a b : String) : Prop :=
  a ≠ b ∧ ∃ query, g.ReadsFrom query a ∧ g.WritesTo query b

/-- Rows get from each of two names to the other one, over other names too. -/
def JoinedNames (g : Graph) (a b : String) : Prop :=
  ReflTransGen g.Leads a b ∧ ReflTransGen g.Leads b a

/-- The queries of the second graph read from and write to the same names as those of the first one
that they are renamed to. The permutation is one of all numbers, so that it can be inverted without
a word about lengths; a number of no query reads and writes nothing in either graph. -/
structure Renaming (g h : Graph) (σ : Equiv.Perm Nat) : Prop where
  reads : ∀ query name, h.ReadsFrom query name ↔ g.ReadsFrom (σ query) name
  writes : ∀ query name, h.WritesTo query name ↔ g.WritesTo (σ query) name

theorem Renaming.symm {g h : Graph} {σ : Equiv.Perm Nat} (renamed : g.Renaming h σ) :
    h.Renaming g σ.symm where
  reads query name := by simp [renamed.reads]
  writes query name := by simp [renamed.writes]

/-! ### Names instead of nodes -/

section Valid

variable {g : Graph} {s t u v : Nat} {a b : String}

/-- **Nodes feed each other as their names lead to each other.** -/
theorem Valid.feeds_iff_leads (valid : g.Valid) (hs : g.nodeName? s = some a)
    (ht : g.nodeName? t = some b) : g.Feeds s t ↔ g.Leads a b := by
  rw [valid.feeds_iff]
  constructor
  · rintro ⟨different, query, reads, writes⟩
    refine ⟨?_, query, ⟨s, reads, hs⟩, ⟨t, writes, ht⟩⟩
    rintro rfl
    exact different (valid.nodeName?_inj hs ht)
  · rintro ⟨different, query, ⟨s', reads, hs'⟩, ⟨t', writes, ht'⟩⟩
    obtain rfl := valid.nodeName?_inj hs hs'
    obtain rfl := valid.nodeName?_inj ht ht'
    refine ⟨?_, query, reads, writes⟩
    rintro rfl
    exact different (Option.some.inj (hs.symm.trans ht))

/-- A node that feeds another one has a name, and so has the other one. -/
theorem Valid.exists_names (valid : g.Valid) (feeds : g.Feeds s t) :
    (∃ a, g.nodeName? s = some a) ∧ ∃ b, g.nodeName? t = some b := by
  obtain ⟨-, query, reads, writes⟩ := valid.feeds_iff.1 feeds
  exact ⟨exists_nodeName? (valid.lt_of_reads reads), exists_nodeName? (valid.lt_of_writes writes)⟩

/-- A name that leads to another one is that of a node. -/
theorem Leads.exists_node (leads : g.Leads a b) :
    (∃ s, g.nodeName? s = some a) ∧ ∃ t, g.nodeName? t = some b := by
  obtain ⟨-, query, ⟨s, -, hs⟩, ⟨t, -, ht⟩⟩ := leads
  exact ⟨⟨s, hs⟩, ⟨t, ht⟩⟩

/-- **Rows get from node to node as they get from name to name.** By induction on the way, in either
direction. -/
theorem Valid.reaches_iff (valid : g.Valid) (hs : g.nodeName? s = some a)
    (ht : g.nodeName? t = some b) : ReflTransGen g.Feeds s t ↔ ReflTransGen g.Leads a b := by
  constructor
  · intro reaches
    induction reaches generalizing b with
    | refl =>
        rw [hs] at ht
        injection ht with same
        exact same ▸ .refl
    | tail _ feeds ih =>
        obtain ⟨c, hc⟩ := (valid.exists_names feeds).1
        exact (ih hc).tail ((valid.feeds_iff_leads hc ht).1 feeds)
  · intro reaches
    induction reaches generalizing t with
    | refl => exact valid.nodeName?_inj hs ht ▸ .refl
    | tail _ leads ih =>
        obtain ⟨c, hc⟩ := leads.exists_node.1
        exact (ih hc).tail ((valid.feeds_iff_leads hc ht).2 leads)

/-- Nodes are joined as their names are. -/
theorem Valid.joined_iff_joinedNames (valid : g.Valid) (hs : g.nodeName? s = some a)
    (ht : g.nodeName? t = some b) : g.Joined s t ↔ g.JoinedNames a b :=
  and_congr (valid.reaches_iff hs ht) (valid.reaches_iff ht hs)

/-- A node that is joined to a node with a name has a name. -/
theorem Valid.exists_name_of_joined (valid : g.Valid) (joined : g.Joined u v)
    (named : g.nodeName? v = some b) : ∃ a, g.nodeName? u = some a := by
  rcases joined.1.cases_head with rfl | ⟨_, feeds, -⟩
  · exact ⟨b, named⟩
  · exact (valid.exists_names feeds).1

/-- A name that is joined to the name of a node is that of a node. -/
theorem exists_node_of_joinedNames (joined : g.JoinedNames a b) (named : g.nodeName? v = some b) :
    ∃ u, g.nodeName? u = some a := by
  rcases joined.1.cases_head with rfl | ⟨_, leads, -⟩
  · exact ⟨v, named⟩
  · exact leads.exists_node.1

/-- The names of the nodes that are joined to a node are those that are joined to its name. -/
theorem Valid.exists_joined_iff (valid : g.Valid) (named : g.nodeName? v = some b) :
    (∃ u, g.Joined u v ∧ g.nodeName? u = some a) ↔ g.JoinedNames a b := by
  constructor
  · rintro ⟨u, joined, hu⟩
    exact (valid.joined_iff_joinedNames hu named).1 joined
  · intro joined
    obtain ⟨u, hu⟩ := exists_node_of_joinedNames joined named
    exact ⟨u, (valid.joined_iff_joinedNames hu named).2 joined, hu⟩

/-- **Cycles are told by names alone**: which numbers the nodes have does not matter. -/
theorem Valid.isCycle_iff (valid : g.Valid) {c : List String} :
    g.IsCycle c ↔ c.Pairwise (· < ·) ∧ 2 ≤ c.length
      ∧ ∃ root, ∀ name, name ∈ c ↔ g.JoinedNames name root := by
  constructor
  · rintro ⟨ascending, several, v, mem⟩
    refine ⟨ascending, several, ?_⟩
    obtain ⟨a, ha⟩ := List.exists_mem_of_length_pos (Nat.zero_lt_of_lt several)
    obtain ⟨u, joined, hu⟩ := (mem a).1 ha
    obtain ⟨root, hv⟩ := valid.exists_name_of_joined joined.symm hu
    exact ⟨root, fun name => (mem name).trans (valid.exists_joined_iff hv)⟩
  · rintro ⟨ascending, several, root, mem⟩
    -- one of the names is not the root; so the root leads somewhere, and is the name of a node
    have nodup : c.Nodup := ascending.imp fun {a b} less => by
      rintro rfl
      exact String.lt_irrefl a less
    obtain ⟨a, ha, different⟩ := exists_mem_ne nodup several root
    obtain ⟨v, hv⟩ : ∃ v, g.nodeName? v = some root := by
      rcases ((mem a).1 ha).1.cases_tail with same | ⟨_, -, leads⟩
      · exact absurd same.symm different
      · exact leads.exists_node.2
    exact ⟨ascending, several, v, fun name => (mem name).trans (valid.exists_joined_iff hv).symm⟩

/-- **Who waits for whom is told by names alone**, and by which query reads and writes them. -/
theorem Valid.awaits_iff (valid : g.Valid) {query writer : Nat} :
    g.Awaits query writer ↔ ∃ name, g.ReadsFrom query name ∧ ¬ g.WritesTo query name
      ∧ g.WritesTo writer name := by
  constructor
  · rintro ⟨n, reads, own, writes⟩
    obtain ⟨name, named⟩ := exists_nodeName? (valid.lt_of_reads reads)
    refine ⟨name, ⟨n, reads, named⟩, ?_, ⟨n, writes, named⟩⟩
    rintro ⟨n', writes', named'⟩
    exact own (valid.nodeName?_inj named named' ▸ writes')
  · rintro ⟨name, ⟨n, reads, named⟩, own, ⟨n', writes, named'⟩⟩
    obtain rfl := valid.nodeName?_inj named named'
    exact ⟨n, reads, fun writes' => own ⟨n, writes', named⟩, writes⟩

/-- A query writes something if it writes to a name. -/
theorem Valid.exists_writes_iff (valid : g.Valid) {query : Nat} :
    (∃ n, g.Writes query n) ↔ ∃ name, g.WritesTo query name := by
  constructor
  · rintro ⟨n, writes⟩
    obtain ⟨name, named⟩ := exists_nodeName? (valid.lt_of_writes writes)
    exact ⟨name, n, writes, named⟩
  · rintro ⟨_, n, writes, -⟩
    exact ⟨n, writes⟩

/-- A graph without phases has cycles to report. -/
theorem Valid.blocked_ne_nil_iff_cycles (valid : g.Valid) :
    g.dependencies.blocked ≠ [] ↔ g.cycles ≠ [] := by
  constructor
  · intro blocked
    obtain ⟨v, member⟩ := List.exists_mem_of_ne_nil _ blocked
    obtain ⟨source, onCycle, -⟩ := Digraph.mem_blocked_iff.1 member
    obtain ⟨nodes, listed, -⟩ := Digraph.exists_cycle_of_onCycle onCycle
    exact List.ne_nil_of_mem (mem_cycles.2 ⟨nodes, listed, rfl⟩)
  · intro cyclic
    obtain ⟨c, listed⟩ := List.exists_mem_of_ne_nil _ cyclic
    obtain ⟨v, onCycle, -⟩ := (valid.mem_cycles_iff.1 listed).exists_onCycle valid
    exact List.ne_nil_of_mem onCycle.mem_blocked

end Valid

/-! ### Renamed graphs -/

/-- The queries of a phase are those that have it. -/
theorem mem_queries_phaseAt {g : Graph} (sound : g.rank.Sound g) {query i : Nat} :
    query ∈ (g.phaseAt g.rank i).queries ↔ g.rank.query? query = some i := by
  simp only [phaseAt, List.mem_filter, List.mem_range, beq_iff_eq, and_iff_right_iff_imp]
  intro ranked
  obtain ⟨f, found, -⟩ := sound.query_eq query i ranked
  exact (List.getElem?_eq_some_iff.1 found).1

/-- The tables of a phase are the names that its queries write to. -/
theorem mem_tables_phaseAt {g : Graph} (sound : g.rank.Sound g) {name : String} {i : Nat} :
    name ∈ (g.phaseAt g.rank i).tables ↔
      ∃ query, g.rank.query? query = some i ∧ g.WritesTo query name := by
  simp only [← mem_queries_phaseAt sound]
  exact mem_written

namespace Renaming

variable {g h : Graph} {σ : Equiv.Perm Nat}

theorem leads_eq (renamed : g.Renaming h σ) : h.Leads = g.Leads := by
  funext a b
  refine propext (and_congr_right fun _ => ?_)
  simp only [renamed.reads, renamed.writes]
  exact σ.exists_congr_right (q := fun query => g.ReadsFrom query a ∧ g.WritesTo query b)

section Phases

variable (renamed : g.Renaming h σ) (valid : g.Valid) (valid' : h.Valid)

include renamed valid valid'

/-- **A renaming has the same cycles**, as lists of names in the same order. -/
theorem cycles_eq : h.cycles = g.cycles := by
  refine valid'.pairwise_cycles.eq_of_mem_iff valid.pairwise_cycles fun c => ?_
  simp only [valid.mem_cycles_iff, valid'.mem_cycles_iff, valid.isCycle_iff, valid'.isCycle_iff,
    JoinedNames, renamed.leads_eq]

theorem awaits_iff {query writer : Nat} :
    h.Awaits query writer ↔ g.Awaits (σ query) (σ writer) := by
  simp only [valid.awaits_iff, valid'.awaits_iff, renamed.reads, renamed.writes]

section Free

variable (free : g.dependencies.blocked = []) (free' : h.dependencies.blocked = [])

include free free'

/-- A renamed query has a phase if the query itself has one. -/
theorem exists_query?_iff {query : Nat} :
    (∃ i, h.rank.query? query = some i) ↔ ∃ i, g.rank.query? (σ query) = some i := by
  rw [← Option.ne_none_iff_exists', ← Option.ne_none_iff_exists', (sound_rank valid free).2,
    (sound_rank valid' free').2, valid.exists_writes_iff, valid'.exists_writes_iff]
  simp only [renamed.writes]

/-- A renamed query has the phase of the query itself. The induction is on the phase: whatever the
renamed query awaits is the renaming of something that the query awaits, and has a lesser phase. -/
theorem query?_eq_some {query i : Nat} (ranked : h.rank.query? query = some i) :
    g.rank.query? (σ query) = some i := by
  have sound := (sound_rank valid free).1
  have sound' := (sound_rank valid' free').1
  have placed (q : Nat) := @exists_query?_iff _ _ _ renamed valid valid' free free' q
  have awaits {q w : Nat} := @awaits_iff _ _ _ renamed valid valid' q w
  induction i using Nat.strongRecOn generalizing query with
  | ind i ih =>
      obtain ⟨j, ranked'⟩ := (placed query).1 ⟨i, ranked⟩
      rw [ranked']
      by_cases waits : ∃ w, h.Awaits query w
      · -- what the query waits for has smaller phases, which the renaming keeps
        obtain ⟨m, ⟨⟨w, before, last⟩, above⟩, next⟩ := sound'.exists_isGreatest ranked waits
        obtain ⟨m', ⟨⟨w', before', last'⟩, above'⟩, next'⟩ :=
          sound.exists_isGreatest ranked' ⟨σ w, awaits.1 before⟩
        have low : m ≤ m' := above' ⟨σ w, awaits.1 before, ih m (by omega) last⟩
        obtain ⟨q, rfl⟩ := σ.surjective w'
        have before' := awaits.2 before'
        obtain ⟨k, hk⟩ := (placed q).2 ⟨m', last'⟩
        have small : k ≤ m := above ⟨q, before', hk⟩
        have same := ih k (by omega) hk
        rw [last'] at same
        injection same with same
        congr 1
        omega
      · have zero := sound'.query_eq_zero ranked fun w before => waits ⟨w, before⟩
        have zero' : j = 0 := by
          refine sound.query_eq_zero ranked' fun w before => waits ?_
          obtain ⟨q, rfl⟩ := σ.surjective w
          exact ⟨q, awaits.2 before⟩
        rw [zero, zero']

/-- **A renamed query has the same phase**: the phases of a graph are determined by who waits for
whom. -/
theorem query?_eq_some_iff {query i : Nat} :
    h.rank.query? query = some i ↔ g.rank.query? (σ query) = some i := by
  constructor
  · exact renamed.query?_eq_some valid valid' free free'
  · intro ranked
    have back := renamed.symm.query?_eq_some valid' valid free' free ranked
    rwa [Equiv.symm_apply_apply] at back

/-- A renaming has as many phases. -/
theorem phaseCount_eq : phaseCount h.rank = phaseCount g.rank := by
  have same (i : Nat) : i < phaseCount h.rank ↔ i < phaseCount g.rank := by
    constructor
    · intro bound
      obtain ⟨q, ranked⟩ := exists_query (sound_rank valid' free').1 bound
      exact lt_phaseCount ((renamed.query?_eq_some_iff valid valid' free free').1 ranked)
    · intro bound
      obtain ⟨q, ranked⟩ := exists_query (sound_rank valid free).1 bound
      obtain ⟨q, rfl⟩ := σ.surjective q
      exact lt_phaseCount ((renamed.query?_eq_some_iff valid valid' free free').2 ranked)
  have := same (phaseCount h.rank)
  have := same (phaseCount g.rank)
  omega

/-- **A renaming has the same tables in every phase**, those that the queries of the phase write. -/
theorem tables_phaseAt_eq (i : Nat) :
    (h.phaseAt h.rank i).tables = (g.phaseAt g.rank i).tables := by
  refine NameSet.ext fun name => ?_
  rw [mem_tables_phaseAt (sound_rank valid free).1, mem_tables_phaseAt (sound_rank valid' free').1]
  simp only [renamed.query?_eq_some_iff valid valid' free free', renamed.writes]
  exact σ.exists_congr_right (q := fun q => g.rank.query? q = some i ∧ g.WritesTo q name)

end Free

/-- **A renaming has the same cycles, or the same phases.** The graph has cycles exactly if nodes
are blocked, and the names of the cycles are the same on both sides. -/
theorem phases_eq :
    (∃ cycles, g.phases = .error (.cyclic cycles) ∧ h.phases = .error (.cyclic cycles))
      ∨ ∃ ps ps', g.phases = .ok ps ∧ h.phases = .ok ps'
        ∧ ps'.map Phase.tables = ps.map Phase.tables
        ∧ ∀ query i, InPhase ps' query i ↔ InPhase ps (σ query) i := by
  have same := renamed.cycles_eq valid valid'
  by_cases free : g.dependencies.blocked = []
  · have free' : h.dependencies.blocked = [] := by
      by_contra blocked
      have cyclic := valid'.blocked_ne_nil_iff_cycles.1 blocked
      exact valid.blocked_ne_nil_iff_cycles.2 (same ▸ cyclic) free
    refine .inr ⟨_, _, phases_eq_ok_iff.2 ⟨free, rfl⟩, phases_eq_ok_iff.2 ⟨free', rfl⟩, ?_, ?_⟩
    · simp only [List.map_map, renamed.phaseCount_eq valid valid' free free']
      exact List.map_congr_left fun i _ => renamed.tables_phaseAt_eq valid valid' free free' i
    · intro query i
      rw [inPhase_iff rfl (sound_rank valid free).1, inPhase_iff rfl (sound_rank valid' free').1]
      exact renamed.query?_eq_some_iff valid valid' free free'
  · have blocked' : h.dependencies.blocked ≠ [] :=
      valid'.blocked_ne_nil_iff_cycles.2 (same ▸ valid.blocked_ne_nil_iff_cycles.1 free)
    exact .inl ⟨g.cycles, phases_eq_error_iff.2 ⟨free, rfl⟩,
      phases_eq_error_iff.2 ⟨blocked', by rw [same]⟩⟩

end Phases

end Renaming

/-! ### Queries in another order -/

/-- A list in another order: at each position stands what stood where the permutation says. -/
def rearranged {α : Type} (xs : List α) (σ : Equiv.Perm (Fin xs.length)) : List α :=
  List.ofFn fun i => xs[σ i]

/-- A permutation of positions as one of all numbers. -/
theorem extendDomain_val {n : Nat} (σ : Equiv.Perm (Fin n)) (i : Fin n) :
    σ.extendDomain Fin.equivSubtype (i : Nat) = σ i :=
  σ.extendDomain_apply_image Fin.equivSubtype i

theorem getElem?_rearranged {α : Type} {xs : List α} {σ : Equiv.Perm (Fin xs.length)} (i : Nat) :
    (rearranged xs σ)[i]? = xs[σ.extendDomain Fin.equivSubtype i]? := by
  rcases Nat.lt_or_ge i xs.length with bound | outside
  · have moved := extendDomain_val σ ⟨i, bound⟩
    simp only at moved
    simp [rearranged, bound, moved]
  · have kept := σ.extendDomain_apply_not_subtype Fin.equivSubtype (Nat.not_lt.2 outside)
    simp [rearranged, kept, outside]

/-- The graph of queries in another order is a renaming. -/
theorem renaming_rearranged (cs : List Classification) (σ : Equiv.Perm (Fin cs.length)) :
    (ofQueries cs).Renaming (ofQueries (rearranged cs σ)) (σ.extendDomain Fin.equivSubtype) where
  reads query name := by simp only [readsFrom_ofQueries, getElem?_rearranged]
  writes query name := by simp only [writesTo_ofQueries, getElem?_rearranged]

/-- **Queries in another order have the same cycles, or the same phases**, whatever the order is: as
many phases, with the same tables, and every query in the same one. -/
theorem phases_rearranged (cs : List Classification) (σ : Equiv.Perm (Fin cs.length)) :
    (∃ cycles, (ofQueries cs).phases = .error (.cyclic cycles)
        ∧ (ofQueries (rearranged cs σ)).phases = .error (.cyclic cycles))
      ∨ ∃ ps ps', (ofQueries cs).phases = .ok ps ∧ (ofQueries (rearranged cs σ)).phases = .ok ps'
        ∧ ps'.length = ps.length ∧ ps'.map Phase.tables = ps.map Phase.tables
        ∧ ∀ (query : Fin cs.length) (i : Nat), InPhase ps' query i ↔ InPhase ps (σ query) i := by
  refine ((renaming_rearranged cs σ).phases_eq (grown_ofQueries _).valid
    (grown_ofQueries _).valid).imp id ?_
  rintro ⟨ps, ps', phases, phases', tables, same⟩
  have length : ps'.length = ps.length := by simpa using congrArg List.length tables
  refine ⟨ps, ps', phases, phases', length, tables, fun query i => ?_⟩
  rw [same, extendDomain_val]

end QueryFlow.Flow.Graph
