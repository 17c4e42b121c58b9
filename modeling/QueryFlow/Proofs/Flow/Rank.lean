import Mathlib.Order.Bounds.Basic
import QueryFlow.Proofs.Flow.Growth
import QueryFlow.Proofs.Flow.Order
import QueryFlow.Proofs.Lists

/-!
# The phases of queries

A query *awaits* the queries that write what it reads and does not write itself. Phases are given
while the nodes are taken in order, and a query gets its phase with the first of its targets. In the
end the phase of a query is zero if it awaits none, and one more than the greatest phase of those
that it awaits otherwise. That is a description by what the queries do, without the tables of the
algorithm and without the order in which the nodes were taken.

## The invariant

Phases are `Sound` while they are given if

* a node has the greatest phase of those of its writers that have one, or none if none has
  (`table_some`, `table_none`),
* a query that has a phase has the one that its sources would give it at this moment (`query_eq`),
* whatever a query with a phase awaits has its phase (`awaited`).

The second field is the strong one. It speaks of the present moment and not of the one in which the
query got its phase, although the numbers of its sources may have been smaller or greater then.

## How a step keeps it

Giving a query its phase changes the numbers of the nodes that it writes. This might spoil the
second field for a query that reads one of them. But a query with a phase has, by the third field,
all queries that it awaits among those with a phase, and the present one had none: nobody with a
phase reads what it writes, unless that reader writes the node itself, in which case the node does
not count for its phase (`unwritten_of_unplaced`). The numbers of all other nodes stay as they are.

For the third field every query must get its phase behind those that it awaits. When the nodes are
taken in an order in which each comes behind its predecessors, this is so. Let a query write the
present node and await another query, through a node that it reads and does not write. An edge leads
from that node to the present one, so it was taken before, and all of its writers got their phases
with it at the latest.

## From the invariant to the phases

When no node is blocked, every node is taken, so every query that writes something has a phase. The
field `query_eq` with `table_some` then gives the description above: the greatest of the numbers of
the sources is the greatest of the phases of their writers.

## Main results

* `Ranks.Sound.place`: what giving one query its phase keeps.
* `sound_rankAlong`: phases along an order are sound, and the writers of its nodes have them.
* `Ranks.Sound.query_eq_zero` and `Ranks.Sound.exists_isGreatest`: which phase a query has.
-/

namespace QueryFlow.Flow

/-! ### Giving phases -/

namespace Ranks

variable {r : Ranks} {f : Footprint} {phase node n : Nat}

@[simp] theorem queries_write (phase : Nat) (r : Ranks) (node : Nat) :
    (write phase r node).queries = r.queries := rfl

@[simp] theorem length_tables_write (phase : Nat) (r : Ranks) (node : Nat) :
    (write phase r node).tables.length = r.tables.length := by
  simp [write]

theorem table?_write (bound : node < r.tables.length) :
    (write phase r node).table? n =
      if n = node then some (max phase ((r.table? node).getD 0)) else r.table? n := by
  unfold write
  rcases eq_or_ne n node with rfl | different
  · simp [table?, bound]
  · simp [table?, different, List.getElem?_set_ne (Ne.symm different)]

/-- The parts that writing some nodes leaves as they are. -/
theorem foldl_write_kept (phase : Nat) (targets : List Nat) (r : Ranks) :
    (targets.foldl (write phase) r).queries = r.queries
      ∧ (targets.foldl (write phase) r).tables.length = r.tables.length := by
  induction targets generalizing r with
  | nil => exact ⟨rfl, rfl⟩
  | cons target targets ih => simpa using ih (write phase r target)

/-- A node that is written has the phase or a greater one that it had before. -/
theorem table?_foldl_write {targets : List Nat} (bound : ∀ t ∈ targets, t < r.tables.length) :
    (targets.foldl (write phase) r).table? n =
      if n ∈ targets then some (max phase ((r.table? n).getD 0)) else r.table? n := by
  induction targets generalizing r with
  | nil => simp
  | cons target targets ih =>
      have here : (write phase r target).table? n =
          if n = target then some (max phase ((r.table? target).getD 0)) else r.table? n :=
        table?_write (bound target (by simp))
      rw [List.foldl_cons, ih (by simpa using fun t ht => bound t (by simp [ht])), here]
      grind

/-- **What a query without a phase gets**: the phase above everything that it reads. The tables that
it writes rise to that phase at least, and nothing else changes. -/
theorem place_of_none {query : Nat} (unplaced : r.query? query = none)
    (bound : query < r.queries.length) (boundTargets : ∀ t ∈ f.targets, t < r.tables.length) :
    (r.place query f).tables.length = r.tables.length
      ∧ (r.place query f).queries.length = r.queries.length
      ∧ (∀ q, (r.place query f).query? q = if q = query then some (r.above f) else r.query? q)
      ∧ ∀ n, (r.place query f).table? n =
          if n ∈ f.targets then some (max (r.above f) ((r.table? n).getD 0)) else r.table? n := by
  have kept := foldl_write_kept (r.above f) f.targets
    { r with queries := r.queries.set query (some (r.above f)) }
  simp only [place, unplaced]
  refine ⟨kept.2, by simp [kept.1], fun q => ?_, fun n => ?_⟩
  · rcases eq_or_ne q query with rfl | different
    · simp [query?, kept.1, bound]
    · simp [query?, kept.1, different, List.getElem?_set_ne (Ne.symm different)]
  · exact table?_foldl_write (r := { r with queries := r.queries.set query (some (r.above f)) })
      boundTargets

/-- The first phase that the sources of a query leave is above those in which they are written. -/
theorem lt_above {k : Nat} (member : n ∈ f.outerSources) (written : r.table? n = some k) :
    k < r.above f := by
  have each := (foldl_max (fun n => (r.table? n).elim 0 (· + 1)) f.outerSources 0).2.2 n member
  rw [written] at each
  exact each

/-- The first phase that the sources of a query leave is zero or the next one after a phase in which
one of them is written. -/
theorem above_cases (r : Ranks) (f : Footprint) :
    r.above f = 0 ∨ ∃ n ∈ f.outerSources, ∃ k, r.table? n = some k ∧ r.above f = k + 1 := by
  rcases (foldl_max (fun n => (r.table? n).elim 0 (· + 1)) f.outerSources 0).1 with h | ⟨n, hn, h⟩
  · exact .inl h
  · cases written : r.table? n with
    | none =>
        rw [written] at h
        exact .inl h
    | some k =>
        rw [written] at h
        exact .inr ⟨n, hn, k, written, h⟩

/-- Only the sources of a query matter for its phase. -/
theorem above_congr {r' : Ranks} (same : ∀ n ∈ f.outerSources, r.table? n = r'.table? n) :
    r.above f = r'.above f := by
  unfold above
  refine List.foldl_ext _ _ _ fun phase n hn => ?_
  rw [same n hn]

end Ranks

/-- A query waits for another one that writes what it reads and does not write itself. It never
waits for itself, and what it writes itself makes it wait for nobody. -/
def Graph.Awaits (g : Graph) (query writer : Nat) : Prop :=
  ∃ n, g.Reads query n ∧ ¬ g.Writes query n ∧ g.Writes writer n

/-- What a query reads and does not write are its outer sources. -/
theorem Graph.mem_outerSources_iff {g : Graph} {query n : Nat} {f : Footprint}
    (found : g.footprint? query = some f) :
    n ∈ f.outerSources ↔ g.Reads query n ∧ ¬ g.Writes query n := by
  simp [Footprint.outerSources, reads_iff found, writes_iff found]

namespace Ranks

/-! ### Soundness -/

/-- What is promised of phases, when none is known and after every query that gets its own. -/
structure Sound (g : Graph) (r : Ranks) : Prop where
  /-- There is a place for every node. -/
  length_tables : r.tables.length = g.nodes.length
  /-- There is a place for every query. -/
  length_queries : r.queries.length = g.queries.length
  /-- A node without a phase has no writer with one. -/
  table_none : ∀ n, r.table? n = none → ∀ w, g.Writes w n → r.query? w = none
  /-- The phase of a node is the greatest one of its writers. -/
  table_some : ∀ n k, r.table? n = some k →
    IsGreatest {j | ∃ w, g.Writes w n ∧ r.query? w = some j} k
  /-- The phase of a query is the one that its sources leave now, and not only when it got it. -/
  query_eq : ∀ q k, r.query? q = some k → ∃ f, g.footprint? q = some f ∧ k = r.above f
  /-- What a query with a phase awaits has its phase. So the number of a node that it reads cannot
  change any more, unless it writes the node itself. -/
  awaited : ∀ q k, r.query? q = some k → ∀ w, g.Awaits q w → r.query? w ≠ none

/-- Phases are sound when no query has one. -/
theorem sound_none (g : Graph) :
    Sound g ⟨List.replicate g.nodes.length none, List.replicate g.queries.length none⟩ := by
  have table (n : Nat) : table? ⟨List.replicate g.nodes.length none,
      List.replicate g.queries.length none⟩ n = none := by
    simp only [table?, List.getElem?_replicate]
    split <;> rfl
  have query (q : Nat) : query? ⟨List.replicate g.nodes.length none,
      List.replicate g.queries.length none⟩ q = none := by
    simp only [query?, List.getElem?_replicate]
    split <;> rfl
  exact ⟨by simp, by simp, by simp [query], by simp [table], by simp [query], by simp [query]⟩

namespace Sound

variable {g : Graph} {r : Ranks} {query : Nat}

/-- The greatest phase in which a node is written, when one more of its writers gets a phase. -/
theorem isGreatest_of_place (sound : r.Sound g) {r' : Ranks} {phase n : Nat}
    (writes : g.Writes query n) (unplaced : r.query? query = none)
    (query? : ∀ q, r'.query? q = if q = query then some phase else r.query? q) :
    IsGreatest {j | ∃ w, g.Writes w n ∧ r'.query? w = some j}
      (max phase ((r.table? n).getD 0)) := by
  constructor
  · cases before : r.table? n with
    | none => exact ⟨query, writes, by simp [query?]⟩
    | some k =>
        rcases Nat.le_total k phase with h | h
        · exact ⟨query, writes, by simpa [query?] using h⟩
        · obtain ⟨w, writes', ranked⟩ := (sound.table_some n k before).1
          have different : w ≠ query := by
            rintro rfl
            simp [unplaced] at ranked
          exact ⟨w, writes', by simpa [query?, different, Nat.max_eq_right h] using ranked⟩
  · rintro j ⟨w, writes', ranked⟩
    rw [query?] at ranked
    split at ranked
    · injection ranked with same
      exact same ▸ Nat.le_max_left ..
    · cases before : r.table? n with
      | none => simp [sound.table_none n before w writes'] at ranked
      | some k =>
          have below := (sound.table_some n k before).2 ⟨w, writes', ranked⟩
          exact Nat.le_trans below (Nat.le_max_right ..)

/-- The writers of a node keep their phases when a query that does not write it gets one. -/
theorem writers_of_place {r' : Ranks} {phase n : Nat} (unwritten : ¬ g.Writes query n)
    (query? : ∀ q, r'.query? q = if q = query then some phase else r.query? q) {w : Nat}
    (writes : g.Writes w n) : r'.query? w = r.query? w := by
  have different : w ≠ query := by
    rintro rfl
    exact unwritten writes
  rw [query? w, if_neg different]

/-- Nobody with a phase reads what a query without one writes, unless it writes that itself. -/
theorem unwritten_of_unplaced (sound : r.Sound g) (unplaced : r.query? query = none) {q k : Nat}
    {f : Footprint} (found : g.footprint? q = some f) (ranked : r.query? q = some k) :
    ∀ n ∈ f.outerSources, ¬ g.Writes query n := by
  intro n outer writes
  obtain ⟨reads, own⟩ := (Graph.mem_outerSources_iff found).1 outer
  exact sound.awaited q k ranked query ⟨n, reads, own, writes⟩ unplaced

/-- Giving a phase to a query that has none keeps phases sound, if all queries that it awaits have
theirs. The cases of the proof follow the fields; a node that the query writes learns of the new
phase, and a node that it does not write keeps its number. -/
theorem place_unplaced {f : Footprint} (sound : r.Sound g) (valid : g.Valid)
    (found : g.footprint? query = some f) (unplaced : r.query? query = none)
    (ready : ∀ w, g.Awaits query w → r.query? w ≠ none) :
    (r.place query f).Sound g
      ∧ ∀ q, (r.place query f).query? q ≠ none ↔ r.query? q ≠ none ∨ q = query := by
  have bound : query < r.queries.length := by
    rw [sound.length_queries]
    exact (List.getElem?_eq_some_iff.1 found).1
  have boundTargets : ∀ t ∈ f.targets, t < r.tables.length := by
    rw [sound.length_tables]
    exact fun t ht => valid.lt_of_writes ((Graph.writes_iff found).2 ht)
  obtain ⟨tables, queries, query?, table?⟩ := place_of_none unplaced bound boundTargets
  have kept (q : Nat) : (r.place query f).query? q ≠ none ↔ r.query? q ≠ none ∨ q = query := by
    rw [query? q]
    grind
  have above (h : Footprint) (apart : ∀ n ∈ h.outerSources, ¬ g.Writes query n) :
      r.above h = (r.place query f).above h :=
    above_congr fun n hn => by rw [table? n, if_neg (mt (Graph.writes_iff found).2 (apart n hn))]
  refine ⟨?_, kept⟩
  constructor
  case length_tables => exact tables.trans sound.length_tables
  case length_queries => exact queries.trans sound.length_queries
  case table_none =>
    intro n none w writes
    rw [table? n] at none
    split at none
    · nomatch none
    · next unwritten =>
      rw [writers_of_place (mt (Graph.writes_iff found).1 unwritten) query? writes]
      exact sound.table_none n none w writes
  case table_some =>
    intro n k ranked
    rw [table? n] at ranked
    split at ranked
    · next written =>
      injection ranked with same
      exact same ▸ sound.isGreatest_of_place ((Graph.writes_iff found).2 written) unplaced query?
    · next unwritten =>
      have unwritten := mt (Graph.writes_iff found).1 unwritten
      obtain ⟨⟨w, writes, last⟩, above⟩ := sound.table_some n k ranked
      refine ⟨⟨w, writes, by rw [writers_of_place unwritten query? writes, last]⟩, ?_⟩
      rintro j ⟨w, writes, before⟩
      rw [writers_of_place unwritten query? writes] at before
      exact above ⟨w, writes, before⟩
  case query_eq =>
    intro q k ranked
    rw [query? q] at ranked
    split at ranked
    · next same =>
      subst same
      injection ranked with same
      exact ⟨f, found, by
        rw [← same, above f fun n hn => ((Graph.mem_outerSources_iff found).1 hn).2]⟩
    · obtain ⟨h, hq, rfl⟩ := sound.query_eq q k ranked
      exact ⟨h, hq, above h (sound.unwritten_of_unplaced unplaced hq ranked)⟩
  case awaited =>
    intro q k ranked w awaits
    rw [query? q] at ranked
    refine (kept w).2 (.inl ?_)
    split at ranked
    · next same => exact ready w (same ▸ awaits)
    · exact sound.awaited q k ranked w awaits

/-- **Giving a query its phase keeps phases sound**, if all queries that it awaits have theirs. -/
theorem place {f : Footprint} (sound : r.Sound g) (valid : g.Valid)
    (found : g.footprint? query = some f)
    (ready : ∀ w, g.Awaits query w → r.query? w ≠ none) :
    (r.place query f).Sound g
      ∧ ∀ q, (r.place query f).query? q ≠ none ↔ r.query? q ≠ none ∨ q = query := by
  cases placed : r.query? query with
  | none => exact sound.place_unplaced valid found placed ready
  | some k =>
      have same : r.place query f = r := by simp [Ranks.place, placed]
      rw [same]
      refine ⟨sound, fun q => ⟨.inl, ?_⟩⟩
      rintro (h | rfl)
      · exact h
      · simp [placed]

/-- **Giving the writers of a node their phases keeps phases sound**, if all queries that they await
have theirs. -/
theorem rankWriters {node : Nat} (sound : r.Sound g) (valid : g.Valid)
    (ready : ∀ q, g.Writes q node → ∀ w, g.Awaits q w → r.query? w ≠ none) :
    (g.rankWriters g.writers r node).Sound g
      ∧ ∀ q, (g.rankWriters g.writers r node).query? q ≠ none ↔
        r.query? q ≠ none ∨ g.Writes q node := by
  have along (queries : List Nat) (r : Ranks) (sound : r.Sound g)
      (writes : ∀ q ∈ queries, g.Writes q node)
      (ready : ∀ q, g.Writes q node → ∀ w, g.Awaits q w → r.query? w ≠ none) :
      (queries.foldl (fun r q => (g.footprint? q).elim r fun f => r.place q f) r).Sound g
        ∧ ∀ q, (queries.foldl (fun r q => (g.footprint? q).elim r fun f => r.place q f) r).query? q
            ≠ none ↔ r.query? q ≠ none ∨ q ∈ queries := by
    induction queries generalizing r with
    | nil => exact ⟨sound, by simp⟩
    | cons query queries ih =>
        obtain ⟨f, found, -⟩ := writes query (by simp)
        obtain ⟨sound', placed⟩ := sound.place valid found (ready query (writes query (by simp)))
        obtain ⟨sound'', placed'⟩ := ih (r.place query f) sound'
          (fun q hq => writes q (by simp [hq]))
          (fun q hq w awaits => (placed w).2 (.inl (ready q hq w awaits)))
        simp only [List.foldl_cons, found, Option.elim_some]
        refine ⟨sound'', fun q => ?_⟩
        rw [placed' q, placed q, List.mem_cons, or_assoc]
  obtain ⟨sound', placed⟩ := along (g.writers[node]?.getD []) r sound
    (fun q => valid.mem_writers_iff.1) ready
  exact ⟨sound', fun q => by rw [← valid.mem_writers_iff]; exact placed q⟩

/-- **A query that awaits none has phase zero**, so the phases start there. -/
theorem query_eq_zero {q k : Nat} (sound : r.Sound g) (ranked : r.query? q = some k)
    (free : ∀ w, ¬ g.Awaits q w) : k = 0 := by
  obtain ⟨f, found, rfl⟩ := sound.query_eq q k ranked
  rcases above_cases r f with zero | ⟨n, hn, j, written, -⟩
  · exact zero
  · obtain ⟨w, writes, -⟩ := (sound.table_some n j written).1
    obtain ⟨reads, own⟩ := (Graph.mem_outerSources_iff found).1 hn
    exact absurd ⟨n, reads, own, writes⟩ (free w)

/-- **A query that awaits others has the next phase after the greatest of theirs.** -/
theorem exists_isGreatest {q k : Nat} (sound : r.Sound g) (ranked : r.query? q = some k)
    (bound : ∃ w, g.Awaits q w) :
    ∃ m, IsGreatest {j | ∃ w, g.Awaits q w ∧ r.query? w = some j} m ∧ k = m + 1 := by
  obtain ⟨f, found, rfl⟩ := sound.query_eq q k ranked
  -- whatever is awaited has a phase below the one of the query
  have below (w : Nat) (awaits : g.Awaits q w) : ∃ j, r.query? w = some j ∧ j < r.above f := by
    obtain ⟨j, hj⟩ := Option.ne_none_iff_exists'.1 (sound.awaited q _ ranked w awaits)
    obtain ⟨n, reads, own, writes⟩ := awaits
    have hn := (Graph.mem_outerSources_iff found).2 ⟨reads, own⟩
    cases written : r.table? n with
    | none => simp [sound.table_none n written w writes] at hj
    | some m =>
        have le := (sound.table_some n m written).2 ⟨w, writes, hj⟩
        exact ⟨j, hj, Nat.lt_of_le_of_lt le (lt_above hn written)⟩
  rcases above_cases r f with zero | ⟨n, hn, m, written, next⟩
  · obtain ⟨w, awaits⟩ := bound
    obtain ⟨j, -, less⟩ := below w awaits
    omega
  · obtain ⟨reads, own⟩ := (Graph.mem_outerSources_iff found).1 hn
    obtain ⟨w, writes, hw⟩ := (sound.table_some n m written).1
    refine ⟨m, ⟨⟨w, ⟨n, reads, own, writes⟩, hw⟩, ?_⟩, next⟩
    rintro j ⟨v, awaits, hv⟩
    obtain ⟨i, hi, less⟩ := below v awaits
    rw [hv] at hi
    injection hi with same
    omega

end Sound

end Ranks

namespace Graph

/-! ### Phases along an order -/

/-- **Phases along an order are sound**, and the queries that have one write one of its nodes. The
induction is on the placed nodes, the last one first: a founded list is founded without it, and its
predecessors are in the rest. -/
theorem sound_rankAlong {g : Graph} (valid : g.Valid) {placed : List Nat}
    (founded : g.dependencies.Founded placed) :
    (g.rankAlong placed.reverse).Sound g
      ∧ ∀ q, (g.rankAlong placed.reverse).query? q ≠ none ↔ ∃ n ∈ placed, g.Writes q n := by
  induction placed with
  | nil =>
      refine ⟨Ranks.sound_none g, fun q => ?_⟩
      simp only [rankAlong, Ranks.query?, List.reverse_nil, List.foldl_nil, List.getElem?_replicate]
      split <;> simp
  | cons node earlier ih =>
      obtain ⟨sound, placed⟩ := ih founded.2
      have next : g.rankAlong (node :: earlier).reverse =
          g.rankWriters g.writers (g.rankAlong earlier.reverse) node := by
        simp [rankAlong]
      have ready (q : Nat) (writes : g.Writes q node) (w : Nat) (awaits : g.Awaits q w) :
          (g.rankAlong earlier.reverse).query? w ≠ none := by
        obtain ⟨n, reads, own, writes'⟩ := awaits
        -- what the query reads and does not write stands before the node
        have different : n ≠ node := by
          rintro rfl
          exact own writes
        have edge : g.dependencies.Edge n node :=
          valid.edge_dependencies_iff.2 (valid.feeds_iff.2 ⟨different, q, reads, writes⟩)
        exact (placed w).2 ⟨n, founded.1 n edge, writes'⟩
      obtain ⟨sound', placed'⟩ := sound.rankWriters valid ready
      rw [next]
      refine ⟨sound', fun q => ?_⟩
      rw [placed' q, placed q]
      simp [or_comm]

/-- **The phases of a graph without cycles are sound**, and every query that writes something has
one. -/
theorem sound_rank {g : Graph} (valid : g.Valid) (free : g.dependencies.blocked = []) :
    g.rank.Sound g ∧ ∀ q, g.rank.query? q ≠ none ↔ ∃ n, g.Writes q n := by
  obtain ⟨sound, placed⟩ := sound_rankAlong valid (Digraph.sound_final g.dependencies).founded
  refine ⟨sound, fun q => (placed q).trans ⟨fun ⟨n, _, writes⟩ => ⟨n, writes⟩, ?_⟩⟩
  rintro ⟨n, writes⟩
  refine ⟨n, ?_, writes⟩
  by_contra missing
  have blocked : n ∈ g.dependencies.blocked := by
    rw [Digraph.mem_blocked_iff_notMem_order, size_dependencies]
    exact ⟨valid.lt_of_writes writes, by simpa [Digraph.order] using missing⟩
  simp [free] at blocked

end Graph

end QueryFlow.Flow
