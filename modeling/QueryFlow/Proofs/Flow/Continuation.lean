import QueryFlow.Proofs.Flow.Consistency
import QueryFlow.Proofs.Flow.Cycle
import QueryFlow.Proofs.Flow.Schedule
import QueryFlow.Proofs.Lists

/-!
# Batches that go on

Further queries come in behind those that a flow graph was made of. The graph then *continues*: its
nodes and what it knows of its queries stay where they are, and there are more of both. Whatever a
query reads, writes or awaits in the shorter graph it does in the longer one too, and it writes
nothing else there. So a node that is on a cycle stays on it, and a query that waits for another one
goes on waiting for it.

A cycle may grow, and two of them may become one. A query may have to wait for what has come in, and
its phase rises then; it never falls.

## How the argument goes

For the cycles it is enough that the relation `Feeds` of the shorter graph is contained in that of
the longer one: what is joined stays joined, and a cycle of the longer graph has all nodes that are
joined to one of its nodes, so it contains the cycle of the shorter graph whose nodes these are
(`Continues.exists_cycle`).

For the phases the two descriptions are compared by strong induction on the phase in the shorter
graph. If it is not zero, the query awaits one with the phase right before; it awaits that one in
the longer graph too, where the awaited query has no lesser phase by induction, and stands behind it
(`Continues.query?_le`). A batch has phases if a longer one has, because a blocked node of the
shorter graph leaves one in the longer graph.

## Main results

* `continues_append`: the graph of some queries continues when more of them follow.
* `Continues.exists_cycle`: a cycle is part of a cycle of the longer graph.
* `Continues.query?_le`: a phase is at most the one in the longer graph.
* `phases_append`: a batch with cycles keeps them, and a batch has phases if a longer one does.
-/

open Relation

namespace QueryFlow.Flow

/-- The first queries of a batch stand in phases of it, and none of them before the phase that it
has without the rest of the batch. -/
structure Delays (count : Nat) (ps ps' : List Phase) : Prop where
  /-- The same queries stand in a phase. -/
  exists_iff : ∀ q < count, (∃ i, InPhase ps q i) ↔ ∃ j, InPhase ps' q j
  /-- None of them stands in a lesser one. -/
  le : ∀ q < count, ∀ i j, InPhase ps q i → InPhase ps' q j → i ≤ j

namespace Graph

/-- A graph has the nodes and the queries of another one, at their places. The edges are not
mentioned: on valid graphs they follow from the queries. -/
structure Continues (g h : Graph) : Prop where
  nodes : g.nodes <+: h.nodes
  queries : g.queries <+: h.queries

/-- **The graph of some queries continues when more of them follow.** -/
theorem continues_append (cs more : List Classification) :
    (ofQueries cs).Continues (ofQueries (cs ++ more)) := by
  induction more using List.reverseRecOn with
  | nil =>
      rw [List.append_nil]
      exact ⟨List.prefix_refl _, List.prefix_refl _⟩
  | append_singleton more c ih =>
      obtain ⟨nodes, -, queries⟩ := prefix_add (ofQueries (cs ++ more)) (.query c)
      rw [← List.append_assoc, ofQueries_concat]
      exact ⟨ih.nodes.trans nodes, ih.queries.trans queries⟩

namespace Continues

variable {g h : Graph} {q w s t v : Nat}

/-! ### What stays -/

section Kept

variable (more : g.Continues h)

include more

/-- A node keeps its name. -/
theorem nodeName? {name : String} (named : g.nodeName? v = some name) :
    h.nodeName? v = some name :=
  getElem?_of_prefix more.nodes named

/-- A query keeps its nodes. -/
theorem footprint? {f : Footprint} (found : g.footprint? q = some f) : h.footprint? q = some f :=
  getElem?_of_prefix more.queries found

/-- What a query reads it goes on reading. -/
theorem reads (reads : g.Reads q v) : h.Reads q v := by
  obtain ⟨f, found, member⟩ := reads
  exact ⟨f, more.footprint? found, member⟩

/-- What a query writes it goes on writing. -/
theorem writes (writes : g.Writes q v) : h.Writes q v := by
  obtain ⟨f, found, member⟩ := writes
  exact ⟨f, more.footprint? found, member⟩

/-- **A query of the shorter graph writes nothing else in the longer one**, as its footprint is
fixed when it is added. -/
theorem writes_iff (known : q < g.queries.length) : h.Writes q v ↔ g.Writes q v := by
  have found : g.footprint? q = some g.queries[q] := List.getElem?_eq_getElem known
  rw [Graph.writes_iff found, Graph.writes_iff (more.footprint? found)]

/-- A query that awaits another one goes on awaiting it. -/
theorem awaits (awaits : g.Awaits q w) : h.Awaits q w := by
  obtain ⟨n, reads, own, writes⟩ := awaits
  have known : q < g.queries.length := by
    obtain ⟨f, found, -⟩ := reads
    exact (List.getElem?_eq_some_iff.1 found).1
  exact ⟨n, more.reads reads, fun writes => own ((more.writes_iff known).1 writes),
    more.writes writes⟩

variable (valid : g.Valid) (valid' : h.Valid)

include valid valid'

/-- A node that feeds another one goes on feeding it. -/
theorem feeds_le : g.Feeds ≤ h.Feeds := by
  intro s t feeds
  obtain ⟨different, query, reads, writes⟩ := valid.feeds_iff.1 feeds
  exact valid'.feeds_iff.2 ⟨different, query, more.reads reads, more.writes writes⟩

/-- Joined nodes stay joined. -/
theorem joined (joined : g.Joined s t) : h.Joined s t :=
  have reaches := ReflTransGen.mono (more.feeds_le valid valid')
  joined.imp (reaches s t) (reaches t s)

/-- A node on a cycle stays on one. -/
theorem onCycle (onCycle : g.dependencies.OnCycle v) : h.dependencies.OnCycle v := by
  rw [valid.onCycle_iff] at onCycle
  rw [valid'.onCycle_iff]
  exact TransGen.mono (more.feeds_le valid valid') v v onCycle

/-! ### Cycles -/

/-- **A cycle is part of a cycle of the longer graph.** Nodes that were joined still are; others may
have come to be joined to them. -/
theorem exists_cycle {c : List String} (listed : c ∈ g.cycles) : ∃ c' ∈ h.cycles, c ⊆ c' := by
  obtain ⟨v, onCycle, mem⟩ := (valid.mem_cycles_iff.1 listed).exists_onCycle valid
  obtain ⟨nodes, listed', mem'⟩ :=
    Digraph.exists_cycle_of_onCycle (more.onCycle valid valid' onCycle)
  refine ⟨h.names nodes, mem_cycles.2 ⟨nodes, listed', rfl⟩, fun name member => ?_⟩
  obtain ⟨u, joined, named⟩ := (mem name).1 member
  have joined' : h.dependencies.Joined u v :=
    valid'.joined_iff.2 (more.joined valid valid' (valid.joined_iff.1 joined))
  exact mem_names.2 ⟨u, (mem' u).2 joined', more.nodeName? named⟩

/-- A graph with a blocked node has one when it continues. -/
theorem blocked_ne_nil (blocked : g.dependencies.blocked ≠ []) : h.dependencies.blocked ≠ [] := by
  obtain ⟨v, onCycle⟩ := valid.blocked_ne_nil_iff.1 blocked
  exact List.ne_nil_of_mem (more.onCycle valid valid' (valid.onCycle_iff.2 onCycle)).mem_blocked

end Kept

/-! ### Phases -/

/-- **A phase is at most the one in the longer graph.** The query that is awaited longest has its
phase right before, and in the longer graph it is awaited as well. -/
theorem query?_le (more : g.Continues h) (sound : g.rank.Sound g) (sound' : h.rank.Sound h)
    {i j : Nat} (ranked : g.rank.query? q = some i) (ranked' : h.rank.query? q = some j) :
    i ≤ j := by
  induction i using Nat.strongRecOn generalizing q j with
  | ind i ih =>
      by_cases bound : ∃ w, g.Awaits q w
      · obtain ⟨m, ⟨⟨w, awaits, rank⟩, -⟩, rfl⟩ := sound.exists_isGreatest ranked bound
        have awaits' := more.awaits awaits
        obtain ⟨m', ⟨-, greatest⟩, rfl⟩ := sound'.exists_isGreatest ranked' ⟨w, awaits'⟩
        obtain ⟨k, rank'⟩ := Option.ne_none_iff_exists'.1 (sound'.awaited q _ ranked' w awaits')
        have sooner : m ≤ k := ih m (Nat.lt_succ_self m) rank rank'
        have later : k ≤ m' := greatest ⟨w, awaits', rank'⟩
        exact Nat.succ_le_succ (sooner.trans later)
      · have zero := sound.query_eq_zero ranked fun w awaits => bound ⟨w, awaits⟩
        exact zero ▸ Nat.zero_le j

/-- **Phases are delayed when a graph continues**: the same queries stand in some phase, and none of
them in an earlier one. -/
theorem delays (more : g.Continues h) (valid : g.Valid) (valid' : h.Valid) {ps ps' : List Phase}
    (phases : g.phases = .ok ps) (phases' : h.phases = .ok ps') :
    Delays g.queries.length ps ps' := by
  obtain ⟨free, laid⟩ := phases_eq_ok_iff.1 phases
  obtain ⟨free', laid'⟩ := phases_eq_ok_iff.1 phases'
  obtain ⟨sound, ranked_iff⟩ := sound_rank valid free
  obtain ⟨sound', ranked_iff'⟩ := sound_rank valid' free'
  constructor
  case exists_iff =>
    intro q known
    simp only [inPhase_iff laid sound, inPhase_iff laid' sound', ← Option.ne_none_iff_exists',
      ranked_iff, ranked_iff', more.writes_iff known]
  case le =>
    intro q _ i j here there
    exact more.query?_le sound sound' ((inPhase_iff laid sound).1 here)
      ((inPhase_iff laid' sound').1 there)

end Continues

/-- **A batch with cycles keeps them when it goes on**, each as part of one of the longer batch. If
the longer batch has phases, the shorter one has phases too, and a query has no later one there. -/
theorem phases_append (cs more : List Classification) :
    (∀ cycles, (ofQueries cs).phases = .error (.cyclic cycles) →
      ∃ cycles', (ofQueries (cs ++ more)).phases = .error (.cyclic cycles')
        ∧ ∀ c ∈ cycles, ∃ c' ∈ cycles', c ⊆ c')
    ∧ ∀ ps', (ofQueries (cs ++ more)).phases = .ok ps' →
      ∃ ps, (ofQueries cs).phases = .ok ps ∧ Delays cs.length ps ps' := by
  have goesOn := continues_append cs more
  have valid := (grown_ofQueries cs).valid
  have valid' := (grown_ofQueries (cs ++ more)).valid
  constructor
  · intro cycles phases
    obtain ⟨blocked, same⟩ := phases_eq_error_iff.1 phases
    injection same with same
    subst same
    exact ⟨_, phases_eq_error_iff.2 ⟨goesOn.blocked_ne_nil valid valid' blocked, rfl⟩,
      fun c => goesOn.exists_cycle valid valid'⟩
  · intro ps' phases'
    have free : (ofQueries cs).dependencies.blocked = [] := by
      by_contra blocked
      exact goesOn.blocked_ne_nil valid valid' blocked (phases_eq_ok_iff.1 phases').1
    have phases := phases_eq_ok_iff.2 ⟨free, rfl⟩
    refine ⟨_, phases, ?_⟩
    rw [← length_queries_ofQueries cs]
    exact goesOn.delays valid valid' phases phases'

/-- A cycle goes on when more tables join it, and a query waits when what it reads is written after
all. -/
theorem phases_append_of_rewritten :
    (∃ cycles cycles', (ofQueries [⟨[.insert ⟨"b", .singleton "a"⟩]⟩,
          ⟨[.insert ⟨"a", .singleton "b"⟩]⟩]).phases = .error (.cyclic cycles)
        ∧ (ofQueries [⟨[.insert ⟨"b", .singleton "a"⟩]⟩, ⟨[.insert ⟨"a", .singleton "b"⟩]⟩,
          ⟨[.insert ⟨"c", .ofList ["b", "c"]⟩]⟩,
          ⟨[.insert ⟨"b", .singleton "c"⟩]⟩]).phases = .error (.cyclic cycles')
        ∧ ∃ c ∈ cycles, "a" ∈ c ∧ "b" ∈ c ∧ ∃ c' ∈ cycles', c ⊆ c')
      ∧ ∃ ps ps', (ofQueries [⟨[.insert ⟨"c", .singleton "b"⟩]⟩]).phases = .ok ps
        ∧ (ofQueries [⟨[.insert ⟨"c", .singleton "b"⟩]⟩,
          ⟨[.insert ⟨"b", .singleton "a"⟩]⟩]).phases = .ok ps'
        ∧ ps.map Phase.queries = [[0]] ∧ ps'.map Phase.queries = [[1], [0]] ∧ Delays 1 ps ps' := by
  constructor
  · obtain ⟨cycles, phases, c, listed, ha, hb⟩ : ∃ cycles,
        (ofQueries [⟨[.insert ⟨"b", .singleton "a"⟩]⟩,
          ⟨[.insert ⟨"a", .singleton "b"⟩]⟩]).phases = .error (.cyclic cycles)
        ∧ ∃ c ∈ cycles, "a" ∈ c ∧ "b" ∈ c :=
      ⟨_, phases_eq_error_iff.2 ⟨by decide +kernel, rfl⟩, _,
        mem_cycles.2 ⟨[0, 1], by decide +kernel, rfl⟩,
        mem_names.2 ⟨0, by simp, by rfl⟩, mem_names.2 ⟨1, by simp, by rfl⟩⟩
    obtain ⟨cycles', phases', part⟩ := (phases_append _ [⟨[.insert ⟨"c", .ofList ["b", "c"]⟩]⟩,
      ⟨[.insert ⟨"b", .singleton "c"⟩]⟩]).1 cycles phases
    exact ⟨cycles, cycles', phases, phases', c, listed, ha, hb, part c listed⟩
  · have phases' : (ofQueries ([⟨[.insert ⟨"c", .singleton "b"⟩]⟩]
        ++ [⟨[.insert ⟨"b", .singleton "a"⟩]⟩])).phases
          = .ok [⟨0, [1], .singleton "b"⟩, ⟨1, [0], .singleton "c"⟩] := by decide +kernel
    obtain ⟨ps, phases, delays⟩ := (phases_append _ _).2 _ phases'
    have alone : (ofQueries [⟨[.insert ⟨"c", .singleton "b"⟩]⟩]).phases
        = .ok [⟨0, [0], .singleton "c"⟩] := by decide +kernel
    obtain rfl := Except.ok.inj (phases.symm.trans alone)
    exact ⟨_, _, alone, phases', rfl, rfl, delays⟩

end Graph

end QueryFlow.Flow
