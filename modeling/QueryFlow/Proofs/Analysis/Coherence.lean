import Mathlib.Data.Set.Prod
import QueryFlow.Analysis.Analyzer
import QueryFlow.Proofs.Analysis.Batch
import QueryFlow.Proofs.Flow.Renaming
import QueryFlow.Proofs.Intent.Movement
import QueryFlow.Proofs.Timeline.Bounds

/-!
# The parts of an analysis agree

The graph, the phases and the timeline of an analysis all speak of queries by position, and each is
computed on its own from the queries that are kept. They agree: every position that one of them
mentions is that of a kept query, every kept query stands in exactly one phase and, if it can be
placed in time, once on the timeline, and its edges lead from everything that it reads to everything
that it writes.

## How the proof goes

First the analysis is taken apart: `exists_batch_of_analyze` names the batch, and says of every part
by which function it is made from the queries of that batch. From there each part is looked at
alone.

* The edges of a graph by name. A graph numbers its names in the order in which they come up, so
  numbers say little; `ends` gives the names at both ends of the edges of a query. Two queries with
  one name in different cases have one node, hence `lowered`. The edges of a query are then the
  product of what it reads and what it writes: `ends_ofQueries`.
* The phases. A query that writes to some name stands in exactly one phase, and a phase holds no
  other queries than those that the graph was made of.
* The timeline. An interval has the number of an entry that can be placed in time, each of these
  once, and the longest intervals are some of all of them.

That no kept query is missing from the phases rests on what the classifier finds: whatever moves
data has a target. For a reader that copied rows into a query this would fail, so `Sane` is asked of
it.

## Main results

* `exists_batch_of_analyze`: what an analysis is made of.
* `ends_ofQueries`: the edges of a query, by name.
* `coherent_of_analyze`: an analysis is coherent.
-/

namespace QueryFlow

open QueryFlow.Flow QueryFlow.Intent QueryFlow.Text QueryFlow.Timeline

/-! ### Edges by name -/

namespace Flow.Graph

/-- The names at both ends of the edges of a query. A number that no node has would show up as no
name. -/
def ends (g : Graph) (query : Nat) : Set (Option String × Option String) :=
  {names | ∃ e ∈ g.edges, e.query = query ∧ names = (g.nodeName? e.source, g.nodeName? e.target)}

/-- Some names in lower case, as the nodes of a graph have them. -/
def lowered (names : NameSet) : Set (Option String) :=
  {name | ∃ given ∈ names, name = some (lowercase given)}

/-- **The edges of a query lead from all of its sources to all of its targets.** -/
theorem ends_ofQueries {cs : List Classification} {query : Nat} {c : Classification}
    (listed : cs[query]? = some c) :
    (ofQueries cs).ends query = lowered c.sources ×ˢ lowered c.targets := by
  have valid := (grown_ofQueries cs).valid
  have mem_sources (name : String) : (ofQueries cs).ReadsFrom query name
      ↔ ∃ given ∈ c.sources, lowercase given = name := by simp [readsFrom_ofQueries, listed]
  have mem_targets (name : String) : (ofQueries cs).WritesTo query name
      ↔ ∃ given ∈ c.targets, lowercase given = name := by simp [writesTo_ofQueries, listed]
  ext ⟨source, target⟩
  simp only [Set.mem_prod]
  constructor
  · rintro ⟨e, member, rfl, same⟩
    obtain ⟨reads, writes⟩ := valid.mem_edges.1 member
    obtain ⟨a, ha⟩ := exists_nodeName? (valid.lt_of_reads reads)
    obtain ⟨b, hb⟩ := exists_nodeName? (valid.lt_of_writes writes)
    obtain ⟨given, source, rfl⟩ := (mem_sources a).1 ⟨_, reads, ha⟩
    obtain ⟨given', target, rfl⟩ := (mem_targets b).1 ⟨_, writes, hb⟩
    rw [ha, hb] at same
    obtain ⟨rfl, rfl⟩ := Prod.mk.inj same
    exact ⟨⟨given, source, rfl⟩, ⟨given', target, rfl⟩⟩
  · rintro ⟨⟨given, source, rfl⟩, ⟨given', target, rfl⟩⟩
    obtain ⟨s, reads, hs⟩ := (mem_sources _).2 ⟨given, source, rfl⟩
    obtain ⟨t, writes, ht⟩ := (mem_targets _).2 ⟨given', target, rfl⟩
    exact ⟨⟨s, t, query⟩, valid.mem_edges.2 ⟨reads, writes⟩, rfl, by rw [hs, ht]⟩

/-- The edges of a graph are those of its queries. -/
theorem query_lt_of_mem_edges {cs : List Classification} {e : Edge}
    (member : e ∈ (ofQueries cs).edges) : e.query < cs.length := by
  obtain ⟨⟨f, found, -⟩, -⟩ := (grown_ofQueries cs).valid.mem_edges.1 member
  exact lt_of_footprint? found

section Phases

variable {cs : List Classification} {ps : List Phase} (laid : (ofQueries cs).phases = .ok ps)

include laid

/-- A query that writes to some name stands in exactly one phase. -/
theorem existsUnique_inPhase_of_writesTo {query : Nat} {name : String}
    (writes : (ofQueries cs).WritesTo query name) : ∃! i, InPhase ps query i := by
  have valid := (grown_ofQueries cs).valid
  obtain ⟨free, laid⟩ := phases_eq_ok_iff.1 laid
  obtain ⟨sound, ranked⟩ := sound_rank valid free
  have target := valid.exists_writes_iff.2 ⟨name, writes⟩
  exact existsUnique_inPhase laid sound ((ranked query).2 target)

/-- A query that stands in a phase is one of those that the graph was made of. -/
theorem query_lt_of_inPhase {query i : Nat} (here : InPhase ps query i) : query < cs.length := by
  obtain ⟨free, laid⟩ := phases_eq_ok_iff.1 laid
  obtain ⟨sound, -⟩ := sound_rank (grown_ofQueries cs).valid free
  obtain ⟨f, found, -⟩ := sound.query_eq query i ((inPhase_iff laid sound).1 here)
  exact lt_of_footprint? found

end Phases

end Flow.Graph

namespace Analysis

/-- The parts of an analysis agree. -/
structure Coherent (r : Analysis) : Prop where
  /-- The graph records every kept query. -/
  recorded : r.graph.queries.length = r.queries.length
  /-- The edges are those of kept queries. -/
  edge_lt : ∀ e ∈ r.graph.edges, e.query < r.queries.length
  /-- The phases hold kept queries. -/
  phase_lt : ∀ p ∈ r.phases, ∀ query ∈ p.queries, query < r.queries.length
  /-- The timeline is that of kept queries. -/
  interval_lt : ∀ i ∈ r.intervals, i.query < r.queries.length
  /-- The queries that took longest are kept queries. -/
  longest_lt : ∀ i ∈ r.longest, i.query < r.queries.length
  /-- A kept query stands in exactly one phase. -/
  scheduled : ∀ query < r.queries.length, ∃! i, InPhase r.phases query i
  /-- A kept query is on the timeline once if its start and its end are known, and else not. -/
  placed : ∀ (query : Nat) (q : LoggedQuery), r.queries[query]? = some q →
    (r.intervals.map Interval.query).count query
      = if q.entry.start.isSome ∧ q.entry.finish?.isSome then 1 else 0
  /-- The edges of a kept query lead from all of its sources to all of its targets. -/
  ends_eq : ∀ (query : Nat) (q : LoggedQuery), r.queries[query]? = some q →
    r.graph.ends query = Graph.lowered q.classification.sources
      ×ˢ Graph.lowered q.classification.targets

end Analysis

namespace Analyzer

variable {a : Analyzer} {entries : List Log.Entry} {r : Analysis}

/-- **What an analysis is made of**: a batch of the entries, and for every part the function that
makes it from the queries of that batch. -/
theorem exists_batch_of_analyze (h : a.analyze entries = .ok r) :
    ∃ b, a.batch entries = .ok b ∧ r.queries = b.queries
      ∧ r.intervals = intervals (r.queries.map LoggedQuery.entry)
      ∧ r.graph.phases = .ok r.phases
      ∧ r.longest = longest a.settings.longest r.intervals := by
  obtain ⟨b, batch, h⟩ := bind_eq_ok_iff.1 h
  obtain ⟨width, -, h⟩ := bind_eq_ok_iff.1 h
  obtain ⟨sliced, -, h⟩ := bind_eq_ok_iff.1 h
  obtain ⟨phases, laid, h⟩ := bind_eq_ok_iff.1 h
  obtain ⟨slices, -, h⟩ := bind_eq_ok_iff.1 h
  injection h with h
  subst h
  exact ⟨b, batch, rfl, rfl, laid, rfl⟩

/-- An analysis is there if all of its parts are. The converse is above; this direction is used on
given logs. -/
theorem analyze_eq_ok {b : Batch} {width : Time.Span} {phases : List Phase} {slices : List Slice}
    (batch : a.batch entries = .ok b) (wide : sliceWidth a.settings.sliceWidth = .ok width)
    (laid : (Graph.ofQueries (b.queries.map LoggedQuery.classification)).phases = .ok phases)
    (sliced : Timeline.slices (b.queries.map LoggedQuery.entry) width = .ok slices) :
    a.analyze entries = .ok
      { intervals := intervals (b.queries.map LoggedQuery.entry), slices
        graph := .ofQueries (b.queries.map LoggedQuery.classification)
        phases
        queries := b.queries
        counts := b.counts
        longest := longest a.settings.longest (intervals (b.queries.map LoggedQuery.entry)) } := by
  simp [analyze, analyzeBatch, beside, batch, wide, laid, sliced, bind, Except.bind, pure, Except.pure]

/-- **The parts of an analysis agree**, whatever the reader of statements gives, unless it gives
copies of rows into a query. -/
theorem coherent_of_analyze {read : String → Except Fault (List Sql.Statement)} (sane : Sane read)
    {settings : AnalysisSettings} {headerLines : Nat}
    (h : (⟨.withReader read, settings, headerLines⟩ : Analyzer).analyze entries = .ok r) :
    r.Coherent := by
  obtain ⟨b, batch, queries, timeline, phases, longest⟩ := exists_batch_of_analyze h
  have graph := graph_of_analyze h
  set cs := r.queries.map LoggedQuery.classification with made
  have length : cs.length = r.queries.length := List.length_map ..
  have laid : (Graph.ofQueries cs).phases = .ok r.phases := graph ▸ phases
  -- a kept query moves data, so that it has a target and stands in a phase
  have scheduled (query : Nat) (bound : query < r.queries.length) :
      ∃! i, InPhase r.phases query i := by
    have kept : r.queries[query] ∈ b.queries := queries ▸ List.getElem_mem bound
    obtain ⟨classified, moves⟩ := Batch.classified_of_mem_queries batch kept
    obtain ⟨name, target⟩ := exists_target_of_classify sane classified moves
    have writes : (Graph.ofQueries cs).WritesTo query (lowercase name) :=
      Graph.writesTo_ofQueries.2 ⟨_, by simp [made, bound], name, target, rfl⟩
    exact Graph.existsUnique_inPhase_of_writesTo laid writes
  have interval_lt (i : Interval) (member : i ∈ r.intervals) : i.query < r.queries.length := by
    rw [timeline] at member
    obtain ⟨entry, found, -⟩ := mem_intervals.1 member
    simpa using (List.getElem?_eq_some_iff.1 found).1
  constructor
  case recorded => rw [graph, Graph.length_queries_ofQueries, length]
  case edge_lt =>
    intro e member
    rw [graph] at member
    exact length ▸ Graph.query_lt_of_mem_edges member
  case phase_lt =>
    intro p member query here
    obtain ⟨i, found⟩ := List.mem_iff_getElem?.1 member
    exact length ▸ Graph.query_lt_of_inPhase laid ⟨p, found, here⟩
  case interval_lt => exact interval_lt
  case longest_lt =>
    intro i member
    rw [longest] at member
    exact interval_lt i (List.mem_mergeSort.1 (List.mem_of_mem_take member))
  case scheduled => exact scheduled
  case placed =>
    intro query q listed
    rw [timeline]
    exact count_intervals (by simp [listed])
  case ends_eq =>
    intro query q listed
    rw [graph]
    exact Graph.ends_ofQueries (by simp [made, listed])

/-- Two of three queries move data, one of them at a known time. So the phases and the timeline
number them differently from the log. -/
theorem coherent_of_two_copies :
    ∃ (read : String → Except Fault (List Sql.Statement)) (settings : AnalysisSettings)
      (entries : List Log.Entry) (r : Analysis),
      Sane read
        ∧ (⟨.withReader read, settings, 0⟩ : Analyzer).analyze entries = .ok r
        ∧ r.phases.map Phase.queries = [[0], [1]] ∧ r.intervals.map Interval.query = [1]
        ∧ r.Coherent := by
  let name (text : String) : Sql.ObjectName := [⟨text, none⟩]
  let rows (source : String) : Sql.Query :=
    .ofBody (.select [] [.mk (.table (name source) [] none) []] [])
  let read (text : String) : Except Fault (List Sql.Statement) :=
    .ok [if text = "first" then .createTable (name "B") (some (rows "a"))
      else if text = "second" then .insert (.table (name "c")) (some (rows "b")) []
      else .query (rows "c")]
  have sane : Sane read := by
    rintro text statements given s member ⟨query, place, rfl⟩
    injection given with given
    subst given
    rw [List.mem_singleton] at member
    split at member
    · nomatch member
    · split at member <;> nomatch member
  let t : Time.Instant := ⟨0, 0, 0, by decide, by decide, by decide⟩
  let first : LoggedQuery :=
    ⟨{ Log.Entry.blank with sql := "first" }, ⟨[.create ⟨"b", .singleton "a"⟩]⟩⟩
  let second : LoggedQuery :=
    ⟨{ Log.Entry.blank with sql := "second", start := some t }, ⟨[.insert ⟨"c", .singleton "b"⟩]⟩⟩
  let entries := [first.entry, { Log.Entry.blank with sql := "third" }, second.entry]
  let analyzer : Analyzer := ⟨.withReader read, ⟨2, 10, 5⟩, 0⟩
  have batch : (analyzer.batch entries).map Batch.queries = .ok [first, second] := by
    decide +kernel
  have phases : (Graph.ofQueries [first.classification, second.classification]).phases
      = .ok [⟨0, [0], .singleton "b"⟩, ⟨1, [1], .singleton "c"⟩] := by decide +kernel
  have timeline : intervals [first.entry, second.entry] = [⟨1, t, t⟩] :=
    intervals_eq_of_pairwise (by decide +kernel) (by decide +kernel)
  have width : sliceWidth 2 = .ok (.ofMilliseconds 2000) := by decide +kernel
  have counts : (slices [first.entry, second.entry] (.ofMilliseconds 2000)).map
      (List.map Slice.count) = .ok [1] := by
    simp only [slices, timeline]
    decide +kernel
  obtain ⟨b, found, queries⟩ := map_eq_ok_iff.1 batch
  obtain ⟨parts, sliced, -⟩ := map_eq_ok_iff.1 counts
  have analyzed := analyze_eq_ok found width (by rw [queries]; exact phases)
    (by rw [queries]; exact sliced)
  refine ⟨read, _, entries, _, sane, analyzed, rfl, ?_, coherent_of_analyze sane analyzed⟩
  simp [queries, timeline]

end Analyzer

end QueryFlow
