import QueryFlow.Proofs.Analysis.Batch
import QueryFlow.Proofs.Flow.Thinning
import QueryFlow.Proofs.Intent.Endpoint

/-!
# No flow of rows is lost with the queries that are not kept

A batch keeps the queries that move data only, and the flow graph is made of these. It is as good as
the graph of all queries that are understood: the same nodes, the same edges and the same cycles or
phases, where queries are known by other numbers.

## How the proof goes

This rests on what the standard predicates find, which is in any text at most one context: a query
is kept if and only if it has a target, and one that is not kept has no source either. Such a query
is *idle*, and what idle queries do to a graph is worked out in `Proofs.Flow.Thinning`: they add
neither nodes nor edges, and leave numbers unused. Between the queries that are kept and all of them
the numbers change by `keptAt`, which counts the kept queries below a position; it is strictly
increasing, so order and phases survive the change of numbers.

`Lossless` collects what one graph says about the other, and is stated for any two lists of
classifications, so the condition on idle queries and the condition on texts meet only at the end.

## Main results

* `classifications_ofEntries`: what is kept of the queries that are understood.
* `lossless_ofEntries`: nothing is lost of their graph.
-/

namespace QueryFlow

open QueryFlow.Flow QueryFlow.Intent QueryFlow.Sql

/-- Some queries of a list make the same graph as the whole list, where the query of a number is
known by another number in the whole list. -/
structure Lossless (all kept : List Classification) (number : Nat → Nat) : Prop where
  /-- The queries stay in their order. -/
  ascending : StrictMono number
  /-- The queries are those of the whole list. -/
  listed : ∀ i, kept[i]? = all[number i]?
  /-- The nodes are the same, in the same order. -/
  nodes : (Graph.ofQueries kept).nodes = (Graph.ofQueries all).nodes
  /-- The edges are the same, in the same order. -/
  edges : (Graph.ofQueries kept).edges.map (Edge.renumber number) = (Graph.ofQueries all).edges
  /-- The phases are the same, or the fault that names the cycles. -/
  phases : (Graph.ofQueries kept).phases.map (List.map (Phase.renumber number))
    = (Graph.ofQueries all).phases

/-- Nothing is lost with queries that read and write nothing. The number of a kept query counts the
queries in front of it that are kept. -/
theorem lossless_filter {p : Classification → Bool} {cs : List Classification}
    (idle : Graph.IdleUnless p cs) : Lossless cs (cs.filter p) (keptAt (cs.map p)) where
  ascending := strictMono_keptAt _
  listed := getElem?_filter_keptAt p cs
  nodes := (Graph.nodes_edges_filter idle).1
  edges := (Graph.nodes_edges_filter idle).2
  phases := (Graph.phases_filter idle).symm

namespace Intent.Classifier

/-- What the statements of some entries do, of those that are understood. Nothing is said of the
others, which are counted apart. -/
def understood (c : Classifier) (entries : List Log.Entry) : List Classification :=
  entries.filterMap fun entry => (c.classify entry.sql).toOption

/-- What is understood is what some entry does. -/
theorem mem_understood {c : Classifier} {entries : List Log.Entry} {found : Classification} :
    found ∈ c.understood entries ↔ ∃ entry ∈ entries, c.classify entry.sql = .ok found := by
  simp only [understood, List.mem_filterMap]
  refine exists_congr fun entry => and_congr_right fun _ => ?_
  cases c.classify entry.sql <;> simp [Except.toOption]

end Intent.Classifier

namespace Batch

/-- **What is kept of the queries that are understood** is what moves data, in the order of the log.
-/
theorem classifications_ofEntries {c : Classifier} {workers : Nat} {entries : List Log.Entry}
    {b : Batch} (made : ofEntries c workers entries = .ok b) :
    b.queries.map LoggedQuery.classification
      = (c.understood entries).filter Classification.movesData := by
  rw [queries_ofEntries made, List.map_filterMap, Classifier.understood, List.filter_filterMap]
  refine List.filterMap_congr fun entry _ => ?_
  cases c.classify entry.sql with
  | error _ => rfl
  | ok found =>
      by_cases moves : found.movesData = true <;>
        simp [kept, Except.toOption, Option.filter, moves]

/-- **No flow of rows is lost with the queries that are not kept.** Every text has at most one
context; it is kept if and only if it has a target, and has no source otherwise. So the graph of the
queries of a batch is that of all queries that are understood. -/
theorem lossless_ofEntries {read : String → Except Fault (List Statement)} (sane : Sane read) :
    (∀ text found, (Classifier.withReader read).classify text = .ok found →
        found.contexts.length ≤ 1 ∧ (found.movesData = true ↔ found.targets ≠ .empty)
          ∧ (found.movesData = false → found.sources = .empty))
      ∧ ∀ workers entries b, ofEntries (.withReader read) workers entries = .ok b →
        b.queries.map LoggedQuery.classification
            = ((Classifier.withReader read).understood entries).filter Classification.movesData
          ∧ ∃ number, Lossless ((Classifier.withReader read).understood entries)
              (b.queries.map LoggedQuery.classification) number := by
  refine ⟨fun text found classified => ?_, fun workers entries b made => ?_⟩
  · exact ⟨length_contexts_of_classify classified, movesData_iff_of_classify classified sane,
      fun still => (idle_of_classify classified still).1⟩
  · have idle : Graph.IdleUnless Classification.movesData
        ((Classifier.withReader read).understood entries) := fun found member still => by
      obtain ⟨entry, -, classified⟩ := Classifier.mem_understood.1 member
      exact idle_of_classify classified still
    have same := classifications_ofEntries made
    exact ⟨same, _, same ▸ lossless_filter idle⟩

/-- Of three queries the second one is not kept, and the third one is known by another number. -/
theorem lossless_of_three_queries :
    ∃ (read : String → Except Fault (List Statement)) (entries : List Log.Entry) (b : Batch)
      (number : Nat → Nat),
      Sane read ∧ ofEntries (.withReader read) 2 entries = .ok b ∧ entries.length = 3
        ∧ b.queries.map LoggedQuery.classification
          = [⟨[.create ⟨"b", .singleton "a"⟩]⟩, ⟨[.insert ⟨"c", .singleton "b"⟩]⟩]
        ∧ Lossless ((Classifier.withReader read).understood entries)
            (b.queries.map LoggedQuery.classification) number := by
  let name (text : String) : ObjectName := [⟨text, none⟩]
  let rows (source : String) : Query :=
    .ofBody (.select [] [.mk (.table (name source) [] none) []] [])
  let read (text : String) : Except Fault (List Statement) :=
    .ok [if text = "first" then .createTable (name "b") (some (rows "a"))
      else if text = "third" then .insert (.table (name "c")) (some (rows "b")) []
      else .query (rows "c")]
  have sane : Sane read := by
    rintro text statements given s member ⟨query, place, rfl⟩
    injection given with given
    subst given
    rw [List.mem_singleton] at member
    split at member
    · cases member
    · split at member <;> cases member
  let entries := ["first", "second", "third"].map fun text => { Log.Entry.blank with sql := text }
  have batch : (ofEntries (.withReader read) 2 entries).map
      (fun b => b.queries.map LoggedQuery.classification)
      = .ok [⟨[.create ⟨"b", .singleton "a"⟩]⟩, ⟨[.insert ⟨"c", .singleton "b"⟩]⟩] := by
    decide +kernel
  obtain ⟨b, made, queries⟩ := map_eq_ok_iff.1 batch
  obtain ⟨-, number, lossless⟩ := (lossless_ofEntries sane).2 2 entries b made
  exact ⟨read, entries, b, number, sane, made, rfl, queries, lossless⟩

end Batch

end QueryFlow
