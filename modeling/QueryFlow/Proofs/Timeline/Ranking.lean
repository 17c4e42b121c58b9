import QueryFlow.Proofs.Analysis.Coherence

/-!
# The order of a timeline and of its longest intervals

A timeline is sorted by start, and the longest intervals are found by sorting it once more, by
duration. Neither order is strict on its own: queries start together, and queries take equally long.
But sorting keeps what it cannot tell apart in the order it was in. So the positions of the queries
in the log decide between equal starts, and the timeline between equal durations, and both times the
order that comes out is strict and leaves no choice.

* `Interval.Precedes` — the order of a timeline;
* `Interval.Outranks` — the order of the longest intervals;
* `TimelineOf`, `LongestOf` — what a timeline and a list of longest intervals are to be.

## Stable sorting

That sorting is stable is used in one form: a list that was in some order before it was sorted by a
key is afterwards in the order of the key and, among equal keys, in the one it had. Before the
timeline is sorted the intervals are in the order of their positions, and before the longest ones
are found they are in the order of the timeline.

A strict order that is asymmetric leaves one way to put a list in order: two permutations of a list
that are both in order are equal. So what is listed can be said without naming the sort, as the
first elements of any arrangement in the order of ranks.

## Main results

* `pairwise_precedes`: a timeline is in its order, and there are no two intervals in one place.
* `pairwise_outranks`: sorting a timeline by duration gives the order of ranks.
* `longest_ranked`: an analysis lists the first intervals in the order of ranks.
-/

namespace QueryFlow.Timeline

open QueryFlow.Time

/-! ### Two orders -/

/-- An interval stands before another one on a timeline: it starts before it, or together with it
and its query stands before the other one in the log. -/
def Interval.Precedes (i j : Interval) : Prop :=
  i.start < j.start ∨ i.start = j.start ∧ i.query < j.query

/-- An interval comes before another one among the longest: it is longer, or equally long and stands
before it on the timeline. -/
def Interval.Outranks (i j : Interval) : Prop :=
  j.duration < i.duration ∨ i.duration = j.duration ∧ i.Precedes j

instance (i j : Interval) : Decidable (i.Precedes j) := inferInstanceAs (Decidable (_ ∨ _))

instance (i j : Interval) : Decidable (i.Outranks j) := inferInstanceAs (Decidable (_ ∨ _))

variable {i j : Interval} {entries : List Log.Entry} {queries : List LoggedQuery}

/-- Two intervals do not stand before each other. -/
theorem Interval.Precedes.asymm (before : i.Precedes j) : ¬ j.Precedes i := by
  intro behind
  simp only [Precedes, Instant.lt_iff] at before behind
  rcases before with before | ⟨same, before⟩
  · rcases behind with behind | ⟨same, -⟩
    · omega
    · rw [same] at before
      omega
  · rw [same] at behind
    omega

/-- Two intervals do not outrank each other. -/
theorem Interval.Outranks.asymm (above : i.Outranks j) : ¬ j.Outranks i := by
  rintro (longer | ⟨same, below⟩)
  · rcases above with longer' | ⟨same, -⟩
    · exact Int.lt_asymm longer longer'
    · exact Int.ne_of_lt longer same
  · rcases above with longer | ⟨-, before⟩
    · exact Int.ne_of_lt longer same
    · exact before.asymm below

/-- **Sorting by start gives the order of a timeline**, which is strict: the sort is stable, so
intervals with one start stay in the order of their queries. -/
theorem pairwise_precedes (entries : List Log.Entry) :
    (intervals entries).Pairwise Interval.Precedes := by
  -- before they are sorted the intervals come in the order of the log
  have logged : (entries.zipIdx.filterMap fun p => interval? p.1 p.2).Pairwise
      fun i j => i.query < j.query := by
    have numbered : entries.zipIdx.Pairwise fun a b => a.2 < b.2 := by
      rw [← List.pairwise_map, List.zipIdx_map_snd]
      exact List.pairwise_lt_range'
    rw [List.pairwise_filterMap]
    refine numbered.imp fun before i isInterval j isInterval' => ?_
    rwa [query_of_interval? isInterval, query_of_interval? isInterval']
  refine (pairwise_mergeSort_of_pairwise ?_ ?_ logged).imp ?_
  · exact fun _ _ _ first second => Instant.le_trans first second
  · intro i j
    rw [Bool.or_eq_true]
    exact Instant.le_total i.start j.start
  · intro i j ⟨le, among⟩
    rcases Instant.lt_or_eq_of_le le with less | same
    · exact .inl less
    · exact .inr ⟨same, among (same ▸ Instant.le_refl i.start)⟩

/-- **Sorting a timeline by duration gives the order of ranks**, which is strict too. -/
theorem pairwise_outranks {timeline : List Interval}
    (ordered : timeline.Pairwise Interval.Precedes) :
    (timeline.mergeSort fun a b => decide (b.duration ≤ a.duration)).Pairwise
      Interval.Outranks := by
  refine (pairwise_mergeSort_of_pairwise ?_ ?_ ordered).imp ?_
  · intro a b c first second
    exact decide_eq_true (Int.le_trans (of_decide_eq_true second) (of_decide_eq_true first))
  · intro a b
    rw [Bool.or_eq_true, decide_eq_true_iff, decide_eq_true_iff]
    exact Int.le_total b.duration a.duration
  · intro a b ⟨le, among⟩
    have le : b.duration ≤ a.duration := of_decide_eq_true le
    rcases Int.lt_or_eq_of_le le with longer | same
    · exact .inl longer
    · exact .inr ⟨same.symm, among (decide_eq_true same.ge)⟩

/-- There is one way to put intervals in the order of ranks. -/
theorem eq_of_outranks {ranked other timeline : List Interval} (perm : ranked.Perm timeline)
    (ordered : ranked.Pairwise Interval.Outranks) (perm' : other.Perm timeline)
    (ordered' : other.Pairwise Interval.Outranks) : ranked = other :=
  (perm.trans perm'.symm).eq_of_pairwise
    (fun _ _ _ _ above below => (above.asymm below).elim) ordered ordered'

/-- There is one way to put intervals in the order of a timeline. -/
theorem intervals_eq_of_perm {timeline : List Interval}
    (perm : timeline.Perm (entries.zipIdx.filterMap fun (entry, query) => interval? entry query))
    (ordered : timeline.Pairwise Interval.Precedes) : intervals entries = timeline :=
  ((List.mergeSort_perm _ _).trans perm.symm).eq_of_pairwise
    (fun _ _ _ _ before behind => (before.asymm behind).elim) (pairwise_precedes entries) ordered

/-! ### What is to be listed -/

/-- A timeline tells when some queries ran. Together the fields leave no choice: they say which
intervals it has, how often, and in which order. -/
structure TimelineOf (queries : List LoggedQuery) (timeline : List Interval) : Prop where
  /-- It has intervals of queries whose start and end are known, and no others. -/
  mem_iff : ∀ i, i ∈ timeline ↔ ∃ q, queries[i.query]? = some q
    ∧ q.entry.start = some i.start ∧ q.entry.finish? = some i.finish
  /-- A query is on it once if its start and its end are known, and else not. -/
  count_eq : ∀ (query : Nat) (q : LoggedQuery), queries[query]? = some q →
    (timeline.map Interval.query).count query
      = if q.entry.start.isSome ∧ q.entry.finish?.isSome then 1 else 0
  /-- It is strictly ascending. -/
  ordered : timeline.Pairwise Interval.Precedes

/-- The longest intervals of a timeline are listed, up to a limit. What stands in the list is said
by the order of ranks, in which a timeline can be put in one way. -/
structure LongestOf (limit : Nat) (timeline longest : List Interval) : Prop where
  /-- The timeline can be put in the order of ranks in one way. -/
  ranking : ∃! ranked : List Interval, ranked.Perm timeline ∧ ranked.Pairwise Interval.Outranks
  /-- What is listed are the first intervals in that order. -/
  eq_take : ∀ ranked : List Interval, ranked.Perm timeline → ranked.Pairwise Interval.Outranks →
    longest = ranked.take limit
  /-- As many are listed as the limit lets pass. -/
  length_eq : longest.length = min limit timeline.length
  /-- None that is left out is longer than one that is listed. -/
  le_of_left_out : ∀ i ∈ timeline, i ∉ longest → ∀ j ∈ longest, i.duration ≤ j.duration

/-- **The timeline of some queries tells when they ran.** -/
theorem timelineOf_intervals (queries : List LoggedQuery) :
    TimelineOf queries (intervals (queries.map LoggedQuery.entry)) where
  mem_iff i := by
    rw [mem_intervals]
    constructor
    · rintro ⟨entry, found, start, finish⟩
      rw [List.getElem?_map, Option.map_eq_some_iff] at found
      obtain ⟨q, listed, rfl⟩ := found
      exact ⟨q, listed, start, finish⟩
    · rintro ⟨q, listed, start, finish⟩
      exact ⟨q.entry, by rw [List.getElem?_map, listed]; rfl, start, finish⟩
  count_eq query q listed := count_intervals (by rw [List.getElem?_map, listed]; rfl)
  ordered := pairwise_precedes _

/-- **The longest intervals of a timeline are the first ones in the order of ranks.** -/
theorem longestOf_longest {timeline : List Interval} (limit : Nat)
    (ordered : timeline.Pairwise Interval.Precedes) :
    LongestOf limit timeline (longest limit timeline) := by
  set ranked := timeline.mergeSort fun a b => decide (b.duration ≤ a.duration) with sorted
  have perm : ranked.Perm timeline := List.mergeSort_perm _ _
  have above : ranked.Pairwise Interval.Outranks := pairwise_outranks ordered
  have unique (other : List Interval) (perm' : other.Perm timeline)
      (above' : other.Pairwise Interval.Outranks) : other = ranked :=
    eq_of_outranks perm' above' perm above
  have taken : longest limit timeline = ranked.take limit := rfl
  constructor
  case ranking => exact ⟨ranked, ⟨perm, above⟩, fun other ⟨perm', above'⟩ => unique other perm' above'⟩
  case eq_take =>
    intro other perm' above'
    rw [unique other perm' above', taken]
  case length_eq => rw [taken, List.length_take, perm.length_eq]
  case le_of_left_out =>
    intro i member absent j listed
    rw [taken] at absent listed
    rw [← List.take_append_drop limit ranked, List.pairwise_append] at above
    have behind : i ∈ ranked.drop limit := by
      have whole := perm.mem_iff.2 member
      rw [← List.take_append_drop limit ranked] at whole
      exact (List.mem_append.1 whole).resolve_left absent
    rcases above.2.2 j listed i behind with longer | ⟨same, -⟩
    · exact Int.le_of_lt longer
    · exact Int.le_of_eq same.symm

/-- **An analysis lists the first intervals in the order of ranks**, and its timeline tells when its
queries ran. -/
theorem longest_ranked (queries : List LoggedQuery) (limit : Nat) :
    TimelineOf queries (intervals (queries.map LoggedQuery.entry))
      ∧ LongestOf limit (intervals (queries.map LoggedQuery.entry))
          (longest limit (intervals (queries.map LoggedQuery.entry)))
      ∧ ∀ (a : Analyzer) (entries : List Log.Entry) (r : Analysis), a.analyze entries = .ok r →
          r.queries = queries → a.settings.longest = limit →
            r.intervals = intervals (queries.map LoggedQuery.entry)
              ∧ r.longest = longest limit (intervals (queries.map LoggedQuery.entry)) := by
  refine ⟨timelineOf_intervals queries, longestOf_longest limit (pairwise_precedes _), ?_⟩
  rintro a entries r analyzed rfl rfl
  obtain ⟨-, -, -, timeline, -, longest⟩ := Analyzer.exists_batch_of_analyze analyzed
  exact ⟨timeline, timeline ▸ longest⟩

/-- Of five queries one has no start, two start together, and three take equally long: the third
and the fourth one are listed behind the last one, and the first one is left out. -/
theorem longest_of_equal_durations :
    ∃ (read : String → Except Fault (List Sql.Statement)) (settings : AnalysisSettings)
      (entries : List Log.Entry) (r : Analysis),
      (⟨.withReader read, settings, 0⟩ : Analyzer).analyze entries = .ok r
        ∧ r.queries.length = 5 ∧ settings.longest = 3
        ∧ r.intervals.map Interval.query = [2, 3, 0, 4]
        ∧ r.longest.map Interval.query = [4, 2, 3] := by
  let name (text : String) : Sql.ObjectName := [⟨text, none⟩]
  let rows : Sql.Query := .ofBody (.select [] [.mk (.table (name "b") [] none) []] [])
  let read (_ : String) : Except Fault (List Sql.Statement) :=
    .ok [.insert (.table (name "c")) (some rows) []]
  let t (second : Fin 86400) : Instant := ⟨0, second, 0, by decide, second.isLt, by decide⟩
  let five : Binary64 := ⟨0x4014000000000000⟩
  let nine : Binary64 := ⟨0x4022000000000000⟩
  let entry (start : Option Instant) (queryTime : Binary64) : Log.Entry :=
    { Log.Entry.blank with start, queryTime }
  let entries := [entry (some (t 1)) five, entry none nine, entry (some (t 0)) five,
    entry (some (t 0)) five, entry (some (t 2)) nine]
  let queries := entries.map fun e => (⟨e, ⟨[.insert ⟨"c", .singleton "b"⟩]⟩⟩ : LoggedQuery)
  let timeline : List Interval := [⟨2, t 0, t 5⟩, ⟨3, t 0, t 5⟩, ⟨0, t 1, t 6⟩, ⟨4, t 2, t 11⟩]
  have placed : intervals (queries.map LoggedQuery.entry) = timeline :=
    intervals_eq_of_perm (by decide +kernel) (by decide +kernel)
  let analyzer : Analyzer := ⟨.withReader read, ⟨60, 2, 3⟩, 0⟩
  obtain ⟨b, batch, kept⟩ : ∃ b, analyzer.batch entries = .ok b ∧ b.queries = queries :=
    map_eq_ok_iff.1 (by decide +kernel)
  have wide : Analyzer.sliceWidth 60 = .ok (.ofMilliseconds 60000) := by decide +kernel
  obtain ⟨phases, laid, -⟩ : ∃ phases,
      (Flow.Graph.ofQueries (queries.map LoggedQuery.classification)).phases = .ok phases
        ∧ phases.length = 1 :=
    map_eq_ok_iff.1 (by decide +kernel)
  have counts : (slices (queries.map LoggedQuery.entry) (.ofMilliseconds 60000)).map
      (List.map Slice.count) = .ok [4] := by
    simp only [slices, placed]
    decide +kernel
  obtain ⟨parts, sliced, -⟩ := map_eq_ok_iff.1 counts
  obtain ⟨r, analyzed, same⟩ : ∃ r, analyzer.analyze entries = .ok r ∧ r.queries = queries :=
    ⟨_, Analyzer.analyze_eq_ok batch wide (by rw [kept]; exact laid) (by rw [kept]; exact sliced),
      kept⟩
  obtain ⟨-, ranked, listed⟩ := longest_ranked queries 3
  obtain ⟨intervals, longest⟩ := listed analyzer entries r analyzed same rfl
  have first := ranked.eq_take [⟨4, t 2, t 11⟩, ⟨2, t 0, t 5⟩, ⟨3, t 0, t 5⟩, ⟨0, t 1, t 6⟩]
    (by rw [placed]; decide +kernel) (by decide +kernel)
  refine ⟨read, _, entries, r, analyzed, by rw [same]; rfl, rfl, ?_, ?_⟩
  · rw [intervals, placed]
    rfl
  · rw [longest, first]
    rfl

end QueryFlow.Timeline
