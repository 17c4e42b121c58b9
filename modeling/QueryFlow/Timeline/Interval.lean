import QueryFlow.Log.Entry

/-!
# When queries ran

A query is on the timeline if its start is known and its end can be named. The timeline is in the
order of the starts, and queries that start together keep their order in the log.

* `intervals` — the timeline of a list of entries;
* `longest` — the intervals that took longest, each before those that took less. Intervals that took
  equally long keep their order.

Both are made by sorting with a sort that keeps what it cannot tell apart in the order it was in, so
that ties are decided by what was there before: the log decides for the timeline, and the timeline
for the longest intervals. An interval knows the position of its query in the log and can be traced
back to it.

Main statement: `mem_intervals`, an entry is on the timeline exactly when it has a start and an end.
-/

namespace QueryFlow.Timeline

open QueryFlow.Time

/-- The time in which a query ran, from its start up to its end, with the place of the query in the
log. -/
structure Interval where
  /-- The position of the query. -/
  query : Nat
  start : Instant
  finish : Instant
deriving DecidableEq

/-- How long a query ran, as the time between its start and its end. Over a leap second this may
differ from the duration of the entry by which the end was found. -/
def Interval.duration (i : Interval) : Span := i.finish.since i.start

/-- The interval of the entry at a position. There is none without a start or without an end, as
when a span cannot hold the duration. -/
def interval? (entry : Log.Entry) (query : Nat) : Option Interval :=
  match entry.start, entry.finish? with
  | some start, some finish => some ⟨query, start, finish⟩
  | _, _ => none

/-- The intervals of some entries, in the order of their starts. -/
def intervals (entries : List Log.Entry) : List Interval :=
  (entries.zipIdx.filterMap fun (entry, query) => interval? entry query).mergeSort fun a b =>
    (a.start.compare b.start).isLE

/-- The `limit` intervals that took longest. -/
def longest (limit : Nat) (is : List Interval) : List Interval :=
  (is.mergeSort fun a b => decide (b.duration ≤ a.duration)).take limit

/-- **An entry is on the timeline exactly when it has a start and an end.** -/
theorem mem_intervals {entries : List Log.Entry} {i : Interval} :
    i ∈ intervals entries ↔
      ∃ entry, entries[i.query]? = some entry ∧ entry.start = some i.start
        ∧ entry.finish? = some i.finish := by
  simp only [intervals, List.mem_mergeSort, List.mem_filterMap, Prod.exists,
    List.mem_zipIdx_iff_getElem?]
  constructor
  · rintro ⟨entry, query, found, isInterval⟩
    unfold interval? at isInterval
    split at isInterval
    · next start finish =>
      injection isInterval with same
      subst same
      exact ⟨entry, found, start, finish⟩
    · nomatch isInterval
  · rintro ⟨entry, found, start, finish⟩
    exact ⟨entry, i.query, found, by simp [interval?, start, finish]⟩

end QueryFlow.Timeline
