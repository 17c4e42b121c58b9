import Mathlib.Order.Bounds.Defs
import QueryFlow.Proofs.Lists
import QueryFlow.Proofs.Time.Line
import QueryFlow.Timeline.Slice

/-!
# The timeline and its bounds

The intervals of a timeline are in the order of their starts, so that the first of them starts
before all others. Which one ends last is found by looking at all of them, and the greatest end is
found whatever the order is.

An entry is on the timeline once or not at all. The positions are those of the log and no two
entries have one position, so that counting an interval by its position is counting its entry; the
sort changes the order only.

Intervals that start at ordinary instants also end there, because an end is found by moving the
start, and a move from an ordinary instant never leads into a leap second. So it is enough to ask of
the starts of queries that they are ordinary wherever the line is to be used.

## Main results

* `pairwise_intervals`: a timeline is in the order of the starts.
* `count_intervals`: an entry is on the timeline once if it has a start and an end.
* `exists_bounds?`: a timeline with intervals has an earliest start and a latest end.
* `isLeap_of_mem_intervals`: intervals that start at ordinary instants also end there.
-/

namespace QueryFlow.Timeline

open QueryFlow.Time

/-- **A timeline is in the order of the starts**, as it is sorted by them. -/
theorem pairwise_intervals (entries : List Log.Entry) :
    (intervals entries).Pairwise fun i j => i.start ≤ j.start := by
  refine List.pairwise_mergeSort ?_ ?_ _
  · exact fun _ _ _ first second => Instant.le_trans first second
  · intro i j
    rw [Bool.or_eq_true]
    exact Instant.le_total i.start j.start

/-- Intervals that are in order as the log has them stay so. -/
theorem intervals_eq_of_pairwise {entries : List Log.Entry} {is : List Interval}
    (listed : entries.zipIdx.filterMap (fun (entry, query) => interval? entry query) = is)
    (ordered : is.Pairwise fun i j => (i.start.compare j.start).isLE) : intervals entries = is := by
  rw [intervals, listed]
  exact List.mergeSort_of_pairwise ordered

/-- An interval is that of the entry at its position. -/
theorem query_of_interval? {entry : Log.Entry} {query : Nat} {i : Interval}
    (isInterval : interval? entry query = some i) : i.query = query := by
  unfold interval? at isInterval
  split at isInterval
  · injection isInterval with same
    rw [← same]
  · nomatch isInterval

/-- No query is on a timeline twice. -/
theorem nodup_intervals (entries : List Log.Entry) :
    ((intervals entries).map Interval.query).Nodup := by
  refine ((List.mergeSort_perm _ _).map _).nodup_iff.2 ?_
  rw [List.Nodup, List.pairwise_map, List.pairwise_filterMap]
  have apart : entries.zipIdx.Pairwise fun a b => a.2 ≠ b.2 := by
    rw [← List.pairwise_map, List.zipIdx_map_snd]
    exact List.nodup_range'
  refine apart.imp fun different i isInterval j isInterval' same => different ?_
  rw [← query_of_interval? isInterval, ← query_of_interval? isInterval', same]

/-- **An entry is on the timeline once if it has a start and an end**, and else not at all. -/
theorem count_intervals {entries : List Log.Entry} {query : Nat} {entry : Log.Entry}
    (listed : entries[query]? = some entry) :
    ((intervals entries).map Interval.query).count query
      = if entry.start.isSome ∧ entry.finish?.isSome then 1 else 0 := by
  have member : query ∈ (intervals entries).map Interval.query
      ↔ entry.start.isSome ∧ entry.finish?.isSome := by
    simp only [List.mem_map, mem_intervals, Option.isSome_iff_exists]
    constructor
    · rintro ⟨i, ⟨entry', found, start, finish⟩, rfl⟩
      obtain rfl := Option.some.inj (listed.symm.trans found)
      exact ⟨⟨_, start⟩, ⟨_, finish⟩⟩
    · rintro ⟨⟨start, hs⟩, ⟨finish, hf⟩⟩
      exact ⟨⟨query, start, finish⟩, ⟨entry, listed, hs, hf⟩, rfl⟩
  rw [(nodup_intervals entries).count]
  simp only [member]

/-- The later one of two instants is one of them, and neither is after it. -/
theorem later_spec (t u : Instant) :
    (later t u = t ∨ later t u = u) ∧ t ≤ later t u ∧ u ≤ later t u := by
  unfold later
  split
  · next le => exact ⟨.inr rfl, le, Instant.le_refl u⟩
  · next not_le => exact ⟨.inl rfl, Instant.le_refl t, (Instant.le_total t u).resolve_left not_le⟩

/-- **A timeline with intervals has an earliest start and a latest end.** The earliest start is that
of the first interval; the latest end is found by a loop, whose invariant is that it is the greatest
so far. -/
theorem exists_bounds? {is : List Interval} (ordered : is.Pairwise fun i j => i.start ≤ j.start)
    (nonempty : is ≠ []) :
    ∃ first last, bounds? is = some (first, last)
      ∧ IsLeast {t | ∃ i ∈ is, i.start = t} first
      ∧ IsGreatest {t | ∃ i ∈ is, i.finish = t} last := by
  cases is with
  | nil => exact absurd rfl nonempty
  | cons i is =>
      obtain ⟨found, first, rest⟩ := foldl_greatest Instant.le_refl Instant.le_trans later_spec
        Interval.finish is i.finish
      refine ⟨i.start, _, rfl, ⟨⟨i, by simp, rfl⟩, ?_⟩, ⟨?_, ?_⟩⟩
      · rintro _ ⟨j, member, rfl⟩
        rcases List.mem_cons.1 member with rfl | member
        · exact Instant.le_refl _
        · exact (List.pairwise_cons.1 ordered).1 j member
      · rcases found with same | ⟨j, member, same⟩
        · exact ⟨i, by simp, same.symm⟩
        · exact ⟨j, List.mem_cons_of_mem _ member, same.symm⟩
      · rintro _ ⟨j, member, rfl⟩
        rcases List.mem_cons.1 member with rfl | member
        · exact first
        · exact rest j member

/-- **Intervals that start at ordinary instants also end there.** -/
theorem isLeap_of_mem_intervals {entries : List Log.Entry} {i : Interval}
    (ordinary : ∀ entry ∈ entries, ∀ t, entry.start = some t → t.isLeap = false)
    (member : i ∈ intervals entries) : i.start.isLeap = false ∧ i.finish.isLeap = false := by
  obtain ⟨entry, found, start, finish⟩ := mem_intervals.1 member
  have here := ordinary entry (List.mem_of_getElem? found) i.start start
  refine ⟨here, ?_⟩
  simp only [Log.Entry.finish?, start, Option.bind_eq_bind, Option.bind_some,
    Option.bind_eq_some_iff] at finish
  obtain ⟨duration, -, moved⟩ := finish
  exact ((Instant.add?_eq_some_iff here).1 moved).1

end QueryFlow.Timeline
