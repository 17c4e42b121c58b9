import QueryFlow.Proofs.Timeline.Histogram

/-!
# Timelines that run past the last instant

A timeline of any instants, leap seconds and all, is cut into slices of whole seconds. The starts of
the slices are gone to from the earliest start, and there is one thing that can go wrong: a slice
*overruns* if it would start behind the last instant. Then there are no slices at all.

## Why nothing else can go wrong

With leap seconds an offset may be negative, but by less than a second. A slice has a second or
more, so that such an offset is rounded to zero, and the interval counts as one that starts with the
timeline (`coverage_le_of_near`). No query ends before the slice of its start, and no range runs
backwards.

## Why a slice overruns

The slices reach no further than the latest end, in milliseconds from the earliest start. If one of
them has no start, there is an instant up to which more time passes than can be gone from the first
instant. By the theory of leap seconds that instant lies behind the last one, and as no end of a
query lies there unless its start does, some query starts in the leap second that stands behind the
last instant (`last_lt_of_overruns`).

## Main results

* `coverage_le_of_le`: no interval ends before the slice of its start, wherever it stands.
* `slices_outcome`: a timeline has slices unless one of them overruns.
* `last_lt_of_overruns`: a slice overruns only if a query starts behind the last instant.
-/

namespace QueryFlow.Timeline

open QueryFlow.Time

variable {first last : Instant} {w : Int} {i : Interval} {entries : List Log.Entry}

/-- The slice at an index would start behind the last instant, so it has no name. The slices are
laid out in order, so the first such one ends the work. -/
def Overruns (entries : List Log.Entry) (w : Int) (k : Nat) : Prop :=
  ∃ first last, bounds? (intervals entries) = some (first, last)
    ∧ k < sliceCount first last w ∧ first.add? (Span.ofMilliseconds (k * w)) = none

/-- The bounds of a timeline are its earliest start and its latest end. -/
theorem bounds_spec (bounds : bounds? (intervals entries) = some (first, last)) :
    IsLeast {t | ∃ i ∈ intervals entries, i.start = t} first
      ∧ IsGreatest {t | ∃ i ∈ intervals entries, i.finish = t} last := by
  have nonempty : intervals entries ≠ [] := by
    rintro none
    rw [none] at bounds
    cases bounds
  obtain ⟨first', last', bounds', least, greatest⟩ :=
    exists_bounds? (pairwise_intervals entries) nonempty
  obtain ⟨rfl, rfl⟩ : first' = first ∧ last' = last := by simpa [bounds'] using bounds
  exact ⟨least, greatest⟩

/-! ### Coverages -/

/-- An interval on a timeline starts less than a second before its earliest start. -/
theorem neg_lt_offset (le : first ≤ i.start) : -1000 < offset first i.start := by
  have near : -999999999 ≤ i.start.since first := Instant.neg_lt_since le
  have rounded : Int.tdiv (-999999999) 1000000 ≤ offset first i.start :=
    Int.tdiv_le_tdiv (by decide) near
  exact Int.lt_of_lt_of_le (by decide) rounded

/-- What is less than a divisor before zero is rounded to zero. -/
theorem tdiv_eq_zero_of_neg {n : Int} (negative : n < 0) (near : -w < n) : Int.tdiv n w = 0 := by
  have zero : Int.tdiv (-n) w = 0 := Int.tdiv_eq_zero_of_lt (by omega) (by omega)
  rwa [Int.neg_tdiv, Int.neg_eq_zero] at zero

/-- An interval that starts less than a slice before the earliest start counts as one that starts
there, and does not end before the slice of its start. -/
theorem coverage_le_of_near (near : -w < offset first i.start) (wide : 0 < w) (count : Nat) :
    (coverage first w count i).1 ≤ (coverage first w count i).2 := by
  rcases Int.lt_or_le (offset first i.start) 0 with negative | nonneg
  · have low : (coverage first w count i).1
        = min (place (Int.tdiv (offset first i.start) w)) count := rfl
    rw [low, tdiv_eq_zero_of_neg negative near]
    exact (Nat.zero_min _).le.trans (Nat.zero_le _)
  · exact coverage_le_of_nonneg nonneg wide count

/-- **No interval ends before the slice of its start**, wherever it stands behind the earliest
start. -/
theorem coverage_le_of_le (le : first ≤ i.start) (wide : 1000 ≤ w) (count : Nat) :
    (coverage first w count i).1 ≤ (coverage first w count i).2 := by
  have near := neg_lt_offset le
  exact coverage_le_of_near (by omega) (by omega) count

/-! ### Starts of slices -/

/-- Frames are there unless one of their starts is not. -/
theorem frames_outcome (first : Instant) (width : Span) (indices : List Nat) :
    (∃ k ∈ indices, first.add? (Span.ofMilliseconds (k * width.milliseconds)) = none
        ∧ frames first width indices = .error (.breach (.sliceUnnamed k)))
      ∨ ∀ k ∈ indices, ∃ start,
        first.add? (Span.ofMilliseconds (k * width.milliseconds)) = some start := by
  induction indices with
  | nil => simp
  | cons k indices ih =>
      cases moved : first.add? (Span.ofMilliseconds (k * width.milliseconds)) with
      | none =>
          refine .inl ⟨k, List.mem_cons_self, moved, ?_⟩
          simp only [frames, frame, moved]
          rfl
      | some start =>
          rcases ih with ⟨j, member, missing, failed⟩ | named
          · refine .inl ⟨j, List.mem_cons_of_mem _ member, missing, ?_⟩
            simp only [frames, frame, moved, failed]
            rfl
          · exact .inr (by simpa [moved] using named)

/-- **A timeline has slices unless one of them overruns**, and then it fails with that one. -/
theorem slices_outcome (entries : List Log.Entry) (wide : 1000 ≤ w) :
    (∃ k, Overruns entries w k
        ∧ slices entries (Span.ofMilliseconds w) = .error (.breach (.sliceUnnamed k)))
      ∨ (¬ ∃ k, Overruns entries w k) ∧ ∃ ss, slices entries (Span.ofMilliseconds w) = .ok ss := by
  have pos : 0 < w := Int.lt_of_lt_of_le (by decide) wide
  cases bounds : bounds? (intervals entries) with
  | none =>
      refine .inr ⟨?_, [], ?_⟩
      · rintro ⟨k, first, last, bounds', -⟩
        rw [bounds] at bounds'
        cases bounds'
      · simp only [slices, Span.milliseconds_ofMilliseconds, Int.not_le.2 pos, if_false, bounds]
        rfl
  | some ends =>
      obtain ⟨first, last⟩ := ends
      have framed := frames_outcome first (Span.ofMilliseconds w)
        (List.range (sliceCount first last w))
      simp only [Span.milliseconds_ofMilliseconds, List.mem_range] at framed
      rcases framed with ⟨k, bound, missing, failed⟩ | named
      · refine .inl ⟨k, ⟨first, last, bounds, bound, missing⟩, ?_⟩
        simp only [slices, Span.milliseconds_ofMilliseconds, Int.not_le.2 pos, if_false, bounds,
          failed]
        rfl
      · refine .inr ⟨?_, ?_⟩
        · rintro ⟨k, first', last', bounds', bound, missing⟩
          obtain ⟨rfl, rfl⟩ : first = first' ∧ last = last' := by simpa [bounds] using bounds'
          obtain ⟨start, moved⟩ := named k bound
          rw [missing] at moved
          cases moved
        · choose! starts named using named
          refine ⟨_, slices_eq_ok pos bounds named fun i member => ?_⟩
          exact coverage_le_of_le ((bounds_spec bounds).1.2 ⟨i, member, rfl⟩) wide _

/-! ### The end of time -/

/-- **A slice overruns only if a query starts behind the last instant.** The slice starts before the
latest end, so that end lies behind the last instant, and a query that ends there has started there.
-/
theorem last_lt_of_overruns {k : Nat} (overruns : Overruns entries w k) (wide : 0 < w) :
    ∃ entry ∈ entries, ∃ t, entry.start = some t ∧ Instant.last < t := by
  obtain ⟨first, last, bounds, bound, missing⟩ := overruns
  rcases (lt_sliceCount_iff wide).1 bound with rfl | inside
  · simp [Span.ofMilliseconds] at missing
  -- the slice starts before the latest end, and that lies behind the last instant
  have past : Instant.last < last := by
    have low : (0 : Int) ≤ k * w := Int.mul_nonneg (by omega) wide.le
    have forward : (0 : Int) ≤ Span.ofMilliseconds (k * w) := by
      rw [Span.ofMilliseconds]
      omega
    refine Instant.last_lt_of_add?_eq_none forward ?_ missing
    have before : k * w < Int.tdiv (last.since first) 1000000 := by
      rw [extent, offset, Span.milliseconds] at inside
      omega
    rw [Span.ofMilliseconds]
    by_contra notBefore
    have rounded := Int.tdiv_le_tdiv (c := 1000000) (by decide) (Int.not_lt.1 notBefore)
    rw [Int.mul_tdiv_cancel _ (by decide)] at rounded
    omega
  obtain ⟨i, member, rfl⟩ := (bounds_spec bounds).2.1
  obtain ⟨entry, found, starts, ends⟩ := mem_intervals.1 member
  simp only [Log.Entry.finish?, starts, Option.bind_eq_bind, Option.bind_some,
    Option.bind_eq_some_iff] at ends
  obtain ⟨duration, -, moved⟩ := ends
  exact ⟨entry, List.mem_of_getElem? found, i.start, starts,
    Instant.last_lt_of_add?_eq_some moved past⟩

end QueryFlow.Timeline
