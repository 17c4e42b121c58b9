import QueryFlow.Proofs.Log.History
import QueryFlow.Proofs.Timeline.Histogram

/-!
# What slices say at full resolution

Slices are laid out and counted in whole milliseconds from the earliest start on, and that start may
itself lie between two milliseconds. What is lost is small: a query that takes time is missing from
a slice, or the end of the timeline from all of them, if it ends less than a millisecond behind the
place where two slices meet. Then its end *grazes* the slice behind it.

## Two ways to be in a slice

`Runs` and `Stands` say at full resolution, in terms of instants alone, what `Overlaps` and
`FallsInto` say in whole milliseconds. For the queries of a history the two are compared one by one,
as statements about positions on the line of nanoseconds. An offset has lost less than a millisecond
(`offset_bounds`). Where two slices meet the distance from the earliest start is a whole number of
milliseconds, so that a start is before such a place at full resolution exactly if it is so in
milliseconds. With an end it is different, since it is compared from the other side: it lies behind
the place at full resolution and not behind it in milliseconds if it grazes the slice.

A query of a history takes whole milliseconds, which is used for those that take no time: a query
whose start and end have the same offset starts and ends at the same instant.

## Where the end counts

The end of a query that takes no time is of no account, unless it is the latest end of all. That one
decides how many slices there are, and if it grazes a slice, that slice is missing and the slices do
not reach the end. Both directions of the main result follow the two ways in which an end can count
(`not_grazes_of_resolved`, `resolved_of_not_grazes`).

## Main results

* `reaches_iff`: the slices reach the latest end unless that grazes a slice.
* `Cut.resolved_iff`: slices are true to the nanosecond unless an end grazes one of them.
* `resolved_slices_of_history`: this is so for the queries of a history.
* `not_resolved_of_grazing_query`: and some history has such an end.
-/

namespace QueryFlow.Timeline

open QueryFlow.Time

/-! ### Slices at full resolution -/

/-- A query that takes time runs in a slice: both have some time in common. -/
def Runs (s : Slice) (i : Interval) : Prop :=
  i.start ≠ i.finish ∧ i.start < s.finish ∧ s.start < i.finish

/-- A query that takes no time falls into a slice, or into the closing one if it stands at the end
of the timeline. -/
def Stands (s : Slice) (closing : Bool) (last : Instant) (i : Interval) : Prop :=
  i.start = i.finish ∧ (s.start ≤ i.start ∧ i.start < s.finish ∨ closing = true ∧ i.start = last)

instance (s : Slice) (i : Interval) : Decidable (Runs s i) := inferInstanceAs (Decidable (_ ∧ _))

instance (s : Slice) (closing : Bool) (last : Instant) (i : Interval) :
    Decidable (Stands s closing last i) :=
  inferInstanceAs (Decidable (_ ∧ _))

/-- The slices of intervals are true at full resolution: they cover the time from the earliest start
to the latest end without a gap, and each counts what has a part in it or falls into it. -/
structure Resolved (is : List Interval) (first last : Instant) (ss : List Slice) : Prop where
  /-- The slices begin with the earliest start. -/
  begins : ∃ s, ss[0]? = some s ∧ s.start = first
  /-- A slice ends where the next one starts. -/
  meets : ∀ (k : Nat) (s t : Slice), ss[k]? = some s → ss[k + 1]? = some t → s.finish = t.start
  /-- The slices reach the latest end. -/
  reaches : ∀ (k : Nat) (s : Slice), ss[k]? = some s → k + 1 = ss.length → last ≤ s.finish
  /-- A slice counts the intervals that run in it and those that fall into it. -/
  count_eq : ∀ (k : Nat) (s : Slice), ss[k]? = some s →
    s.count = is.countP (fun i => decide (Runs s i))
      + is.countP fun i => decide (Stands s (k + 1 = ss.length) last i)

/-- An instant lies less than a millisecond behind the place where the slice at some index meets the
one before it. -/
def Grazes (first : Instant) (w : Int) (t : Instant) : Prop :=
  ∃ k : Nat, 0 < k ∧ k * w * 1000000 < t.since first ∧ t.since first < (k * w + 1) * 1000000

/-! ### Offsets and positions -/

section Positions

variable {first last t : Instant} {w : Int}

/-- An offset is what a position has in whole milliseconds. -/
theorem offset_bounds (hf : first.isLeap = false) (ht : t.isLeap = false)
    (le : first.position ≤ t.position) :
    0 ≤ offset first t ∧ offset first t * 1000000 ≤ t.position - first.position
      ∧ t.position - first.position < (offset first t + 1) * 1000000 := by
  rw [offset_eq hf ht]
  have parts := Int.tdiv_mul_add_tmod (t.position - first.position) 1000000
  have low := Int.tmod_nonneg 1000000 (a := t.position - first.position) (by omega)
  have high := Int.tmod_lt_of_pos (t.position - first.position) (b := 1000000) (by decide)
  omega

theorem grazes_iff (hf : first.isLeap = false) (ht : t.isLeap = false) :
    Grazes first w t ↔ ∃ k : Nat, 0 < k ∧ k * w * 1000000 < t.position - first.position
      ∧ t.position - first.position < (k * w + 1) * 1000000 := by
  simp only [Grazes, Instant.since_of_ordinary ht hf]

/-- The end of a slice stands one width behind its start, but not behind the last instant. -/
theorem finish_sliceAt {starts : Nat → Instant} (cs : List (Nat × Nat)) {k : Nat}
    (hf : first.isLeap = false) (wide : 0 < w)
    (named : first.add? (Span.ofMilliseconds (k * w)) = some (starts k)) :
    (sliceAt w starts cs k).finish.isLeap = false
      ∧ (sliceAt w starts cs k).finish.position
        = min (first.position + (k * w + w) * 1000000) Instant.last.position := by
  obtain ⟨hs, start⟩ := (Instant.add?_eq_some_iff hf).1 named
  have width : @Eq Int (Span.ofMilliseconds w) (w * 1000000) := rfl
  have before : @Eq Int (Span.ofMilliseconds (k * w)) (k * w * 1000000) := rfl
  cases found : (starts k).add? (Span.ofMilliseconds w) with
  | some finish =>
      obtain ⟨ht, here⟩ := (Instant.add?_eq_some_iff hs).1 found
      have := Instant.position_le_last ht
      simp only [sliceAt, found, Option.getD_some]
      exact ⟨ht, by omega⟩
  | none =>
      have past : Instant.last.position < (starts k).position + Span.ofMilliseconds w := by
        by_contra inside
        obtain ⟨u, moved⟩ : ∃ u, (starts k).add? (Span.ofMilliseconds w) = some u :=
          Instant.exists_add? hs (show Instant.last.isLeap = false from rfl)
            (Int.mul_nonneg wide.le (by decide)) (by omega)
        simp [moved] at found
      simp only [sliceAt, found, Option.getD_none]
      exact ⟨rfl, by omega⟩

end Positions

/-! ### What grazes no slice -/

section Slices

variable {first last : Instant} {w : Int} {is : List Interval}

/-- What is known of an interval of a timeline whose queries take whole milliseconds: both of its
ends are ordinary instants between the bounds, some whole milliseconds apart. -/
structure Whole (first last : Instant) (i : Interval) : Prop extends Within first last i where
  start_ordinary : i.start.isLeap = false
  finish_ordinary : i.finish.isLeap = false
  first_le : first.position ≤ i.start.position
  le_last : i.finish.position ≤ last.position
  takes : ∃ ms : Nat, i.finish.position = i.start.position + ms * 1000000

/-- **The slices reach the latest end unless that grazes a slice.** -/
theorem reaches_iff (hf : first.isLeap = false) (hl : last.isLeap = false)
    (le : first.position ≤ last.position) (wide : 0 < w) :
    last.position - first.position ≤ sliceCount first last w * w * 1000000
      ↔ ¬ Grazes first w last := by
  obtain ⟨nonneg, low, high⟩ := offset_bounds hf hl le
  have extent_eq : extent first last = offset first last := max_eq_right nonneg
  rw [grazes_iff hf hl]
  constructor
  · rintro reaches ⟨k, pos, past, near⟩
    -- the end has the offset at which the slice starts, so that there is no such slice
    have outside : ¬ k < sliceCount first last w := by
      rw [lt_sliceCount_iff wide, extent_eq]
      omega
    have := Int.mul_le_mul_of_nonneg_right (Int.ofNat_le.2 (Nat.not_lt.1 outside)) wide.le
    omega
  · intro clear
    by_contra past
    have outside := Nat.lt_irrefl (sliceCount first last w)
    rw [lt_sliceCount_iff wide, extent_eq] at outside
    exact clear ⟨sliceCount first last w, sliceCount_pos, by omega, by omega⟩

section Slice

variable {i : Interval} (whole : Whole first last i) (hf : first.isLeap = false) {k : Nat}

include whole hf

/-- **A query runs in a slice** if it takes time, starts before the end of the slice and ends after
its start. -/
theorem runs_sliceAt_iff (wide : 0 < w) {starts : Nat → Instant} (cs : List (Nat × Nat))
    (named : first.add? (Span.ofMilliseconds (k * w)) = some (starts k)) :
    Runs (sliceAt w starts cs k) i ↔ i.start.position < i.finish.position
      ∧ i.start.position - first.position < (k * w + w) * 1000000
      ∧ k * w * 1000000 < i.finish.position - first.position := by
  obtain ⟨hs, start⟩ := (Instant.add?_eq_some_iff hf).1 named
  have before : @Eq Int (Span.ofMilliseconds (k * w)) (k * w * 1000000) := rfl
  obtain ⟨ht, finish⟩ := finish_sliceAt cs hf wide named
  obtain ⟨ms, takes⟩ := whole.takes
  have end_le := Instant.position_le_last whole.finish_ordinary
  change i.start ≠ i.finish ∧ i.start < _ ∧ starts k < i.finish ↔ _
  rw [Ne, Instant.eq_iff_position_eq whole.start_ordinary whole.finish_ordinary,
    Instant.lt_iff_position_lt whole.start_ordinary ht,
    Instant.lt_iff_position_lt hs whole.finish_ordinary]
  omega

/-- A query that has a part in a slice by whole milliseconds has a part in it. -/
theorem parts_of_overlaps (overlaps : Overlaps first w k i) :
    i.start.position < i.finish.position
      ∧ i.start.position - first.position < (k * w + w) * 1000000
      ∧ k * w * 1000000 < i.finish.position - first.position := by
  obtain ⟨ms, takes⟩ := whole.takes
  have le := whole.first_le
  obtain ⟨-, low, high⟩ := offset_bounds hf whole.start_ordinary le
  obtain ⟨-, low', high'⟩ := offset_bounds hf whole.finish_ordinary (by omega)
  have next : ((k : Int) + 1) * w = k * w + w := by ring
  rw [Overlaps, next] at overlaps
  omega

/-- A query that has a part in a slice has one by whole milliseconds, unless its end grazes the
slice. -/
theorem overlaps_of_parts (clear : ¬ Grazes first w i.finish)
    (takes : i.start.position < i.finish.position)
    (starts : i.start.position - first.position < (k * w + w) * 1000000)
    (ends : k * w * 1000000 < i.finish.position - first.position) : Overlaps first w k i := by
  obtain ⟨ms, whole_ms⟩ := whole.takes
  have le := whole.first_le
  obtain ⟨-, low, high⟩ := offset_bounds hf whole.start_ordinary le
  obtain ⟨-, low', high'⟩ := offset_bounds hf whole.finish_ordinary (by omega)
  have next : ((k : Int) + 1) * w = k * w + w := by ring
  rw [grazes_iff hf whole.finish_ordinary] at clear
  rw [Overlaps, next]
  rcases Nat.eq_zero_or_pos k with rfl | pos
  · simp only [Nat.cast_zero, Int.zero_mul] at *
    omega
  · have := not_and.1 (not_and.1 (not_exists.1 clear k) pos) ends
    omega

/-- Whoever grazes a slice has no part in it by whole milliseconds. -/
theorem not_overlaps_of_grazes (past : k * w * 1000000 < i.finish.position - first.position)
    (near : i.finish.position - first.position < (k * w + 1) * 1000000) :
    ¬ Overlaps first w k i := by
  obtain ⟨ms, takes⟩ := whole.takes
  have le := whole.first_le
  obtain ⟨-, low, high⟩ := offset_bounds hf whole.finish_ordinary (by omega)
  rintro ⟨-, -, ends⟩
  omega

/-- **A query that takes no time falls into a slice at full resolution as it does by whole
milliseconds**, if the slices reach the latest end. -/
theorem stands_sliceAt_iff (hl : last.isLeap = false) (wide : 0 < w) {starts : Nat → Instant}
    (cs : List (Nat × Nat)) (bound : k < sliceCount first last w)
    (named : first.add? (Span.ofMilliseconds (k * w)) = some (starts k))
    (reaches : last.position - first.position ≤ sliceCount first last w * w * 1000000) :
    Stands (sliceAt w starts cs k) (k + 1 = sliceCount first last w) last i
      ↔ FallsInto first w (sliceCount first last w) k i := by
  obtain ⟨hs, start⟩ := (Instant.add?_eq_some_iff hf).1 named
  have before : @Eq Int (Span.ofMilliseconds (k * w)) (k * w * 1000000) := rfl
  obtain ⟨ht, finish⟩ := finish_sliceAt cs hf wide named
  obtain ⟨ms, takes⟩ := whole.takes
  have le := whole.first_le
  have le' := whole.le_last
  have final := Instant.position_le_last hl
  obtain ⟨nonneg, low, high⟩ := offset_bounds hf whole.start_ordinary le
  obtain ⟨-, low', high'⟩ := offset_bounds hf whole.finish_ordinary (by omega)
  obtain ⟨nonneg', low'', high''⟩ := offset_bounds hf hl (by omega)
  have extent_eq : extent first last = offset first last := max_eq_right nonneg'
  -- the slice at a place is found by two comparisons with its ends
  have up := tdiv_le_iff (k := k) nonneg wide
  have down := tdiv_le_iff (k := (k : Int) - 1) nonneg wide
  have next : ((k : Int) + 1) * w = k * w + w := by ring
  rw [Int.sub_add_cancel] at down
  rw [next] at up
  rw [FallsInto, ← tdiv_eq_floor nonneg wide]
  change i.start = i.finish ∧ (starts k ≤ i.start ∧ i.start < _ ∨ _ ∧ i.start = last) ↔ _
  rw [Instant.eq_iff_position_eq whole.start_ordinary whole.finish_ordinary,
    Instant.le_iff_position_le hs whole.start_ordinary,
    Instant.lt_iff_position_lt whole.start_ordinary ht,
    Instant.eq_iff_position_eq whole.start_ordinary hl, decide_eq_true_eq]
  have inside := (lt_sliceCount_iff wide).1 bound
  rcases Nat.lt_or_ge (k + 1) (sliceCount first last w) with more | closing
  · have beyond := ((lt_sliceCount_iff wide).1 more).resolve_left (Nat.succ_ne_zero k)
    rw [extent_eq, Nat.cast_succ, next] at beyond
    omega
  · obtain same : k + 1 = sliceCount first last w := by omega
    rw [← same, Nat.cast_succ, next] at reaches
    rw [extent_eq] at inside
    have zero : k = 0 → (k : Int) * w = 0 := by rintro rfl; simp
    omega

end Slice

/-! ### Timelines that are cut into slices -/

/-- A timeline is cut into slices with these starts. The fields gather what the statements below
share, for any intervals that take whole milliseconds. -/
structure Cut (is : List Interval) (first last : Instant) (w : Int) (starts : Nat → Instant) :
    Prop where
  least : IsLeast {t | ∃ i ∈ is, i.start = t} first
  greatest : IsGreatest {t | ∃ i ∈ is, i.finish = t} last
  whole : ∀ i ∈ is, Whole first last i
  wide : 0 < w
  named : ∀ k < sliceCount first last w,
    first.add? (Span.ofMilliseconds (k * w)) = some (starts k)

/-- The slices with some starts. -/
def cutSlices (is : List Interval) (first last : Instant) (w : Int) (starts : Nat → Instant) :
    List Slice :=
  (List.range (sliceCount first last w)).map
    (sliceAt w starts (is.map (coverage first w (sliceCount first last w - 1))))

namespace Cut

variable {starts : Nat → Instant} (cut : Cut is first last w starts) {k : Nat}

theorem length_cutSlices : (cutSlices is first last w starts).length = sliceCount first last w := by
  simp [cutSlices]

theorem getElem?_cutSlices {s : Slice} : (cutSlices is first last w starts)[k]? = some s ↔
    k < sliceCount first last w
      ∧ s = sliceAt w starts (is.map (coverage first w (sliceCount first last w - 1))) k :=
  getElem?_map_range_eq_some_iff

include cut

theorem first_ordinary : first.isLeap = false := by
  obtain ⟨⟨i, member, rfl⟩, -⟩ := cut.least
  exact (cut.whole i member).start_ordinary

theorem last_ordinary : last.isLeap = false := by
  obtain ⟨⟨i, member, rfl⟩, -⟩ := cut.greatest
  exact (cut.whole i member).finish_ordinary

theorem first_le_last : first.position ≤ last.position := by
  obtain ⟨⟨i, member, rfl⟩, -⟩ := cut.greatest
  obtain ⟨ms, takes⟩ := (cut.whole i member).takes
  have := (cut.whole i member).first_le
  omega

/-- The slices are a histogram. -/
theorem histogram : Histogram is first last w (cutSlices is first last w starts) :=
  histogram_of_starts cut.least cut.greatest cut.first_ordinary
    (fun i member => (cut.whole i member).toWithin) cut.wide cut.named

/-- What the last slice reaches. -/
theorem reaches_iff_le_finish (bound : k < sliceCount first last w)
    (closing : k + 1 = sliceCount first last w) (cs : List (Nat × Nat)) :
    last ≤ (sliceAt w starts cs k).finish
      ↔ last.position - first.position ≤ sliceCount first last w * w * 1000000 := by
  obtain ⟨ht, finish⟩ := finish_sliceAt cs cut.first_ordinary cut.wide (cut.named k bound)
  have final := Instant.position_le_last cut.last_ordinary
  have next : (sliceCount first last w : Int) * w = k * w + w := by
    rw [← closing]
    push_cast
    ring
  rw [Instant.le_iff_position_le cut.last_ordinary ht, finish, next]
  omega

/-- Queries that take no time are counted alike. -/
theorem countP_stands (bound : k < sliceCount first last w)
    (reaches : last.position - first.position ≤ sliceCount first last w * w * 1000000)
    (cs : List (Nat × Nat)) :
    is.countP (fun i => decide
        (Stands (sliceAt w starts cs k) (k + 1 = sliceCount first last w) last i))
      = is.countP fun i => decide (FallsInto first w (sliceCount first last w) k i) :=
  List.countP_congr fun i member => by
    simpa using stands_sliceAt_iff (cut.whole i member) cut.first_ordinary cut.last_ordinary
      cut.wide cs bound (cut.named k bound) reaches

/-- No end grazes slices that are true. The end of a query that takes time would make that query run
in a slice that does not count it, and the latest end would not be reached. -/
theorem not_grazes_of_resolved
    (resolved : Resolved is first last (cutSlices is first last w starts))
    {i : Interval} (member : i ∈ is) (which : i.start ≠ i.finish ∨ i.finish = last) :
    ¬ Grazes first w i.finish := by
  have hf := cut.first_ordinary
  have reaches : last.position - first.position ≤ sliceCount first last w * w * 1000000 := by
    have pos : 0 < sliceCount first last w := sliceCount_pos
    have bound : sliceCount first last w - 1 < sliceCount first last w := by omega
    have closing : sliceCount first last w - 1 + 1 = sliceCount first last w := by omega
    exact (cut.reaches_iff_le_finish bound closing _).1
      (resolved.reaches _ _ (getElem?_cutSlices.2 ⟨bound, rfl⟩)
        (closing.trans length_cutSlices.symm))
  have clear := (reaches_iff hf cut.last_ordinary cut.first_le_last cut.wide).1 reaches
  intro grazes
  have takes : i.start ≠ i.finish := which.resolve_right fun same => clear (same ▸ grazes)
  have whole := cut.whole i member
  obtain ⟨k, pos, past, near⟩ := (grazes_iff hf whole.finish_ordinary).1 grazes
  have bound : k < sliceCount first last w := by
    by_contra outside
    have := Int.mul_le_mul_of_nonneg_right (Int.ofNat_le.2 (Nat.not_lt.1 outside)) cut.wide.le
    have := whole.le_last
    omega
  -- the slice counts as many queries as run in it, so that none of these is missing
  let cs := is.map (coverage first w (sliceCount first last w - 1))
  have here : (cutSlices is first last w starts)[k]? = some (sliceAt w starts cs k) :=
    getElem?_cutSlices.2 ⟨bound, rfl⟩
  have counted := resolved.count_eq k _ here
  rw [cut.histogram.count_eq k _ here, length_cutSlices, cut.countP_stands bound reaches] at counted
  have runs (j : Interval) (hj : j ∈ is) :=
    runs_sliceAt_iff (cut.whole j hj) hf cut.wide cs (cut.named k bound)
  have overlaps := of_countP_eq
    (fun j hj overlaps => (runs j hj).2 (parts_of_overlaps (cut.whole j hj) hf overlaps))
    (Nat.add_right_cancel counted) i member
  refine not_overlaps_of_grazes whole hf past near (overlaps ((runs i member).2 ?_))
  obtain ⟨ms, later⟩ := whole.takes
  rw [Ne, Instant.eq_iff_position_eq whole.start_ordinary whole.finish_ordinary] at takes
  have := cut.wide
  omega

/-- Slices are true if no end grazes them. The count of a slice compares whole milliseconds, and
without a grazing end that says the same as comparing instants. -/
theorem resolved_of_not_grazes
    (clear : ∀ i ∈ is, i.start ≠ i.finish ∨ i.finish = last → ¬ Grazes first w i.finish) :
    Resolved is first last (cutSlices is first last w starts) := by
  have hf := cut.first_ordinary
  have reaches : last.position - first.position ≤ sliceCount first last w * w * 1000000 := by
    rw [reaches_iff hf cut.last_ordinary cut.first_le_last cut.wide]
    obtain ⟨⟨i, member, ends⟩, -⟩ := cut.greatest
    exact ends ▸ clear i member (.inr ends)
  constructor
  case begins =>
    refine ⟨_, getElem?_cutSlices.2 ⟨sliceCount_pos, rfl⟩, ?_⟩
    obtain ⟨hs, start⟩ := (Instant.add?_eq_some_iff hf).1 (cut.named 0 sliceCount_pos)
    refine (Instant.eq_iff_position_eq hs hf).2 ?_
    simpa [Span.ofMilliseconds] using start
  case meets => exact cut.histogram.finish_eq
  case reaches =>
    intro k s found closing
    obtain ⟨bound, rfl⟩ := getElem?_cutSlices.1 found
    exact (cut.reaches_iff_le_finish bound (closing.trans length_cutSlices) _).2 reaches
  case count_eq =>
    intro k s found
    obtain ⟨bound, rfl⟩ := getElem?_cutSlices.1 found
    rw [cut.histogram.count_eq k _ found, length_cutSlices, cut.countP_stands bound reaches]
    congr 1
    refine List.countP_congr fun i member => ?_
    have whole := cut.whole i member
    rw [decide_eq_true_eq, decide_eq_true_eq,
      runs_sliceAt_iff whole hf cut.wide _ (cut.named k bound)]
    constructor
    · exact parts_of_overlaps whole hf
    · rintro ⟨takes, starts, ends⟩
      have different : i.start ≠ i.finish := fun same => by
        rw [same] at takes
        exact Int.lt_irrefl _ takes
      exact overlaps_of_parts whole hf (clear i member (.inl different)) takes starts ends

/-- **Slices are true to the nanosecond unless an end grazes one of them**: that of a query that
takes time, or the latest one. -/
theorem resolved_iff : Resolved is first last (cutSlices is first last w starts)
    ↔ ∀ i ∈ is, i.start ≠ i.finish ∨ i.finish = last → ¬ Grazes first w i.finish :=
  ⟨fun resolved _ member which => cut.not_grazes_of_resolved resolved member which,
    cut.resolved_of_not_grazes⟩

end Cut

/-! ### Histories -/

/-- The queries of a history take whole milliseconds. -/
theorem whole_of_history {lines : List Log.PhysicalLine} {entries queries : List Log.Entry}
    (read : Log.History.read lines = .ok entries) (kept : ∀ q ∈ queries, q ∈ entries)
    (ordinary : ∀ q ∈ queries, ∀ t, q.start = some t → t.isLeap = false)
    (least : IsLeast {t | ∃ i ∈ intervals queries, i.start = t} first)
    (greatest : IsGreatest {t | ∃ i ∈ intervals queries, i.finish = t} last)
    {i : Interval} (member : i ∈ intervals queries) : Whole first last i := by
  have leap (j : Interval) (hj : j ∈ intervals queries) := isLeap_of_mem_intervals ordinary hj
  have within := within_of_mem least greatest leap member
  obtain ⟨⟨j, hj, rfl⟩, before⟩ := least
  obtain ⟨⟨k, hk, rfl⟩, after⟩ := greatest
  obtain ⟨hs, ht⟩ := leap i member
  obtain ⟨entry, found, starts, ends⟩ := mem_intervals.1 member
  have listed := kept entry (List.mem_of_getElem? found)
  exact { within with
    start_ordinary := hs
    finish_ordinary := ht
    first_le := (Instant.le_iff_position_le (leap j hj).1 hs).1 (before ⟨i, member, rfl⟩)
    le_last := (Instant.le_iff_position_le ht (leap k hk).2).1 (after ⟨i, member, rfl⟩)
    takes := Log.History.finish?_of_mem_read read listed starts hs ends }

/-- A timeline without intervals has no slices. -/
theorem slices_of_intervals_eq_nil {entries : List Log.Entry} (none : intervals entries = [])
    (wide : 0 < w) : slices entries (Span.ofMilliseconds w) = .ok [] := by
  simp only [slices, none, bounds?, Span.milliseconds_ofMilliseconds, Int.not_le.2 wide, if_false]
  rfl

/-- **The slices of the queries of a history are true to the nanosecond exactly if no end grazes one
of them**, for every width in whole seconds. -/
theorem resolved_slices_of_history {lines : List Log.PhysicalLine}
    {entries queries : List Log.Entry} (read : Log.History.read lines = .ok entries)
    (kept : ∀ q ∈ queries, q ∈ entries)
    (ordinary : ∀ q ∈ queries, ∀ t, q.start = some t → t.isLeap = false)
    {seconds : Nat} (wide : 0 < seconds) :
    (intervals queries = [] ∧ slices queries (Span.ofMilliseconds (seconds * 1000)) = .ok [])
      ∨ ∃ first last ss, IsLeast {t | ∃ i ∈ intervals queries, i.start = t} first
        ∧ IsGreatest {t | ∃ i ∈ intervals queries, i.finish = t} last
        ∧ slices queries (Span.ofMilliseconds (seconds * 1000)) = .ok ss
        ∧ (Resolved (intervals queries) first last ss ↔ ∀ i ∈ intervals queries,
          i.start ≠ i.finish ∨ i.finish = last → ¬ Grazes first (seconds * 1000) i.finish) := by
  have wide : (0 : Int) < seconds * 1000 := by omega
  by_cases none : intervals queries = []
  · exact .inl ⟨none, slices_of_intervals_eq_nil none wide⟩
  · obtain ⟨first, last, bounds, least, greatest⟩ :=
      exists_bounds? (pairwise_intervals queries) none
    have whole (i : Interval) (member : i ∈ intervals queries) : Whole first last i :=
      whole_of_history read kept ordinary least greatest member
    obtain ⟨starts, named⟩ : ∃ starts : Nat → Instant,
        ∀ k < sliceCount first last (seconds * 1000),
          first.add? (Span.ofMilliseconds (k * (seconds * 1000))) = some (starts k) := by
      obtain ⟨⟨i, hi, rfl⟩, -⟩ := least
      obtain ⟨⟨j, hj, rfl⟩, -⟩ := greatest
      exact exists_starts (whole i hi).start_ordinary (whole j hj).finish_ordinary wide
    have cut : Cut (intervals queries) first last (seconds * 1000) starts :=
      ⟨least, greatest, whole, wide, named⟩
    have sliced := slices_eq_ok wide bounds named fun i member =>
      coverage_le (whole i member).toWithin wide _
    exact .inr ⟨first, last, _, least, greatest, sliced, cut.resolved_iff⟩

end Slices

/-- A query that starts between two milliseconds, and that grazes no slice, is counted in both
seconds that it runs in. -/
theorem resolved_of_long_query :
    ∃ (lines : List Log.PhysicalLine) (queries : List Log.Entry) (first last : Instant)
      (ss : List Slice),
      Log.History.read lines = .ok queries
        ∧ (∀ q ∈ queries, ∀ t, q.start = some t → t.isLeap = false)
        ∧ slices queries (Span.ofMilliseconds 1000) = .ok ss ∧ ss.map Slice.count = [1, 1]
        ∧ Resolved (intervals queries) first last ss := by
  let a : Instant := ⟨19723, 0, 500, by decide, by decide, by decide⟩
  let b : Instant := ⟨19723, 1, 500000500, by decide, by decide, by decide⟩
  let lines : List Log.PhysicalLine :=
    [some ("[1, 1, \"2024-01-01 00:00:00.0000005\", \"2024-01-01 00:00:01.5000005\", \"\", "
      ++ "false, \"a\"]")]
  let queries : List Log.Entry := [{ Log.Entry.blank with
    start := some a, user := "1", connection := "1", queryTime := ⟨0x3FF8000000000000⟩, sql := "a"
    line := 1 }]
  have read : Log.History.read lines = .ok queries := by decide +kernel
  have ordinary : ∀ q ∈ queries, ∀ t, q.start = some t → t.isLeap = false := by
    simp [queries, a, Instant.isLeap]
  have timeline : intervals queries = [⟨0, a, b⟩] :=
    intervals_eq_of_pairwise (by decide +kernel) (by decide +kernel)
  have counts : (slices queries (Span.ofMilliseconds 1000)).map (List.map Slice.count) =
      .ok [1, 1] := by
    simp only [slices, timeline]
    decide +kernel
  rcases resolved_slices_of_history read (fun _ member => member) ordinary
    (by decide : 0 < 1) with ⟨none, -⟩ | ⟨first, last, ss, ⟨⟨i, hi, starts⟩, -⟩, -, sliced, resolved⟩
  · simp [timeline] at none
  · obtain rfl : i = ⟨0, a, b⟩ := by simpa [timeline] using hi
    obtain rfl : a = first := starts
    have sliced : slices queries (Span.ofMilliseconds 1000) = .ok ss := sliced
    rw [sliced] at counts
    refine ⟨lines, queries, a, last, ss, read, ordinary, sliced, Except.ok.inj counts,
      resolved.2 fun j hj _ => ?_⟩
    obtain rfl : j = ⟨0, a, b⟩ := by simpa [timeline] using hj
    rintro ⟨k, pos, past, near⟩
    have apart : b.since a = 1500000000 := by decide
    rw [apart] at past near
    have past : (k : Int) * ((1 : Nat) * 1000) * 1000000 < 1500000000 := past
    have near : (1500000000 : Int) < (k * ((1 : Nat) * 1000) + 1) * 1000000 := near
    omega

/-- Of two queries that run in the second second, the one that ends half a microsecond after its
beginning is missing there. -/
theorem not_resolved_of_grazing_query :
    ∃ (lines : List Log.PhysicalLine) (queries : List Log.Entry) (first last : Instant)
      (ss : List Slice),
      Log.History.read lines = .ok queries
        ∧ (∀ q ∈ queries, ∀ t, q.start = some t → t.isLeap = false)
        ∧ IsLeast {t | ∃ i ∈ intervals queries, i.start = t} first
        ∧ IsGreatest {t | ∃ i ∈ intervals queries, i.finish = t} last
        ∧ slices queries (Span.ofMilliseconds 1000) = .ok ss
        ∧ ¬ Resolved (intervals queries) first last ss := by
  let a : Instant := ⟨19723, 0, 0, by decide, by decide, by decide⟩
  let b : Instant := ⟨19723, 0, 500, by decide, by decide, by decide⟩
  let c : Instant := ⟨19723, 1, 0, by decide, by decide, by decide⟩
  let d : Instant := ⟨19723, 1, 500, by decide, by decide, by decide⟩
  let e : Instant := ⟨19723, 2, 0, by decide, by decide, by decide⟩
  let lines : List Log.PhysicalLine :=
    [some "[1, 1, \"2024-01-01 00:00:00\", \"2024-01-01 00:00:02\", \"\", false, \"a\"]",
      some ("[1, 2, \"2024-01-01 00:00:00.0000005\", \"2024-01-01 00:00:01.0000005\", \"\", "
        ++ "false, \"b\"]")]
  let entry (start : Instant) (connection sql : String) (line : Nat) (seconds : UInt64) :
      Log.Entry :=
    { Log.Entry.blank with
      start := some start, user := "1", connection, queryTime := ⟨seconds⟩, sql, line }
  let queries :=
    [entry a "1" "a" 1 0x4000000000000000, entry b "2" "b" 2 0x3FF0000000000000]
  have read : Log.History.read lines = .ok queries := by decide +kernel
  have ordinary : ∀ q ∈ queries, ∀ t, q.start = some t → t.isLeap = false := by
    simp [queries, entry, a, b, Instant.isLeap]
  have timeline : intervals queries = [⟨0, a, e⟩, ⟨1, b, d⟩] :=
    intervals_eq_of_pairwise (by decide +kernel) (by decide +kernel)
  have sliced : slices queries (Span.ofMilliseconds 1000) = .ok [⟨a, c, 2⟩, ⟨c, e, 1⟩] := by
    simp only [slices, timeline]
    decide +kernel
  have least : IsLeast {t | ∃ i ∈ intervals queries, i.start = t} a := by
    rw [timeline]
    have before : ∀ i ∈ [(⟨0, a, e⟩ : Interval), ⟨1, b, d⟩], a ≤ i.start := by decide
    refine ⟨⟨_, List.mem_cons_self, rfl⟩, ?_⟩
    rintro _ ⟨i, hi, rfl⟩
    exact before i hi
  have greatest : IsGreatest {t | ∃ i ∈ intervals queries, i.finish = t} e := by
    rw [timeline]
    have after : ∀ i ∈ [(⟨0, a, e⟩ : Interval), ⟨1, b, d⟩], i.finish ≤ e := by decide
    refine ⟨⟨_, List.mem_cons_self, rfl⟩, ?_⟩
    rintro _ ⟨i, hi, rfl⟩
    exact after i hi
  refine ⟨lines, queries, a, e, _, read, ordinary, least, greatest, sliced, fun resolved => ?_⟩
  have counted := resolved.count_eq 1 _ rfl
  rw [timeline] at counted
  revert counted
  decide +kernel

end QueryFlow.Timeline
