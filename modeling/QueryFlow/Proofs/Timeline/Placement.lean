import QueryFlow.Proofs.Timeline.Overrun

/-!
# Where intervals are counted

The slices that an interval is counted in are found by dividing its offsets from the earliest start,
and the quotients are taken for places in a list. That is sound as long as none of them is below
zero, since a negative number names a place far behind every list.

## When an interval slips back

Time may pass backwards from the earliest start to the start of an interval: the one lies in the
leap second at the end of a day, and the other in the first second of the next day. This alone does
no harm, since the divisions round toward zero and slices are mostly longer than a second. An
interval *slips back* if it starts as early as a whole slice before the earliest start, or if it
starts at least a millisecond before that and ends just there. Then one of its quotients is below
zero, and there is no other way that this can happen.

## How the cases are settled

The offset of the start is either not negative, or less than a slice before zero, or a slice or more
before it; rounding toward zero makes the first two alike. The quotient for the end is asked for
only if the interval takes time. It is rounded up and lowered by one, and an end less than a slice
before zero is rounded up to one and not to zero (`ceilDiv_of_neg`), so that only an end at exactly
zero makes it negative; that needs a start below zero. These are the two ways of slipping back, and
in every other case both places are those of slices (`placed_iff`).

## Main results

* `placed_iff`: an interval is counted from one slice up to a later one, both of which there are,
  unless it slips back.
* `slips_of_slipsBack`: intervals slip back only behind a leap second at the end of a day.
* `sound_iff`: a timeline has sound slices for every width, unless one of them overruns or an
  interval slips back.
* `slices_for_every_width`: what becomes of the slices of a timeline, for all entries and every
  width.
-/

namespace QueryFlow.Timeline

open QueryFlow.Time

variable {first last : Instant} {w : Int} {i : Interval} {entries : List Log.Entry} {width : Span}

/-- An interval is counted from one slice up to another one, and the numbers that were taken for
their places are not below zero. So the places are the quotients themselves, brought down to the
last slice where they lie behind it. -/
structure Placed (first last : Instant) (w : Int) (i : Interval) : Prop where
  /-- The quotient for the start is a place. -/
  start_nonneg : 0 ≤ Int.tdiv (offset first i.start) w
  /-- The quotient for the end is a place, if it is asked for. -/
  finish_nonneg : offset first i.start < offset first i.finish →
    0 ≤ ceilDiv (offset first i.finish) w - 1
  /-- The first slice is not behind the last one. -/
  ordered : (coverage first w (sliceCount first last w - 1) i).1
    ≤ (coverage first w (sliceCount first last w - 1) i).2
  /-- The last slice is one that there is. -/
  inside : (coverage first w (sliceCount first last w - 1) i).2 < sliceCount first last w

/-- An interval starts a slice or more before the earliest start, or it starts before that and ends
there. Offsets are whole milliseconds, so that less than one before the earliest start is not before
it. -/
def SlipsBack (first : Instant) (w : Int) (i : Interval) : Prop :=
  offset first i.start ≤ -w ∨ offset first i.start < 0 ∧ offset first i.finish = 0

instance (first : Instant) (w : Int) (i : Interval) : Decidable (SlipsBack first w i) :=
  inferInstanceAs (Decidable (_ ∨ _))

/-- The slices of a timeline with these bounds are there, and each of its intervals is counted where
it is to be. -/
structure Sound (entries : List Log.Entry) (width : Span) (first last : Instant) : Prop where
  /-- Nothing goes wrong. -/
  sliced : ∃ ss, slices entries width = .ok ss
  /-- Every slice starts at an instant. -/
  starts : ∀ k < sliceCount first last width.milliseconds, ∃ start,
    first.add? (Span.ofMilliseconds (k * width.milliseconds)) = some start
  /-- Every interval has its places. -/
  placed : ∀ i ∈ intervals entries, Placed first last width.milliseconds i

/-! ### Places -/

/-- What is a divisor or more before zero has a negative quotient. -/
theorem tdiv_neg_of_le {n : Int} (wide : 0 < w) (far : n ≤ -w) : Int.tdiv n w < 0 := by
  have one : 1 ≤ Int.tdiv (-n) w := by
    rw [Int.tdiv_eq_ediv_of_nonneg (by omega)]
    exact (Int.le_ediv_iff_mul_le wide).2 (by omega)
  rw [Int.neg_tdiv] at one
  omega

/-- Rounding up takes what is less than a divisor before zero to one, and not to zero. -/
theorem ceilDiv_of_neg {n : Int} (negative : n < 0) (near : -w < n) : ceilDiv n w = 1 := by
  have zero := tdiv_eq_zero_of_neg negative near
  have parts := Int.tdiv_mul_add_tmod n w
  rw [zero] at parts
  rw [ceilDiv, zero, if_neg (by omega)]
  rfl

/-- An interval has its places unless it slips back. By cases on the sign of its start: only behind
a leap second is it negative, and then rounding towards zero decides. -/
theorem placed_of_not_slipsBack (wide : 0 < w) (stays : ¬ SlipsBack first w i) :
    Placed first last w i := by
  obtain ⟨near, notThere⟩ : -w < offset first i.start
      ∧ (offset first i.start < 0 → offset first i.finish ≠ 0) := by
    simpa [SlipsBack] using stays
  have inside (k : Nat) : min k (sliceCount first last w - 1) < sliceCount first last w := by
    have : 0 < sliceCount first last w := sliceCount_pos
    omega
  have covered :
      (coverage first w (sliceCount first last w - 1) i).2 < sliceCount first last w := by
    unfold coverage
    dsimp only
    split <;> exact inside _
  have ordered := coverage_le_of_near near wide (sliceCount first last w - 1)
  rcases Int.lt_or_le (offset first i.start) 0 with negative | nonneg
  · have zero := tdiv_eq_zero_of_neg negative near
    refine ⟨zero.ge, fun takes => ?_, ordered, covered⟩
    -- the end is not the earliest start, and so it is rounded up to one at least
    rcases Int.lt_or_gt_of_ne (notThere negative) with before | after
    · rw [ceilDiv_of_neg before (by omega)]
      decide
    · have := (lt_ceilDiv_iff (k := 0) after.le wide).2 (by omega)
      omega
  · refine ⟨Int.tdiv_nonneg nonneg wide.le, fun takes => ?_, ordered, covered⟩
    have positive := Int.lt_of_le_of_lt nonneg takes
    have := (lt_ceilDiv_iff (k := 0) positive.le wide).2 (by omega)
    omega

/-- **An interval has its places exactly if it does not slip back**, for slices of any width. -/
theorem placed_iff (wide : 0 < w) : Placed first last w i ↔ ¬ SlipsBack first w i := by
  refine ⟨?_, placed_of_not_slipsBack wide⟩
  rintro placed (far | ⟨negative, there⟩)
  · exact Int.not_lt.2 placed.start_nonneg (tdiv_neg_of_le wide far)
  · have low := placed.finish_nonneg (by omega)
    rw [there, ceilDiv] at low
    simp at low

/-- **Intervals slip back only behind a leap second** at the end of a day. -/
theorem slips_of_slipsBack (le : first ≤ i.start) (wide : 0 < w) (back : SlipsBack first w i) :
    Instant.Slips first i.start := by
  refine (Instant.since_neg_iff le).1 ?_
  have negative : offset first i.start < 0 := by
    rcases back with far | ⟨negative, -⟩
    · omega
    · exact negative
  by_contra forward
  have nonneg : 0 ≤ offset first i.start := Int.tdiv_nonneg (Int.not_lt.1 forward) (by decide)
  omega

/-! ### Slices of any width -/

/-- There are no slices of no width. -/
theorem slices_of_not_positive (narrow : width.milliseconds ≤ 0) :
    slices entries width = .error (.invalidInput (.widthNotPositive width.milliseconds)) := by
  simp only [slices, narrow, if_true]
  rfl

/-- The numbers of milliseconds up to the starts of the slices are small. -/
theorem start_lt (wide : 0 < w) {k : Nat} (bound : k < sliceCount first last w) :
    (k : Int) * w < 18014398509481984 := by
  rcases (lt_sliceCount_iff wide).1 bound with rfl | inside
  · simp
  · have := offset_lt first last
    rw [extent] at inside
    omega

/-- Every slice starts at an instant exactly if none of them overruns. -/
theorem not_overruns_iff (bounds : bounds? (intervals entries) = some (first, last)) :
    (¬ ∃ k, Overruns entries w k) ↔ ∀ k < sliceCount first last w, ∃ start,
      first.add? (Span.ofMilliseconds (k * w)) = some start := by
  rw [not_exists]
  refine forall_congr' fun k => ?_
  have same : Overruns entries w k ↔ k < sliceCount first last w
      ∧ first.add? (Span.ofMilliseconds (k * w)) = none := by
    refine ⟨?_, fun overruns => ⟨first, last, bounds, overruns⟩⟩
    rintro ⟨first', last', bounds', overruns⟩
    obtain ⟨rfl, rfl⟩ : first = first' ∧ last = last' := by simpa [bounds] using bounds'
    exact overruns
  rw [same, not_and, ← Option.isSome_iff_exists, Option.isSome_iff_ne_none]

/-- **A timeline has sound slices unless one of them overruns or an interval slips back.** -/
theorem sound_iff (wide : 0 < width.milliseconds)
    (bounds : bounds? (intervals entries) = some (first, last)) :
    Sound entries width first last ↔ (¬ ∃ k, Overruns entries width.milliseconds k)
      ∧ ∀ i ∈ intervals entries, ¬ SlipsBack first width.milliseconds i := by
  have place (i : Interval) : ¬ SlipsBack first width.milliseconds i
      ↔ Placed first last width.milliseconds i := (placed_iff wide).symm
  simp only [not_overruns_iff bounds, place]
  refine ⟨fun sound => ⟨sound.starts, sound.placed⟩, fun ⟨starts, placed⟩ => ⟨?_, starts, placed⟩⟩
  choose! start named using starts
  exact ⟨_, slices_of_width wide bounds named fun i member => (placed i member).ordered⟩

/-- **What becomes of the slices of a timeline**, for all entries and every width. There are none
for a width that is not positive, and none are needed where there are no intervals. Else they are
sound unless one of them overruns, which takes a query that starts behind the last instant, or
unless an interval slips back, which takes a leap second at the end of a day. -/
theorem slices_for_every_width (entries : List Log.Entry) (width : Span) :
    (width.milliseconds ≤ 0 → slices entries width
        = .error (.invalidInput (.widthNotPositive width.milliseconds)))
      ∧ (0 < width.milliseconds → intervals entries = [] → slices entries width = .ok [])
      ∧ (0 < width.milliseconds → intervals entries ≠ [] →
        ∃ first last, bounds? (intervals entries) = some (first, last)
          ∧ (∀ k < sliceCount first last width.milliseconds,
            (k : Int) * width.milliseconds < 18014398509481984)
          ∧ (Sound entries width first last ↔ (¬ ∃ k, Overruns entries width.milliseconds k)
            ∧ ∀ i ∈ intervals entries, ¬ SlipsBack first width.milliseconds i)
          ∧ (∀ k, Overruns entries width.milliseconds k →
            ∃ entry ∈ entries, ∃ t, entry.start = some t ∧ Instant.last < t)
          ∧ ∀ i ∈ intervals entries, SlipsBack first width.milliseconds i →
            Instant.Slips first i.start) := by
  refine ⟨slices_of_not_positive, fun wide none => ?_, fun wide nonempty => ?_⟩
  · simp only [slices, Int.not_le.2 wide, if_false, none, bounds?]
    rfl
  · obtain ⟨first, last, bounds, least, -⟩ :=
      exists_bounds? (pairwise_intervals entries) nonempty
    exact ⟨first, last, bounds, fun k bound => start_lt wide bound, sound_iff wide bounds,
      fun k overruns => last_lt_of_overruns overruns wide,
      fun i member back => slips_of_slipsBack (least.2 ⟨i, member, rfl⟩) wide back⟩

/-- Half a tenth of a second passes backwards over the end of a day, but that is less than a slice.
-/
theorem slices_over_leap_second :
    ∃ (entries : List Log.Entry) (width : Span) (first last : Instant),
      (intervals entries).map (offset first ∘ Interval.start) = [0, -50]
        ∧ bounds? (intervals entries) = some (first, last)
        ∧ 0 < width.milliseconds ∧ intervals entries ≠ [] ∧ Sound entries width first last := by
  let a : Instant := ⟨17166, 86399, 1900000000, by decide, by decide, by decide⟩
  let b : Instant := ⟨17167, 0, 850000000, by decide, by decide, by decide⟩
  let c : Instant := ⟨17167, 1, 100000000, by decide, by decide, by decide⟩
  -- the second query takes a quarter of a second
  let entries : List Log.Entry := [{ Log.Entry.blank with start := some a },
    { Log.Entry.blank with start := some b, queryTime := ⟨0x3FD0000000000000⟩ }]
  have timeline : intervals entries = [⟨0, a, a⟩, ⟨1, b, c⟩] :=
    intervals_eq_of_pairwise (by decide +kernel) (by decide +kernel)
  have nonempty : intervals entries ≠ [] := by simp [timeline]
  have ends : bounds? (intervals entries) = some (a, c) := by
    rw [timeline]
    decide +kernel
  obtain ⟨first, last, bounds, -, sound, -, -⟩ :=
    (slices_for_every_width entries 100000005).2.2 (by decide) nonempty
  obtain ⟨rfl, rfl⟩ : a = first ∧ c = last := by simpa [ends] using bounds
  refine ⟨entries, 100000005, a, c, ?_, bounds, by decide, nonempty, sound.2 ⟨?_, ?_⟩⟩
  · rw [timeline]
    decide +kernel
  · rw [not_overruns_iff bounds]
    simp only [← Option.isSome_iff_exists]
    decide +kernel
  · rw [timeline]
    decide +kernel

/-- **Some timeline has no sound slices**: a query that takes nine tenths of a second slips back. It
starts that much before the start of the first slice and ends just there, so that the quotient for its
end is below zero, and what is counted in its place is the last slice. -/
theorem not_sound_of_slipsBack :
    ¬ ∀ (entries : List Log.Entry) (width : Span) (first last : Instant), 0 < width.milliseconds →
      bounds? (intervals entries) = some (first, last) → Sound entries width first last := by
  intro claim
  let a : Instant := ⟨17166, 86399, 1900000000, by decide, by decide, by decide⟩
  let a' : Instant := ⟨17167, 2, 900000000, by decide, by decide, by decide⟩
  let b : Instant := ⟨17167, 0, 0, by decide, by decide, by decide⟩
  let b' : Instant := ⟨17167, 0, 900000000, by decide, by decide, by decide⟩
  -- the queries take three seconds and nine tenths of one
  let entries : List Log.Entry := [
    { Log.Entry.blank with start := some a, queryTime := ⟨0x4008000000000000⟩ },
    { Log.Entry.blank with start := some b, queryTime := ⟨0x3FECCCCCCCCCCCCD⟩ }]
  have timeline : intervals entries = [⟨0, a, a'⟩, ⟨1, b, b'⟩] :=
    intervals_eq_of_pairwise (by decide +kernel) (by decide +kernel)
  have bounds : bounds? (intervals entries) = some (a, a') := by
    rw [timeline]
    decide +kernel
  have placed : Placed a a' 1000 ⟨1, b, b'⟩ :=
    (claim entries (Span.ofMilliseconds 1000) a a' (by decide) bounds).placed _ (by simp [timeline])
  have negative : ceilDiv (offset a b') 1000 - 1 < 0 := by decide +kernel
  exact absurd (placed.finish_nonneg (by decide +kernel)) (Int.not_le.2 negative)

end QueryFlow.Timeline
