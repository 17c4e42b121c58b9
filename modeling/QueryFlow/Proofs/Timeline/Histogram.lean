import Mathlib.Data.Rat.Floor
import Mathlib.Tactic.Linarith
import QueryFlow.Proofs.Time.Leap
import QueryFlow.Proofs.Timeline.Bounds

/-!
# What a histogram counts

The slices of a timeline are cut by dividing offsets from its earliest start, once rounding down and
once up. They are a *histogram* if they stand one behind the other from the earliest start on, as
many as are needed to reach the latest end, and if each counts the intervals that run in it.

An interval that takes time runs in a slice if both have a millisecond in common. One that takes
none, or ends before it starts, runs in the slice that its start falls into, or in the last one if
its start is the end of that.

## From places to rounding

On a timeline without leap seconds no offset is negative, and all of them are small. So both
quotients are what floor and ceiling of the exact quotient are (`tdiv_eq_floor`, `ceilDiv_eq`), and
turning them into words of 64 bits does nothing. A number is below the quotient rounded up exactly
if its multiple is below the dividend, and at least the one rounded down if the dividend is below
its next multiple: with these two the comparison of a slice with a coverage becomes a comparison of
milliseconds, which is the definition of having a part in the slice (`covers_iff`). The cases are
whether the interval takes time, and whether the slice is the last one, where places are brought
down to.

## From coverages to slices

The slices are given by a function for their starts, with one count for each, provided that every
start can be named and no coverage runs backwards (`slices_eq_ok`). That the starts can be named is
seen on the line: none of them lies behind the latest end, and there is an instant at every position
before it. The same lemma serves for timelines with leap seconds, where the two conditions are what
may fail.

## Main results

* `ceilDiv_eq` and `tdiv_eq_floor`: the divisions round as they are to.
* `covers_iff`: the slices between the two ends of a coverage are those that the interval runs in.
* `slices_eq_ok`: a timeline has slices, if their starts and its coverages are in order.
* `histogram_slices`: the slices of a timeline are its histogram.
-/

namespace QueryFlow.Timeline

open QueryFlow.Time

/-- The whole milliseconds from an instant to another one, toward zero. -/
def offset (first t : Instant) : Int := (t.since first).milliseconds

/-- The whole milliseconds from the earliest start to the latest end, none if the end is earlier. -/
def extent (first last : Instant) : Int := max 0 (offset first last)

/-- An interval that takes time has a part in the slice at an index. Times are compared in whole
milliseconds from the first instant on, with the start of a slice included and its end not. -/
def Overlaps (first : Instant) (w : Int) (index : Nat) (i : Interval) : Prop :=
  offset first i.start < offset first i.finish ∧ offset first i.start < (index + 1) * w
    ∧ index * w < offset first i.finish

/-- An interval that takes no time falls into the slice at an index, where there are `count` slices:
that of its start, but no later one than the last. -/
def FallsInto (first : Instant) (w : Int) (count index : Nat) (i : Interval) : Prop :=
  offset first i.finish ≤ offset first i.start
    ∧ (index : Int) = min ⌊(offset first i.start : ℚ) / w⌋ (count - 1)

instance (first : Instant) (w : Int) (index : Nat) (i : Interval) :
    Decidable (Overlaps first w index i) :=
  inferInstanceAs (Decidable (_ ∧ _))

instance (first : Instant) (w : Int) (count index : Nat) (i : Interval) :
    Decidable (FallsInto first w count index i) :=
  inferInstanceAs (Decidable (_ ∧ _))

/-- Slices of `w` milliseconds that count the intervals of a timeline. The fields say where the
slices stand, one behind the other, and what each of them counts. -/
structure Histogram (is : List Interval) (first last : Instant) (w : Int) (ss : List Slice) :
    Prop where
  /-- The slices begin with the earliest start. -/
  isLeast : IsLeast {t | ∃ i ∈ is, i.start = t} first
  /-- They are to reach the latest end. -/
  isGreatest : IsGreatest {t | ∃ i ∈ is, i.finish = t} last
  /-- There are as many slices as reach the latest end, and at least one. -/
  length_eq : (ss.length : Int) = max 1 ⌈(extent first last : ℚ) / w⌉
  /-- A slice starts as many widths after the earliest start as there are slices before it. -/
  start_eq : ∀ (k : Nat) (s : Slice), ss[k]? = some s →
    first.add? (Span.ofMilliseconds (k * w)) = some s.start
  /-- A slice ends where the next one starts. -/
  finish_eq : ∀ (k : Nat) (s t : Slice), ss[k]? = some s → ss[k + 1]? = some t → s.finish = t.start
  /-- The last slice ends one width after its start, or at the last instant of all. -/
  last_eq : ∀ (k : Nat) (s : Slice), ss[k]? = some s → ss[k + 1]? = none →
    s.finish = (s.start.add? (Span.ofMilliseconds w)).getD .last
  /-- A slice counts the intervals that have a part in it and those that fall into it. -/
  count_eq : ∀ (k : Nat) (s : Slice), ss[k]? = some s →
    s.count = is.countP (fun i => decide (Overlaps first w k i))
      + is.countP fun i => decide (FallsInto first w ss.length k i)
  /-- No interval is counted twice in a slice. -/
  count_once : ∀ (k : Nat) (s : Slice), ss[k]? = some s →
    s.count = is.countP fun i => decide (Overlaps first w k i ∨ FallsInto first w ss.length k i)
  /-- Every interval is counted in some slice. -/
  counted : ∀ i ∈ is, ∃ k < ss.length, Overlaps first w k i ∨ FallsInto first w ss.length k i

/-! ### Rounding -/

section Rounding

variable {n d k : Int}

/-- **The one division rounds down.** -/
theorem tdiv_eq_floor (hn : 0 ≤ n) (hd : 0 < d) : Int.tdiv n d = ⌊(n : ℚ) / d⌋ := by
  have pos : (0 : ℚ) < d := by exact_mod_cast hd
  rw [Int.tdiv_eq_ediv_of_nonneg hn, eq_comm, Int.floor_eq_iff, le_div_iff₀ pos, div_lt_iff₀ pos]
  have low := Int.ediv_mul_le n hd.ne'
  have high := Int.lt_ediv_add_one_mul_self n hd
  exact ⟨by exact_mod_cast low, by exact_mod_cast high⟩

/-- **The other division rounds up.** -/
theorem ceilDiv_eq (hn : 0 ≤ n) (hd : 0 < d) : ceilDiv n d = ⌈(n : ℚ) / d⌉ := by
  have pos : (0 : ℚ) < d := by exact_mod_cast hd
  have parts := Int.tdiv_mul_add_tmod n d
  have low := Int.tmod_nonneg d hn
  rw [eq_comm, Int.ceil_eq_iff, lt_div_iff₀ pos, div_le_iff₀ pos]
  have below : (ceilDiv n d - 1) * d < n := by
    have := ceilDiv_le hn hd
    linarith
  have above : n ≤ ceilDiv n d * d := by
    have high := Int.tmod_lt_of_pos n hd
    unfold ceilDiv
    split <;> linarith
  exact ⟨by exact_mod_cast below, by exact_mod_cast above⟩

/-- A whole number is below a quotient rounded up if its multiple is below the dividend. -/
theorem lt_ceilDiv_iff (hn : 0 ≤ n) (hd : 0 < d) : k < ceilDiv n d ↔ k * d < n := by
  have pos : (0 : ℚ) < d := by exact_mod_cast hd
  rw [ceilDiv_eq hn hd, Int.lt_ceil, lt_div_iff₀ pos]
  exact_mod_cast Iff.rfl

/-- A quotient rounded down is at most a whole number if the dividend is below its next multiple. -/
theorem tdiv_le_iff (hn : 0 ≤ n) (hd : 0 < d) : Int.tdiv n d ≤ k ↔ n < (k + 1) * d := by
  rw [Int.tdiv_eq_ediv_of_nonneg hn, ← Int.lt_add_one_iff, Int.ediv_lt_iff_lt_mul hd]

/-- Small numbers are their own places. -/
theorem place_eq (low : 0 ≤ n) (high : n < 18446744073709551616) : (place n : Int) = n := by
  rw [place, Int.emod_eq_of_lt low high, Int.toNat_of_nonneg low]

end Rounding

/-! ### Offsets -/

section Offsets

variable {first last t u : Instant}

theorem offset_eq (hf : first.isLeap = false) (ht : t.isLeap = false) :
    offset first t = Int.tdiv (t.position - first.position) 1000000 := by
  rw [offset, Span.milliseconds, Instant.since_of_ordinary ht hf]

/-- Later instants have greater offsets. -/
theorem offset_le_offset (hf : first.isLeap = false) (ht : t.isLeap = false)
    (hu : u.isLeap = false) (le : t ≤ u) : offset first t ≤ offset first u := by
  rw [offset_eq hf ht, offset_eq hf hu]
  have := (Instant.le_iff_position_le ht hu).1 le
  exact Int.tdiv_le_tdiv (by decide) (by omega)

/-- Nothing before the first instant has a negative offset. -/
theorem offset_nonneg (hf : first.isLeap = false) (ht : t.isLeap = false) (le : first ≤ t) :
    0 ≤ offset first t := by
  rw [offset_eq hf ht]
  have := (Instant.le_iff_position_le hf ht).1 le
  exact Int.tdiv_nonneg (by omega) (by decide)

/-- Offsets are small. -/
theorem offset_lt (first t : Instant) : offset first t < 18014398509481984 := by
  have near := Int.le_sub_one_of_lt (Instant.since_lt t first)
  exact Int.lt_of_le_of_lt (Int.tdiv_le_tdiv (by decide) near) (by decide)

end Offsets

/-! ### The number of slices -/

section Count

variable {first last : Instant} {w : Int}

theorem sliceCount_eq (wide : 0 < w) :
    (sliceCount first last w : Int) = max 1 ⌈(extent first last : ℚ) / w⌉ := by
  have nonneg : 0 ≤ extent first last := Int.le_max_left ..
  have up : 0 ≤ ceilDiv (extent first last) w := by
    rw [ceilDiv_eq nonneg wide]
    exact Int.ceil_nonneg (div_nonneg (by exact_mod_cast nonneg) (by exact_mod_cast wide.le))
  rw [← ceilDiv_eq nonneg wide, sliceCount]
  change ((max 1 (ceilDiv (extent first last) w).toNat : Nat) : Int) = _
  omega

theorem sliceCount_pos : 0 < sliceCount first last w := Nat.le_max_left ..

/-- **The slices reach the latest end**, and no slice but the first starts there or later. -/
theorem lt_sliceCount_iff (wide : 0 < w) {k : Nat} :
    k < sliceCount first last w ↔ k = 0 ∨ k * w < extent first last := by
  have nonneg : 0 ≤ extent first last := Int.le_max_left ..
  have step := lt_ceilDiv_iff (k := k) nonneg wide
  rw [← step, sliceCount]
  change k < max 1 (ceilDiv (extent first last) w).toNat ↔ _
  omega

/-- **A slice starts at an instant.** -/
theorem exists_start (hf : first.isLeap = false) (hl : last.isLeap = false) (wide : 0 < w) {k : Nat}
    (bound : k < sliceCount first last w) :
    ∃ start, first.add? (Span.ofMilliseconds (k * w)) = some start := by
  rcases (lt_sliceCount_iff wide).1 bound with rfl | inside
  · exact Instant.exists_add? hf hf (by simp [Span.ofMilliseconds]) (by simp [Span.ofMilliseconds])
  · have low : 0 ≤ (k : Int) * w := Int.mul_nonneg (by omega) wide.le
    refine Instant.exists_add? hf hl (by simpa [Span.ofMilliseconds] using low) ?_
    rw [extent, offset_eq hf hl] at inside
    rw [Span.ofMilliseconds]
    by_contra past
    have past : last.position - first.position ≤ k * w * 1000000 := by omega
    have rounded := Int.tdiv_le_tdiv (c := 1000000) (by decide) past
    rw [Int.mul_tdiv_cancel _ (by decide)] at rounded
    omega

end Count

/-! ### The slices that an interval runs in -/

section Coverage

variable {first last : Instant} {w : Int} {i : Interval}

/-- What is known of an interval of a timeline with these bounds: its offsets are not negative,
small, and not behind the end of all. -/
structure Within (first last : Instant) (i : Interval) : Prop where
  nonneg : 0 ≤ offset first i.start
  start_lt : offset first i.start < 18014398509481984
  finish_lt : offset first i.finish < 18014398509481984
  finish_le : offset first i.finish ≤ extent first last

theorem within_of_mem {is : List Interval} (least : IsLeast {t | ∃ i ∈ is, i.start = t} first)
    (greatest : IsGreatest {t | ∃ i ∈ is, i.finish = t} last)
    (ordinary : ∀ i ∈ is, i.start.isLeap = false ∧ i.finish.isLeap = false) (member : i ∈ is) :
    Within first last i := by
  obtain ⟨⟨j, hj, rfl⟩, before⟩ := least
  obtain ⟨⟨k, hk, rfl⟩, after⟩ := greatest
  have hf := (ordinary j hj).1
  have hi := ordinary i member
  constructor
  case nonneg => exact offset_nonneg hf hi.1 (before ⟨i, member, rfl⟩)
  case start_lt => exact offset_lt _ _
  case finish_lt => exact offset_lt _ _
  case finish_le =>
    have le := offset_le_offset hf hi.2 (ordinary k hk).2 (after ⟨i, member, rfl⟩)
    exact Int.le_trans le (Int.le_max_right ..)

/-- The first slice that an interval runs in. -/
theorem coverage_fst (within : Within first last i) (wide : 0 < w) {count : Nat} (pos : 0 < count) :
    ((coverage first w (count - 1) i).1 : Int)
      = min ⌊(offset first i.start : ℚ) / w⌋ (count - 1) := by
  have down := tdiv_eq_floor within.nonneg wide
  have nonneg := Int.tdiv_nonneg within.nonneg wide.le
  have small : Int.tdiv (offset first i.start) w < 18446744073709551616 := by
    have := Int.tdiv_le_self w within.nonneg
    have := within.start_lt
    omega
  have here := place_eq nonneg small
  rw [← down, ← here]
  change ((min (place (Int.tdiv (offset first i.start) w)) (count - 1) : Nat) : Int) = _
  omega

/-- The last slice that an interval that takes time runs in. -/
theorem coverage_snd (within : Within first last i) (wide : 0 < w) {count : Nat} (pos : 0 < count)
    (takes : offset first i.start < offset first i.finish) :
    ((coverage first w (count - 1) i).2 : Int)
      = min (ceilDiv (offset first i.finish) w - 1) (count - 1) := by
  have positive := Int.lt_of_le_of_lt within.nonneg takes
  have up := lt_ceilDiv_iff (k := 0) positive.le wide
  have small : ceilDiv (offset first i.finish) w - 1 < 18446744073709551616 := by
    have := within.finish_lt
    have below := ceilDiv_le positive.le wide
    nlinarith
  have here := place_eq (by omega) small
  rw [← here]
  change ((if offset first i.start < offset first i.finish then
    min (place (ceilDiv (offset first i.finish) w - 1)) (count - 1) else _ : Nat) : Int) = _
  rw [if_pos takes]
  omega

/-- An interval that takes no time runs in one slice. -/
theorem coverage_snd_of_le (takes : offset first i.finish ≤ offset first i.start) {count : Nat} :
    (coverage first w count i).2 = (coverage first w count i).1 :=
  if_neg (Int.not_lt.2 takes)

/-- An interval that does not start before the first instant ends in the slice of its start or in a
later one. -/
theorem coverage_le_of_nonneg (nonneg : 0 ≤ offset first i.start) (wide : 0 < w) (count : Nat) :
    (coverage first w count i).1 ≤ (coverage first w count i).2 := by
  by_cases takes : offset first i.start < offset first i.finish
  · have positive := Int.lt_of_le_of_lt nonneg takes
    have down : Int.tdiv (offset first i.start) w < ceilDiv (offset first i.finish) w := by
      rw [lt_ceilDiv_iff positive.le wide, Int.tdiv_eq_ediv_of_nonneg nonneg]
      exact Int.lt_of_le_of_lt (Int.ediv_mul_le _ wide.ne') takes
    have low := Int.tdiv_nonneg nonneg wide.le
    have high : ceilDiv (offset first i.finish) w - 1 < 18446744073709551616 := by
      have below := ceilDiv_le positive.le wide
      have := offset_lt first i.finish
      nlinarith
    have here := place_eq low (by omega)
    have there := place_eq (n := ceilDiv (offset first i.finish) w - 1) (by omega) high
    have fst : (coverage first w count i).1
        = min (place (Int.tdiv (offset first i.start) w)) count := rfl
    have snd : (coverage first w count i).2
        = min (place (ceilDiv (offset first i.finish) w - 1)) count := if_pos takes
    rw [fst, snd]
    exact min_le_min_right count (by omega)
  · exact (coverage_snd_of_le (Int.not_lt.1 takes)).ge

/-- An interval ends in the slice of its start or in a later one. -/
theorem coverage_le (within : Within first last i) (wide : 0 < w) (count : Nat) :
    (coverage first w count i).1 ≤ (coverage first w count i).2 :=
  coverage_le_of_nonneg within.nonneg wide count

/-- **An interval runs in the slices from the first to the last one of its coverage**, and these are
the slices that it has a part in or falls into. -/
theorem covers_iff (within : Within first last i) (wide : 0 < w) {k : Nat}
    (bound : k < sliceCount first last w) :
    (coverage first w (sliceCount first last w - 1) i).1 ≤ k
        ∧ k ≤ (coverage first w (sliceCount first last w - 1) i).2 ↔
      Overlaps first w k i ∨ FallsInto first w (sliceCount first last w) k i := by
  have reach : ¬ (sliceCount first last w : Int) * w < extent first last := fun inside =>
    Nat.lt_irrefl _ ((lt_sliceCount_iff wide).2 (.inr inside))
  generalize sliceCount first last w = count at *
  have pos : 0 < count := Nat.zero_lt_of_lt bound
  have low := coverage_fst within wide pos
  by_cases takes : offset first i.start < offset first i.finish
  · have falls : ¬ FallsInto first w count k i := fun falls => Int.not_lt.2 falls.1 takes
    have positive := Int.lt_of_le_of_lt within.nonneg takes
    have high := coverage_snd within wide pos takes
    have down := tdiv_le_iff (k := k) within.nonneg wide
    have up := lt_ceilDiv_iff (k := k) positive.le wide
    rw [← tdiv_eq_floor within.nonneg wide] at low
    have finish_le := within.finish_le
    simp only [falls, or_false, Overlaps, takes, true_and, ← down, ← up]
    -- all intervals start before the end of the last slice
    have start_le : Int.tdiv (offset first i.start) w ≤ count - 1 := by
      rw [tdiv_le_iff within.nonneg wide, Int.sub_add_cancel]
      omega
    omega
  · have overlaps : ¬ Overlaps first w k i := fun overlaps => takes overlaps.1
    have single : (coverage first w (count - 1) i).2 = (coverage first w (count - 1) i).1 :=
      coverage_snd_of_le (Int.not_lt.1 takes)
    simp only [overlaps, false_or, FallsInto, Int.not_lt.1 takes, true_and, single, ← low]
    omega

end Coverage

/-! ### The slices of a timeline -/

section Slices

variable {first last : Instant} {w : Int} {is : List Interval}

/-- Frames are those of the slices, if all of these start at instants. -/
theorem frames_eq_ok {width : Span} {starts : Nat → Instant} {indices : List Nat}
    (named : ∀ k ∈ indices,
      first.add? (Span.ofMilliseconds (k * width.milliseconds)) = some (starts k)) :
    frames first width indices =
      .ok (indices.map fun k => (starts k, ((starts k).add? width).getD .last)) := by
  induction indices with
  | nil => rfl
  | cons k indices ih =>
      have rest := ih fun j hj => named j (List.mem_cons_of_mem _ hj)
      simp [frames, frame, named k List.mem_cons_self, rest, bind, Except.bind, pure, Except.pure]

/-- Coverages are those of the intervals, if none of these ends before the slice of its start. -/
theorem coverages_eq_ok {count : Nat}
    (ordered : ∀ i ∈ is, (coverage first w count i).1 ≤ (coverage first w count i).2) :
    coverages first w count is = .ok (is.map (coverage first w count)) := by
  induction is with
  | nil => rfl
  | cons i is ih =>
      have rest := ih fun j hj => ordered j (List.mem_cons_of_mem _ hj)
      have forward : ¬ (coverage first w count i).2 + 1 < (coverage first w count i).1 := by
        have := ordered i List.mem_cons_self
        omega
      simp [coverages, rest, forward, bind, Except.bind, pure, Except.pure]

/-- The slice at an index. -/
def sliceAt (w : Int) (starts : Nat → Instant) (cs : List (Nat × Nat)) (k : Nat) : Slice :=
  ⟨starts k, ((starts k).add? (Span.ofMilliseconds w)).getD .last,
    cs.countP fun (low, high) => low ≤ k && k ≤ high⟩

/-- **A timeline has slices of any width**, unless an interval ends before the slice of its start.
-/
theorem slices_of_width {entries : List Log.Entry} {width : Span}
    (positive : 0 < width.milliseconds)
    (bounds : bounds? (intervals entries) = some (first, last)) {starts : Nat → Instant}
    (named : ∀ k < sliceCount first last width.milliseconds,
      first.add? (Span.ofMilliseconds (k * width.milliseconds)) = some (starts k))
    (ordered : ∀ i ∈ intervals entries,
      (coverage first width.milliseconds (sliceCount first last width.milliseconds - 1) i).1
        ≤ (coverage first width.milliseconds (sliceCount first last width.milliseconds - 1) i).2) :
    slices entries width =
      .ok ((List.range (sliceCount first last width.milliseconds)).map fun k =>
        ⟨starts k, ((starts k).add? width).getD .last,
          ((intervals entries).map (coverage first width.milliseconds
            (sliceCount first last width.milliseconds - 1))).countP fun (low, high) =>
              low ≤ k && k ≤ high⟩) := by
  have fs := frames_eq_ok fun k member => named k (List.mem_range.1 member)
  have cs := coverages_eq_ok ordered
  simp only [slices, Int.not_le.2 positive, if_false, bounds, fs, cs]
  refine congrArg Except.ok (List.ext_getElem (by simp) fun k _ _ => ?_)
  simp

/-- **A timeline has slices**, unless an interval ends before the slice of its start. -/
theorem slices_eq_ok {entries : List Log.Entry} (wide : 0 < w)
    (bounds : bounds? (intervals entries) = some (first, last)) {starts : Nat → Instant}
    (named : ∀ k < sliceCount first last w,
      first.add? (Span.ofMilliseconds (k * w)) = some (starts k))
    (ordered : ∀ i ∈ intervals entries, (coverage first w (sliceCount first last w - 1) i).1
      ≤ (coverage first w (sliceCount first last w - 1) i).2) :
    slices entries (Span.ofMilliseconds w) =
      .ok ((List.range (sliceCount first last w)).map (sliceAt w starts
        ((intervals entries).map (coverage first w (sliceCount first last w - 1))))) := by
  have same := Span.milliseconds_ofMilliseconds w
  rw [← same] at wide named ordered
  have cut := slices_of_width wide bounds named ordered
  rw [same] at cut
  exact cut

/-- **A slice counts the intervals that run in it.** -/
theorem count_sliceAt (within : ∀ i ∈ is, Within first last i) (wide : 0 < w)
    (starts : Nat → Instant) {k : Nat} (bound : k < sliceCount first last w) :
    (sliceAt w starts (is.map (coverage first w (sliceCount first last w - 1))) k).count =
      is.countP fun i =>
        decide (Overlaps first w k i ∨ FallsInto first w (sliceCount first last w) k i) := by
  rw [sliceAt, List.countP_map]
  refine List.countP_congr fun i member => ?_
  simpa using covers_iff (within i member) wide bound

/-- **Every interval runs in some slice**, also one that takes no time. -/
theorem exists_slice (wide : 0 < w) {i : Interval} (within : Within first last i) :
    ∃ k < sliceCount first last w,
      Overlaps first w k i ∨ FallsInto first w (sliceCount first last w) k i := by
  have pos : 0 < sliceCount first last w := sliceCount_pos
  have low := coverage_fst within wide pos
  have bound : (coverage first w (sliceCount first last w - 1) i).1 < sliceCount first last w := by
    omega
  exact ⟨_, bound, (covers_iff within wide bound).1 ⟨Nat.le_refl _, coverage_le within wide _⟩⟩

/-- There are instants for the starts of all slices. -/
theorem exists_starts (hf : first.isLeap = false) (hl : last.isLeap = false) (wide : 0 < w) :
    ∃ starts : Nat → Instant, ∀ k < sliceCount first last w,
      first.add? (Span.ofMilliseconds (k * w)) = some (starts k) := by
  refine ⟨fun k => (first.add? (Span.ofMilliseconds (k * w))).getD first, fun k bound => ?_⟩
  obtain ⟨start, found⟩ := exists_start hf hl wide bound
  simp only [found, Option.getD_some]

/-- Slices that start where they are to, and that have the coverages of the intervals, are a
histogram. -/
theorem histogram_of_starts (least : IsLeast {t | ∃ i ∈ is, i.start = t} first)
    (greatest : IsGreatest {t | ∃ i ∈ is, i.finish = t} last) (hf : first.isLeap = false)
    (within : ∀ i ∈ is, Within first last i) (wide : 0 < w) {starts : Nat → Instant}
    (named : ∀ k < sliceCount first last w,
      first.add? (Span.ofMilliseconds (k * w)) = some (starts k)) :
    Histogram is first last w ((List.range (sliceCount first last w)).map
      (sliceAt w starts (is.map (coverage first w (sliceCount first last w - 1))))) := by
  constructor
  case isLeast => exact least
  case isGreatest => exact greatest
  case length_eq => rw [List.length_map, List.length_range, sliceCount_eq wide]
  case start_eq =>
    intro k s found
    obtain ⟨bound, rfl⟩ := getElem?_map_range_eq_some_iff.1 found
    exact named k bound
  case finish_eq =>
    intro k s t found found'
    obtain ⟨bound, rfl⟩ := getElem?_map_range_eq_some_iff.1 found
    obtain ⟨bound', rfl⟩ := getElem?_map_range_eq_some_iff.1 found'
    have step : Span.ofMilliseconds (k * w) + Span.ofMilliseconds w
        = Span.ofMilliseconds ((k + 1 : Nat) * w) := by
      simp only [Span.ofMilliseconds, ← Int.add_mul]
      push_cast
      ring
    have next := Instant.add?_of_add?_add hf (named k bound) (step ▸ named (k + 1) bound')
    simp only [sliceAt, next, Option.getD_some]
  case last_eq =>
    intro k s found _
    obtain ⟨-, rfl⟩ := getElem?_map_range_eq_some_iff.1 found
    rfl
  case count_eq =>
    intro k s found
    obtain ⟨bound, rfl⟩ := getElem?_map_range_eq_some_iff.1 found
    rw [count_sliceAt within wide starts bound, List.length_map, List.length_range]
    exact countP_or (fun i overlaps falls => Int.not_lt.2 falls.1 overlaps.1) is
  case count_once =>
    intro k s found
    obtain ⟨bound, rfl⟩ := getElem?_map_range_eq_some_iff.1 found
    rw [count_sliceAt within wide starts bound, List.length_map, List.length_range]
  case counted =>
    intro i member
    rw [List.length_map, List.length_range]
    exact exists_slice wide (within i member)

/-- **The slices of a timeline are its histogram**, for every width in whole milliseconds. -/
theorem histogram_slices {entries : List Log.Entry}
    (ordinary : ∀ entry ∈ entries, ∀ t, entry.start = some t → t.isLeap = false)
    (nonempty : intervals entries ≠ []) (wide : 0 < w) :
    ∃ first last ss, slices entries (Span.ofMilliseconds w) = .ok ss
      ∧ Histogram (intervals entries) first last w ss := by
  obtain ⟨first, last, bounds, least, greatest⟩ :=
    exists_bounds? (pairwise_intervals entries) nonempty
  have leap (i : Interval) (member : i ∈ intervals entries) :=
    isLeap_of_mem_intervals ordinary member
  have hf : first.isLeap = false := by
    obtain ⟨i, member, rfl⟩ := least.1
    exact (leap i member).1
  have hl : last.isLeap = false := by
    obtain ⟨i, member, rfl⟩ := greatest.1
    exact (leap i member).2
  have within (i : Interval) (member : i ∈ intervals entries) : Within first last i :=
    within_of_mem least greatest leap member
  obtain ⟨starts, named⟩ := exists_starts hf hl wide
  refine ⟨first, last, _, slices_eq_ok wide bounds named fun i member => ?_,
    histogram_of_starts least greatest hf within wide named⟩
  exact coverage_le (within i member) wide _

end Slices

/-- A query that takes longer than a slice runs in both of them, one at the end of the timeline in
the last one only. -/
theorem histogram_of_two_slices :
    ∃ (entries : List Log.Entry) (first last : Instant) (ss : List Slice),
      (∀ entry ∈ entries, ∀ t, entry.start = some t → t.isLeap = false)
        ∧ (intervals entries).length = 3
        ∧ slices entries (Span.ofMilliseconds 1000) = .ok ss ∧ ss.map Slice.count = [2, 2]
        ∧ Histogram (intervals entries) first last 1000 ss := by
  let a : Instant := ⟨0, 0, 500000000, by decide, by decide, by decide⟩
  let b : Instant := ⟨0, 1, 0, by decide, by decide, by decide⟩
  let c : Instant := ⟨0, 2, 500000000, by decide, by decide, by decide⟩
  -- the second query takes one and a half seconds, the other ones take no time
  let entries : List Log.Entry := [{ Log.Entry.blank with start := some a },
    { Log.Entry.blank with start := some b, queryTime := ⟨0x3FF8000000000000⟩ },
    { Log.Entry.blank with start := some c }]
  have ordinary : ∀ entry ∈ entries, ∀ t, entry.start = some t → t.isLeap = false := by
    simp [entries, a, b, c, Instant.isLeap, Log.Entry.blank]
  have timeline : intervals entries = [⟨0, a, a⟩, ⟨1, b, c⟩, ⟨2, c, c⟩] :=
    intervals_eq_of_pairwise (by decide +kernel) (by decide +kernel)
  have counts : (slices entries (Span.ofMilliseconds 1000)).map (List.map Slice.count) =
      .ok [2, 2] := by
    simp only [slices, timeline]
    decide +kernel
  obtain ⟨first, last, ss, found, histogram⟩ :=
    histogram_slices ordinary (by simp [timeline]) (w := 1000) (by decide)
  rw [found] at counts
  exact ⟨entries, first, last, ss, ordinary, by simp [timeline], found, Except.ok.inj counts,
    histogram⟩

end QueryFlow.Timeline
