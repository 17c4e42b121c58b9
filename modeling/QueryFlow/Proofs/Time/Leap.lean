import Mathlib.Tactic.ByContra
import Mathlib.Tactic.SplitIfs
import QueryFlow.Proofs.Time.Line

/-!
# Leap seconds and the end of time

An instant in a leap second has no position of its own on the line: the second after it starts where
the leap second does. So a span that takes an instant into a leap second is up to a second longer
than what the line has between them, and the time from a leap second to a later instant may be less
than none. This happens on one occasion: the leap second stands at the end of a day, and the later
instant in the first second of the next day.

## Why only there

A leap second is counted where the other instant has a later time of day. Within a day the later
instant has one. Over several days there are whole days in between, which make up for a second that
is not counted. What remains is an instant of the next day whose time of day is earlier; as soon as
it lies beyond the first second, that second makes up for the one that is not counted
(`since_neg_iff`). How much is lost is the difference between how far the two instants lie in their
seconds, and less than a second (`neg_lt_since`).

## The end of time

The line ends with the last instant, but a leap second stands behind that. It is the only place up
to which more time can pass than can be gone from an earlier instant: a span that is less than the
time up to some instant leads somewhere, unless that instant lies behind the last one
(`last_lt_of_add?_eq_none`). The proofs about movement go along the definition, which treats a leap
second as the second beside it as soon as it is left; `fraction` is what an instant has of that
second.

## Main results

* `neg_lt_since` and `since_lt`: the bounds of a span from an instant to a later one.
* `since_neg_iff` and `since_le_neg_iff`: when time passes backwards, and by how much.
* `le_of_add?_eq_some`: a span forward leads to no earlier instant.
* `last_lt_of_add?_eq_none`: if less than the time up to an instant cannot be gone, that instant
  lies behind the last one.
* `last_lt_of_add?_eq_some`: from an instant that is not behind the last one no span leads behind
  it.
-/

namespace QueryFlow.Time.Instant

variable {t u : Instant} {span : Span}

/-- **Time passes backwards by less than a second** from an instant to a later one. -/
theorem neg_lt_since (le : u ≤ t) : -1000000000 < t.since u := by
  have := t.second_lt
  have := u.second_lt
  have := u.nano_lt
  rw [le_iff] at le
  simp only [since, isLeap, decide_eq_true_eq]
  change (-1000000000 : Int) < _
  split_ifs <;> omega

/-- One instant lies in the leap second at the end of a day, and the other in the first second of
the next day, but not as far from the beginning of it. -/
def Slips (u t : Instant) : Prop :=
  u.isLeap = true ∧ u.second = 86399 ∧ t.day = u.day + 1 ∧ t.second = 0
    ∧ (if t.isLeap then t.nano else t.nano + 1000000000) < u.nano

/-- One instant lies in the leap second at the end of a day, and the other in the first second of
the next day, but by some nanoseconds less far from the beginning of it. -/
def SlipsBy (n : Nat) (u t : Instant) : Prop :=
  u.isLeap = true ∧ u.second = 86399 ∧ t.day = u.day + 1 ∧ t.second = 0
    ∧ (if t.isLeap then t.nano else t.nano + 1000000000) + n ≤ u.nano

/-- **Time passes backwards to a later instant only over the end of a day**, by as much as the one
is less far from the beginning of its second than the other. -/
theorem since_le_neg_iff (le : u ≤ t) {n : Nat} (some : 0 < n) :
    t.since u ≤ -(n : Int) ↔ SlipsBy n u t := by
  have := t.second_lt
  have := u.second_lt
  have := u.nano_lt
  rw [le_iff] at le
  simp only [since, SlipsBy, isLeap, decide_eq_true_eq]
  change (_ : Int) ≤ (_ : Int) ↔ _
  split_ifs <;> omega

/-- Time passes backwards if an instant slips by any time. -/
theorem since_neg_iff (le : u ≤ t) : t.since u < 0 ↔ Slips u t := by
  have back : t.since u < 0 ↔ t.since u ≤ -((1 : Nat) : Int) := by
    change (_ : Int) < (0 : Int) ↔ (_ : Int) ≤ -((1 : Nat) : Int)
    omega
  exact back.trans (since_le_neg_iff le Nat.one_pos)

/-- **A span is less than `2 ^ 54` milliseconds.** -/
theorem since_lt (t u : Instant) : t.since u < 18014398509481984 * 1000000 := by
  have := t.day_mem
  have := u.day_mem
  have := t.second_lt
  have := u.second_lt
  have := t.nano_lt
  have := u.nano_lt
  simp only [since, isLeap, decide_eq_true_eq, firstDay, lastDay] at *
  change (_ : Int) < _
  split_ifs <;> omega

/-- The empty span leads nowhere. -/
@[simp] theorem add?_zero (t : Instant) : t.add? 0 = some t := by
  cases leap : t.isLeap with
  | false =>
      refine (add?_eq_some_iff leap).2 ⟨leap, ?_⟩
      exact (Int.add_zero t.position).symm
  | true =>
      simp [add?, leap, Span.seconds, Span.beyondSeconds, ofParts?_eq_some_iff]

/-- **A span forward leads to no earlier instant**, not even from a leap second. -/
theorem le_of_add?_eq_some (forward : 0 ≤ span) (moved : t.add? span = some u) : t ≤ u := by
  have parts : span.seconds * 1000000000 + span.beyondSeconds = span :=
    Int.tdiv_mul_add_tmod span 1000000000
  have whole : 0 ≤ span.seconds := Int.tdiv_nonneg forward (by decide)
  have part : 0 ≤ span.beyondSeconds := Int.tmod_nonneg _ forward
  cases leap : t.isLeap with
  | false =>
      obtain ⟨ordinary, there⟩ := (add?_eq_some_iff leap).1 moved
      exact (le_iff_position_le leap ordinary).2 (by omega)
  | true =>
      have late : 1000000000 ≤ t.nano := by simpa [isLeap] using leap
      have := u.second_lt
      simp only [add?, leap, if_true, Int.not_lt.2 whole, if_false] at moved
      rw [le_iff]
      split at moved
      · -- the leap second is left, to the second beside it or to a later one
        obtain ⟨ordinary, there⟩ := atOffset?_eq_some_iff.1 moved
        rw [isLeap_eq_false_iff] at ordinary
        simp only [position] at there
        have := t.second_lt
        omega
      · obtain ⟨day, second, nano⟩ := ofParts?_eq_some_iff.1 moved
        omega

/-- What an instant has of its second, where a leap second counts as the second beside it. -/
def fraction (t : Instant) : Int := if t.isLeap then t.nano - 1000000000 else t.nano

/-- **A span forward is gone if the line has an instant where it leads**, unless it stays in a leap
second anyway. -/
theorem exists_add?_of_position {v : Instant} (forward : 0 ≤ span) (ordinary : v.isLeap = false)
    (there : v.position = (t.day * 86400 + t.second) * 1000000000 + t.fraction + span) :
    ∃ u, t.add? span = some u := by
  have parts : span.seconds * 1000000000 + span.beyondSeconds = span :=
    Int.tdiv_mul_add_tmod span 1000000000
  have whole : 0 ≤ span.seconds := Int.tdiv_nonneg forward (by decide)
  have part : 0 ≤ span.beyondSeconds := Int.tmod_nonneg _ forward
  cases leap : t.isLeap with
  | false =>
      simp only [fraction, leap, Bool.false_eq_true, if_false] at there
      exact ⟨v, (add?_eq_some_iff leap).2 ⟨ordinary, there⟩⟩
  | true =>
      simp only [fraction, leap, if_true] at there
      simp only [add?, leap, if_true, Int.not_lt.2 whole, if_false]
      split
      · exact ⟨v, atOffset?_eq_some_iff.2 ⟨ordinary, by omega⟩⟩
      · have := t.nano_lt
        refine ⟨⟨t.day, t.second, (t.nano + span.beyondSeconds).toNat, t.day_mem, t.second_lt,
          by omega⟩, ofParts?_eq_some_iff.2 ⟨rfl, rfl, rfl⟩⟩

/-- **If a span cannot be gone although it is less than the time up to an instant**, that instant
lies behind the last one. -/
theorem last_lt_of_add?_eq_none (forward : 0 ≤ span) (before : span < t.since u)
    (none : u.add? span = none) : last < t := by
  by_contra notPast
  -- the sum stands on the line, between the instants from which and up to which time passes
  obtain ⟨v, ordinary, there⟩ : ∃ v : Instant, v.isLeap = false
      ∧ v.position = (u.day * 86400 + u.second) * 1000000000 + u.fraction + span := by
    change (0 : Int) ≤ span at forward
    refine exists_position_eq (t := ⟨u.day, u.second, 0, u.day_mem, u.second_lt, by decide⟩)
      (v := last) rfl ?_ ?_
    · simp only [position, fraction, isLeap, decide_eq_true_eq]
      split <;> omega
    · have := t.day_mem
      have := t.second_lt
      have := t.nano_lt
      rw [lt_iff] at notPast
      simp only [since, isLeap, decide_eq_true_eq, position, fraction, last, firstDay,
        lastDay] at *
      change (_ : Int) < _ at before
      split_ifs at * <;> omega
  obtain ⟨w, moved⟩ := exists_add?_of_position forward ordinary there
  rw [none] at moved
  cases moved

/-- **No span leads behind the last instant** from an instant that is not behind it. -/
theorem last_lt_of_add?_eq_some (moved : t.add? span = some u) (past : last < u) : last < t := by
  have within (day second nano : Int) (there : atOffset? day second nano = some u) : False := by
    obtain ⟨ordinary, -⟩ := atOffset?_eq_some_iff.1 there
    have := u.day_mem
    have := u.second_lt
    rw [isLeap_eq_false_iff] at ordinary
    rw [lt_iff] at past
    simp only [last, lastDay] at *
    omega
  unfold add? at moved
  dsimp only at moved
  split at moved
  · next leap =>
    split at moved
    · exact (within _ _ _ moved).elim
    split at moved
    · exact (within _ _ _ moved).elim
    · have : 1000000000 ≤ t.nano := by simpa [isLeap] using leap
      have := u.day_mem
      have := u.second_lt
      obtain ⟨day, second, -⟩ := ofParts?_eq_some_iff.1 moved
      rw [lt_iff] at past ⊢
      simp only [last, lastDay] at *
      omega
  · exact (within _ _ _ moved).elim

end QueryFlow.Time.Instant
