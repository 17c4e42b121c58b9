import QueryFlow.Time.Instant

/-!
# Ordinary instants on a line

Instants are in one order, leap seconds and all. Those outside of leap seconds are *ordinary*. They
stand on a line of nanoseconds, each at its position, and everything about them can be said of
positions: their order, the span between two of them, and where a span takes one of them. The line
has a first and a last position, and an ordinary instant stands at every position between two
others.

So a statement about ordinary instants is turned into one about whole numbers by rewriting with the
theorems below, and is left to arithmetic from there on. What makes this work is that day and second
of a position can be found again by division, as the nanosecond of an ordinary instant is less than
a second.

One fact is about instants of either kind: no time passes backwards from an ordinary instant to a
later one, which may lie in a leap second. The cases in which time does pass backwards all start in
a leap second and are the subject of the theory of leap seconds.

## Main results

* `le_iff_position_le` and `lt_iff_position_lt`: ordinary instants are in the order of their
  positions.
* `add?_eq_some_iff`: a span takes an ordinary instant to the one at the sum.
* `exists_add?`: it takes it to some instant if the sum is not past another one.
* `since_nonneg`: no time passes backwards from an ordinary instant to a later one.
-/

namespace QueryFlow.Time.Instant

variable {t u v : Instant} {span : Span}

/-! ### Order -/

/-- Instants in order: by day, then by second, then by nanosecond. -/
theorem le_iff : t ≤ u ↔ t.day < u.day ∨ t.day = u.day
    ∧ (t.second < u.second ∨ t.second = u.second ∧ t.nano ≤ u.nano) := by
  change (t.compare u).isLE ↔ _
  simp only [compare, Ordering.isLE_then_iff_or, Int.compare_eq_lt, Int.compare_eq_eq,
    Nat.compare_eq_lt, Nat.compare_eq_eq, Nat.isLE_compare]

protected theorem le_refl (t : Instant) : t ≤ t := by
  simp [le_iff]

protected theorem le_trans (first : t ≤ u) (second : u ≤ v) : t ≤ v := by
  rw [le_iff] at *
  omega

protected theorem le_total (t u : Instant) : t ≤ u ∨ u ≤ t := by
  simp only [le_iff]
  omega

/-- The nanosecond of an ordinary instant is below one thousand million. -/
theorem isLeap_eq_false_iff : t.isLeap = false ↔ t.nano < 1000000000 := by
  simp [isLeap]

/-- **Ordinary instants are in the order of their positions.** -/
theorem le_iff_position_le (ht : t.isLeap = false) (hu : u.isLeap = false) :
    t ≤ u ↔ t.position ≤ u.position := by
  have := t.second_lt
  have := u.second_lt
  rw [isLeap_eq_false_iff] at ht hu
  rw [le_iff]
  simp only [position]
  omega

instance (t u : Instant) : Decidable (t ≤ u) :=
  inferInstanceAs (Decidable ((t.compare u).isLE = true))

instance (t u : Instant) : Decidable (t < u) := inferInstanceAs (Decidable (t.compare u = .lt))

theorem lt_iff : t < u ↔ t.day < u.day ∨ t.day = u.day
    ∧ (t.second < u.second ∨ t.second = u.second ∧ t.nano < u.nano) := by
  change t.compare u = .lt ↔ _
  simp only [compare, Ordering.then_eq_lt, Int.compare_eq_lt, Int.compare_eq_eq,
    Nat.compare_eq_lt, Nat.compare_eq_eq]

/-- An instant that is not after another one comes before it or is the same. -/
protected theorem lt_or_eq_of_le (le : t ≤ u) : t < u ∨ t = u := by
  rw [le_iff] at le
  rw [lt_iff]
  by_cases same : t.day = u.day ∧ t.second = u.second ∧ t.nano = u.nano
  · obtain ⟨day, second, nano⟩ := same
    exact .inr (by cases t; cases u; simp_all)
  · exact .inl (by omega)

/-- **Of two ordinary instants the one that comes before the other stands before it.** -/
theorem lt_iff_position_lt (ht : t.isLeap = false) (hu : u.isLeap = false) :
    t < u ↔ t.position < u.position := by
  have := t.second_lt
  have := u.second_lt
  rw [isLeap_eq_false_iff] at ht hu
  rw [lt_iff]
  simp only [position]
  omega

/-- Ordinary instants at one position are one instant. -/
theorem eq_iff_position_eq (ht : t.isLeap = false) (hu : u.isLeap = false) :
    t = u ↔ t.position = u.position := by
  have := t.second_lt
  have := u.second_lt
  rw [isLeap_eq_false_iff] at ht hu
  obtain ⟨day, second, nano, _, _, _⟩ := t
  obtain ⟨day', second', nano', _, _, _⟩ := u
  simp only [position, mk.injEq] at *
  omega

/-- No ordinary instant stands behind the last one. -/
theorem position_le_last (ht : t.isLeap = false) : t.position ≤ last.position := by
  have := t.day_mem
  have := t.second_lt
  rw [isLeap_eq_false_iff] at ht
  simp only [position, last, firstDay, lastDay] at *
  omega

/-- Of two instants the one that does not come before the other comes after it, or is the same. -/
theorem compare_ne_lt_iff : t.compare u ≠ .lt ↔ u ≤ t := by
  change ¬ t < u ↔ u ≤ t
  rw [lt_iff, le_iff]
  omega

/-- Of two instants the one that does not come before the other comes after it. -/
theorem le_of_compare_ne_lt (notBefore : t.compare u ≠ .lt) : u ≤ t :=
  compare_ne_lt_iff.1 notBefore

/-- **No time passes backwards from an ordinary instant to a later one**, which may lie in a leap
second. -/
theorem since_nonneg (hu : u.isLeap = false) (le : u ≤ t) : 0 ≤ t.since u := by
  have := t.second_lt
  have := u.second_lt
  rw [le_iff] at le
  simp only [since, hu]
  rw [isLeap_eq_false_iff] at hu
  change (0 : Int) ≤ _
  split
  · split <;> omega
  · split
    · split
      · next leap =>
        have : 1000000000 ≤ t.nano := by simpa [isLeap] using leap
        omega
      · omega
    · omega

/-! ### Moving along the line -/

theorem ofParts?_eq_some_iff {day : Int} {second nano : Nat} :
    ofParts? day second nano = some u ↔ u.day = day ∧ u.second = second ∧ u.nano = nano := by
  unfold ofParts?
  split
  · next h =>
    obtain ⟨day', second', nano', _, _, _⟩ := u
    simp [eq_comm]
  · next h =>
    simp only [reduceCtorEq, false_iff]
    rintro ⟨rfl, rfl, rfl⟩
    exact h ⟨u.day_mem, u.second_lt, u.nano_lt⟩

/-- The instant at an offset stands at the sum of the offsets, if there is one. -/
theorem atOffset?_eq_some_iff {day second nano : Int} :
    atOffset? day second nano = some u ↔
      u.isLeap = false ∧ u.position = (day * 86400 + second) * 1000000000 + nano := by
  have := u.second_lt
  simp only [atOffset?, ofParts?_eq_some_iff, isLeap_eq_false_iff, position]
  omega

/-- **A span takes an ordinary instant to the one at the sum**, if there is one. -/
theorem add?_eq_some_iff (ht : t.isLeap = false) :
    t.add? span = some u ↔ u.isLeap = false ∧ u.position = t.position + span := by
  have parts : span.seconds * 1000000000 + span.beyondSeconds = span :=
    Int.tdiv_mul_add_tmod span 1000000000
  simp only [add?, ht, Bool.false_eq_true, if_false, atOffset?_eq_some_iff]
  refine and_congr_right fun _ => ?_
  simp only [position]
  omega

/-- What is left of a move after its first part. -/
theorem add?_of_add?_add {rest : Span} (ht : t.isLeap = false) (part : t.add? span = some u)
    (whole : t.add? (span + rest) = some v) : u.add? rest = some v := by
  obtain ⟨hu, here⟩ := (add?_eq_some_iff ht).1 part
  obtain ⟨hv, there⟩ := (add?_eq_some_iff ht).1 whole
  exact (add?_eq_some_iff hu).2 ⟨hv, by omega⟩

/-- An ordinary instant stands at every position between those of two others. -/
theorem exists_position_eq {p : Int} (hv : v.isLeap = false) (low : t.position ≤ p)
    (high : p ≤ v.position) : ∃ u : Instant, u.isLeap = false ∧ u.position = p := by
  have day_mem : firstDay ≤ p / 86400000000000 ∧ p / 86400000000000 ≤ lastDay := by
    have := t.day_mem
    have := v.day_mem
    have := v.second_lt
    rw [isLeap_eq_false_iff] at hv
    simp only [position] at low high
    omega
  refine ⟨⟨p / 86400000000000, (p / 1000000000 % 86400).toNat, (p % 1000000000).toNat, day_mem,
    by omega, by omega⟩, ?_, ?_⟩
  · simp only [isLeap_eq_false_iff]
    omega
  · simp only [position]
    omega

/-- **A span takes an ordinary instant to another one** if the sum is not past some instant. -/
theorem exists_add? (ht : t.isLeap = false) (hv : v.isLeap = false) (low : 0 ≤ span)
    (high : t.position + span ≤ v.position) : ∃ u, t.add? span = some u := by
  have start : t.position ≤ t.position + span := Int.le_add_of_nonneg_right low
  obtain ⟨u, ordinary, there⟩ := exists_position_eq hv start high
  exact ⟨u, (add?_eq_some_iff ht).2 ⟨ordinary, there⟩⟩

end QueryFlow.Time.Instant
