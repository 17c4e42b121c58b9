import QueryFlow.Proofs.Log.History
import QueryFlow.Proofs.Time.Leap

/-!
# Whether time passes during a query of a history

A row is refused if its end comes before its start. How long the query ran is the time that passes
between the two, and the end of its entry lies as much later than the start. These do not go
together over the end of a day: from a leap second there to the first second of the next day, time
may pass backwards, by less than a second. Everywhere else an entry runs for no negative time and
ends no earlier than it starts.

## Where order and distance part

Instants are compared by day, second and fraction, where the fraction of a leap second is a second
or more. The time between two instants counts a leap second only if the other instant has a later
time of day. Between a leap second at the end of one day and the beginning of the next it is not
counted, and there an instant may come later and lie before the other all the same; exactly when it
does, and by how much, is the relation `SlipsBy` of the theory of leap seconds.

What is added here is the way from that difference to the double in the entry. The difference is cut
down to whole milliseconds, so that slipping by less than a millisecond leaves no trace; the double
has a sign if and only if the milliseconds are negative.

## Main results

* `milliseconds_neg_iff`: a span backwards of less than a millisecond has no milliseconds.
* `unsigned_secondsBetween_iff`: the sign of a time in seconds is that of its milliseconds.
* `elapsed_of_read`: **a query of a history runs for a negative time if and only if it slips over
  the end of a day**, and ends no earlier than it starts otherwise.
* `not_elapsed_of_read`: not every query of a history does.
-/

namespace QueryFlow.Log.History

open QueryFlow.Time

/-- The milliseconds of a span backwards are those of the same span forward. -/
theorem milliseconds_of_neg {span : Int} (back : span < 0) :
    Span.milliseconds span = -(-span / 1000000) := by
  have forward : Int.tdiv (-span) 1000000 = -span / 1000000 :=
    Int.tdiv_eq_ediv_of_nonneg (by omega)
  rw [Span.milliseconds, ← forward, Int.neg_tdiv, Int.neg_neg]

theorem milliseconds_nonneg {span : Int} (forward : 0 ≤ span) : 0 ≤ Span.milliseconds span :=
  Int.tdiv_nonneg forward (by decide)

/-- Less than a millisecond backwards is no millisecond. -/
theorem milliseconds_neg_iff {span : Int} : Span.milliseconds span < 0 ↔ span ≤ -1000000 := by
  rcases Int.lt_or_le span 0 with back | forward
  · rw [milliseconds_of_neg back]
    omega
  · have := milliseconds_nonneg forward
    omega

/-- Less than a second backwards is less than a thousand milliseconds. -/
theorem neg_lt_milliseconds {span : Int} (short : -1000000000 < span) :
    -1000 < Span.milliseconds span := by
  rcases Int.lt_or_le span 0 with back | forward
  · rw [milliseconds_of_neg back]
    omega
  · have := milliseconds_nonneg forward
    omega

/-- **A time that passes backwards by a millisecond is a double with a sign**; what is shorter
counts as no time. -/
theorem unsigned_secondsBetween_iff {start finish : Instant} :
    (secondsBetween start finish).Unsigned ↔ 0 ≤ (finish.since start).milliseconds := by
  refine ⟨fun unsigned => ?_, unsigned_secondsBetween⟩
  by_contra back
  have divisor : Entry.thousand.decode = .finite false 8796093022208000 (-43) := by decide +kernel
  exact Binary64.not_unsigned_ofInt_div (Int.not_le.1 back) divisor (by decide) unsigned

/-- **A query of a history runs for a negative time if and only if it slips over the end of a day**
by a millisecond, and then by less than a second. Otherwise it ends no earlier than it starts. -/
theorem elapsed_of_read {lines : List PhysicalLine} {entries : List Entry}
    (accepted : read lines = .ok entries) {e : Entry} (member : e ∈ entries) :
    ∃ k text row start finish, lines[k]? = some (some text) ∧ e.line = k + 1
      ∧ HistoryRow.read (dropLineFeed text) = .ok row ∧ row.Lasts start finish
      ∧ e.start = some start ∧ e.queryTime = secondsBetween start finish
      ∧ -1000 < (finish.since start).milliseconds
      ∧ (0 ≤ (finish.since start).milliseconds ↔ ¬ start.SlipsBy 1000000 finish)
      ∧ (e.queryTime.Unsigned ↔ ¬ start.SlipsBy 1000000 finish)
      ∧ (¬ start.SlipsBy 1000000 finish → ∀ ended, e.finish? = some ended → start ≤ ended) := by
  obtain ⟨k, text, row, stands, decoded, made⟩ := exists_row_of_mem_read accepted member
  obtain ⟨start, finish, lasts, rfl⟩ := entryOfRow_eq_ok_iff.1 made
  have le := lasts.2.2
  have forward : 0 ≤ (finish.since start).milliseconds ↔ ¬ start.SlipsBy 1000000 finish := by
    rw [← Instant.since_le_neg_iff le (by decide), ← Int.not_lt, not_iff_not]
    exact milliseconds_neg_iff
  have unsigned := unsigned_secondsBetween_iff.trans forward
  refine ⟨k, text, row, start, finish, stands, rfl, decoded, lasts, rfl, rfl,
    neg_lt_milliseconds (Instant.neg_lt_since le), forward, unsigned, fun stays ended ends => ?_⟩
  obtain ⟨ms, moved⟩ := exists_add?_of_finish? rfl (unsigned.2 stays) ends
  exact Instant.le_of_add?_eq_some (Int.mul_nonneg (Int.natCast_nonneg ms) (by decide)) moved

/-- A history of one entry is known by what is known of the entry. -/
theorem exists_read_of_one (lines : List PhysicalLine) (bits : UInt64) (first last : Instant)
    (one : (read lines).toOption.map (List.map fun e => (e.queryTime.bits, e.start, e.finish?))
      = some [(bits, some first, some last)]) :
    ∃ e, read lines = .ok [e] ∧ e.queryTime.bits = bits ∧ e.start = some first
      ∧ e.finish? = some last := by
  obtain ⟨entries, accepted, shown⟩ := toOption_map_eq_some_iff.1 one
  obtain ⟨e, rfl, same⟩ := List.map_eq_singleton_iff.1 shown
  obtain ⟨bits, ends⟩ := Prod.mk.inj same
  obtain ⟨starts, ends⟩ := Prod.mk.inj ends
  exact ⟨e, accepted, bits, starts, ends⟩

/-- A query from a leap second to the first second of the next day, of which it ends less early than
it started in the leap second, ends no earlier than it starts. -/
theorem elapsed_over_leap_second :
    ∃ (lines : List PhysicalLine) (e : Entry) (start ended : Instant), read lines = .ok [e]
      ∧ e.start = some start ∧ start.isLeap = true ∧ e.finish? = some ended ∧ start ≤ ended := by
  let lines : List PhysicalLine :=
    [some ("[1, 1, \"2016-12-31 23:59:60.5\", \"2017-01-01 00:00:00.9\", \"\", false, "
      ++ "\"select 1\"]")]
  let first : Instant := ⟨17166, 86399, 1500000000, by decide, by decide, by decide⟩
  let last : Instant := ⟨17166, 86399, 1900000000, by decide, by decide, by decide⟩
  obtain ⟨e, accepted, bits, starts, ends⟩ :=
    exists_read_of_one lines 0x3FD999999999999A first last (by decide +kernel)
  obtain ⟨_, _, _, start, finish, -, -, -, -, starts', -, -, -, unsigned, later⟩ :=
    elapsed_of_read accepted List.mem_cons_self
  have same : start = first := Option.some.inj (starts'.symm.trans starts)
  rw [same] at unsigned later
  have stays := unsigned.1 (by rw [Binary64.Unsigned, bits]; decide)
  exact ⟨lines, e, first, last, accepted, starts, rfl, ends, later stays last ends⟩

/-- **Not every query of a history runs for no negative time**, nor ends no earlier than it
starts. -/
theorem not_elapsed_of_read :
    (¬ ∀ lines entries, read lines = .ok entries → ∀ e ∈ entries, e.queryTime.Unsigned)
      ∧ ¬ ∀ lines entries, read lines = .ok entries → ∀ e ∈ entries, ∀ start ended,
        e.start = some start → e.finish? = some ended → start ≤ ended := by
  let lines : List PhysicalLine :=
    [some ("[1, 1, \"2016-12-31 23:59:60.9\", \"2017-01-01 00:00:00.5\", \"\", false, "
      ++ "\"select 1\"]")]
  let first : Instant := ⟨17166, 86399, 1900000000, by decide, by decide, by decide⟩
  let last : Instant := ⟨17166, 86399, 1500000000, by decide, by decide, by decide⟩
  obtain ⟨e, accepted, bits, starts, ends⟩ :=
    exists_read_of_one lines 0xBFD999999999999A first last (by decide +kernel)
  constructor
  · intro unsigned
    have := unsigned lines [e] accepted e List.mem_cons_self
    rw [Binary64.Unsigned, bits] at this
    exact absurd this (by decide)
  · intro later
    have := later lines [e] accepted e List.mem_cons_self first last starts ends
    exact absurd this (by decide)

end QueryFlow.Log.History
