import QueryFlow.Log.History
import QueryFlow.Proofs.Number.Digits
import QueryFlow.Proofs.Number.Sign
import QueryFlow.Proofs.Outcome
import QueryFlow.Proofs.Time.Line

/-!
# How long the queries of a history ran

The entry of a row starts when the row does. It runs for the whole milliseconds between the ends of
the row, a number of seconds that has gone through a double on the way, so that its own end lies a
whole number of milliseconds after its start and never before it.

## From a line to an entry

Which rows have an entry is said by `HistoryRow.Lasts`: both ends can be read, and the end is not
before the start. What the entry is then follows (`entryOfRow_eq_ok_iff`), and every entry of a
history that is read is traced back to a line, a row and its number by induction on the lines.

## Through the double and back

The milliseconds of an entry are computed from its double of seconds, and rounding makes it hard to
say which number comes back. It is enough to know its sign: the quotient of a number that is not
negative has no sign, a product of such doubles has none either, and rounding one without a sign
gives a number that is not negative. So the end of an entry lies some whole milliseconds behind the
start, without saying how many.

## Main results

* `entryOfRow_eq_ok_iff`: which rows have an entry, and what it is.
* `exists_row_of_mem_read`: every entry of a history stands for the row of a line.
* `finish?_of_mem_read`: an entry ends some whole milliseconds after its start.
-/

namespace QueryFlow.Log

open QueryFlow.Time

/-- The query of the row lasted from one instant to another, which is not before it. White space
around a time stamp does not count. -/
def HistoryRow.Lasts (row : HistoryRow) (start finish : Instant) : Prop :=
  Instant.read? (Text.trimChars row.startTime.toList) = some start
    ∧ Instant.read? (Text.trimChars row.endTime.toList) = some finish ∧ start ≤ finish

namespace History

/-- The entry of the row on a line: what the row says, and nothing else. -/
def EntryOf (line : Nat) (row : HistoryRow) (e : Entry) : Prop :=
  ∃ start finish, row.Lasts start finish
    ∧ e = { Entry.blank with
        start := some start
        user := toString row.userId
        connection := toString row.queryId
        queryTime := secondsBetween start finish
        sql := Text.trim row.query
        line := line }

theorem timestamp_eq_ok_iff {line : Nat} {value : String} {t : Instant} :
    timestamp line value = .ok t ↔ Instant.read? (Text.trimChars value.toList) = some t := by
  cases found : Instant.read? (Text.trimChars value.toList) <;> simp [timestamp, found]

/-- **A row has an entry if its ends can be read and are in order.** -/
theorem entryOfRow_eq_ok_iff {line : Nat} {row : HistoryRow} {entry : Entry} :
    entryOfRow line row = .ok entry ↔ EntryOf line row entry := by
  constructor
  · intro made
    obtain ⟨start, first, made⟩ := bind_eq_ok_iff.1 made
    obtain ⟨finish, last, made⟩ := bind_eq_ok_iff.1 made
    split at made
    · cases made
    · next forward =>
      injection made with same
      subst same
      refine ⟨start, finish, ⟨timestamp_eq_ok_iff.1 first, timestamp_eq_ok_iff.1 last,
        Instant.le_of_compare_ne_lt (by simpa using forward)⟩, ?_⟩
      rw [Decimal.intText_eq_toString, Decimal.intText_eq_toString]
  · rintro ⟨start, finish, ⟨first, last, le⟩, rfl⟩
    have forward : ¬ (finish.compare start == .lt) = true := by
      simpa using Instant.compare_ne_lt_iff.2 le
    rw [entryOfRow, timestamp_eq_ok_iff.2 first, ok_bind, timestamp_eq_ok_iff.2 last, ok_bind,
      if_neg forward, Decimal.intText_eq_toString, Decimal.intText_eq_toString]

/-- A line stands for no entry, or for that of the row it holds. -/
theorem exists_row_of_entryOfLine? {number : Nat} {line : PhysicalLine} {entry : Entry}
    (h : entryOfLine? number line = .ok (some entry)) :
    ∃ text row, line = some text ∧ HistoryRow.read (dropLineFeed text) = .ok row
      ∧ entryOfRow number row = .ok entry := by
  unfold entryOfLine? at h
  split at h
  · cases h
  · next text =>
    dsimp only at h
    split at h
    · cases h
    · split at h
      · cases h
      · next row found =>
        split at h
        · cases h
        · obtain ⟨_, made, same⟩ := map_eq_ok_iff.1 h
          exact ⟨text, row, rfl, found, Option.some.inj same ▸ made⟩

theorem exists_row_of_mem_readFrom {number : Nat} {lines : List PhysicalLine}
    {entries : List Entry} (h : readFrom number lines = .ok entries) {entry : Entry}
    (member : entry ∈ entries) :
    ∃ k text row, lines[k]? = some (some text) ∧ HistoryRow.read (dropLineFeed text) = .ok row
      ∧ entryOfRow (number + k) row = .ok entry := by
  induction lines generalizing number entries with
  | nil =>
      injection h with same
      simp [← same] at member
  | cons line rest ih =>
      rw [readFrom] at h
      split at h
      · cases h
      · next first found =>
        split at h
        · cases h
        · next others more =>
          injection h with same
          subst same
          rcases List.mem_append.1 member with here | later
          · rw [Option.mem_toList] at here
            obtain ⟨text, row, rfl, holds, made⟩ := exists_row_of_entryOfLine? (here ▸ found)
            exact ⟨0, text, row, rfl, holds, made⟩
          · obtain ⟨k, text, row, stands, holds, made⟩ := ih more later
            exact ⟨k + 1, text, row, stands, holds, by rwa [← Nat.succ_add_eq_add_succ]⟩

/-- **Every entry of a history stands for the row of a line.** -/
theorem exists_row_of_mem_read {lines : List PhysicalLine} {entries : List Entry}
    (h : read lines = .ok entries) {entry : Entry} (member : entry ∈ entries) :
    ∃ k text row, lines[k]? = some (some text) ∧ HistoryRow.read (dropLineFeed text) = .ok row
      ∧ entryOfRow (k + 1) row = .ok entry := by
  obtain ⟨k, text, row, stands, holds, made⟩ := exists_row_of_mem_readFrom h member
  exact ⟨k, text, row, stands, holds, by rwa [Nat.add_comm]⟩

/-- The entry of a row has the text of the row, without the blanks around it. -/
theorem text_of_entryOfRow {line : Nat} {row : HistoryRow} {entry : Entry}
    (h : entryOfRow line row = .ok entry) : entry.sql = Text.trim row.query ∧ entry.line = line := by
  obtain ⟨_, _, -, rfl⟩ := entryOfRow_eq_ok_iff.1 h
  exact ⟨rfl, rfl⟩

/-- The entry of a row starts with the row, and runs for the time up to the end of the row, which is
not before the start. -/
theorem ends_of_entryOfRow {line : Nat} {row : HistoryRow} {entry : Entry}
    (h : entryOfRow line row = .ok entry) :
    ∃ start finish, start ≤ finish ∧ entry.start = some start
      ∧ entry.queryTime = secondsBetween start finish := by
  obtain ⟨start, finish, ⟨-, -, le⟩, rfl⟩ := entryOfRow_eq_ok_iff.1 h
  exact ⟨start, finish, le, rfl, rfl⟩

/-- A time that does not pass backwards by a millisecond is a double without a sign. -/
theorem unsigned_secondsBetween {start finish : Instant}
    (forward : 0 ≤ (finish.since start).milliseconds) : (secondsBetween start finish).Unsigned :=
  (Binary64.unsigned_ofInt forward).div (by decide)

/-- A time without a sign is a number of milliseconds that is not negative. -/
theorem duration?_of_unsigned {entry : Entry} {duration : Span}
    (unsigned : entry.queryTime.Unsigned) (found : entry.duration? = some duration) :
    ∃ ms : Nat, duration = Span.ofMilliseconds ms := by
  unfold Entry.duration? at found
  split at found
  · cases found
  · next ms rounds =>
    have nonneg := (unsigned.mul (y := Entry.thousand) (by decide)).roundHalfAway_nonneg rounds
    split at found
    · cases found
    · injection found with same
      exact ⟨ms.toNat, by rw [← same, Int.toNat_of_nonneg nonneg]⟩

/-- An entry that ran for a time without a sign ends some whole milliseconds after its start. -/
theorem exists_add?_of_finish? {entry : Entry} {start finish : Instant}
    (starts : entry.start = some start) (unsigned : entry.queryTime.Unsigned)
    (ends : entry.finish? = some finish) :
    ∃ ms : Nat, start.add? (Span.ofMilliseconds ms) = some finish := by
  rw [Entry.finish?, starts, Option.bind_eq_bind, Option.bind_some] at ends
  obtain ⟨duration, found, moved⟩ := Option.bind_eq_some_iff.1 ends
  obtain ⟨ms, rfl⟩ := duration?_of_unsigned unsigned found
  exact ⟨ms, moved⟩

/-- **An entry of a history ends some whole milliseconds after its start**, if that is an ordinary
instant. -/
theorem finish?_of_mem_read {lines : List PhysicalLine} {entries : List Entry}
    (h : read lines = .ok entries) {entry : Entry} (member : entry ∈ entries)
    {start finish : Instant}
    (starts : entry.start = some start) (ordinary : start.isLeap = false)
    (ends : entry.finish? = some finish) :
    ∃ ms : Nat, finish.position = start.position + ms * 1000000 := by
  obtain ⟨_, _, row, -, -, made⟩ := exists_row_of_mem_read h member
  obtain ⟨first, last, le, starts', time⟩ := ends_of_entryOfRow made
  obtain rfl : first = start := Option.some.inj (starts'.symm.trans starts)
  have unsigned : entry.queryTime.Unsigned := time ▸ unsigned_secondsBetween
    (Int.tdiv_nonneg (Instant.since_nonneg ordinary le) (by decide))
  obtain ⟨ms, moved⟩ := exists_add?_of_finish? starts unsigned ends
  exact ⟨ms, ((Instant.add?_eq_some_iff ordinary).1 moved).2⟩

end History

end QueryFlow.Log
