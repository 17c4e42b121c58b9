import QueryFlow.Time.Instant
import QueryFlow.Number.Binary64

/-!
# Entries of a query log

An entry is one executed query: who ran it, from where and over which connection, when it started
and how long it took, what it cost in rows, and its text with the line of the log that holds it.
Both kinds of logs are read into entries, and whatever is asked of a log later is asked of entries.

How long a query ran is kept as it was written, as a double of seconds. As a span of time it is
counted in whole milliseconds: the double is multiplied by a thousand, rounded half away from zero,
and is absent where a span cannot hold the result. The end of a query is its start and this span,
where there are both and an instant can hold the sum.
-/

namespace QueryFlow.Log

open QueryFlow.Time

/-- One executed query. A start is absent only in an entry that did not come from a log. -/
structure Entry where
  /-- When the query started. -/
  start : Option Instant
  /-- The account that ran the query. -/
  user : String
  /-- The name of the client's machine. -/
  host : String
  /-- The network address of the client. -/
  address : String
  /-- The connection that the query came over. -/
  connection : String
  /-- How long the query ran, in seconds. -/
  queryTime : Binary64
  /-- How long the query waited for locks, in seconds. -/
  lockTime : Binary64
  /-- The number of rows returned. -/
  rowsSent : Nat
  /-- The number of rows looked at. -/
  rowsExamined : Nat
  /-- The text of the query. -/
  sql : String
  /-- The line of the log that holds the text, from one. -/
  line : Nat
deriving DecidableEq

namespace Entry

/-- An entry of which nothing is known: no start, empty texts, and zero for every number. -/
def blank : Entry := ⟨none, "", "", "", "", ⟨0⟩, ⟨0⟩, 0, 0, "", 0⟩

instance : Inhabited Entry := ⟨blank⟩

/-- The double 1000. -/
def thousand : Binary64 := ⟨0x408F400000000000⟩

/-- The first count of milliseconds that a span cannot hold. A span has 64 bits for them, and the
negative counts reach no further than the positive ones. -/
def millisecondLimit : Nat := 9223372036854775808

/-- How long the query ran, in whole milliseconds: a thousand times the double of seconds, rounded
to the nearest whole number, a half away from zero. It is absent if the double is no number or the
milliseconds do not fit in a span. -/
def duration? (e : Entry) : Option Span :=
  match (e.queryTime.mul thousand).roundHalfAway with
  | none => none
  | some ms => if millisecondLimit ≤ ms.natAbs then none else some (Span.ofMilliseconds ms)

/-- When the query ended: its start and its duration, unless one of them is absent or the sum is
behind the last instant. -/
def finish? (e : Entry) : Option Instant := do
  let start ← e.start
  let duration ← e.duration?
  start.add? duration

end Entry

end QueryFlow.Log
