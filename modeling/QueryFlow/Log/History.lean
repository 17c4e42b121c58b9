import QueryFlow.Fault
import QueryFlow.Log.Entry
import QueryFlow.Log.HistoryRow
import QueryFlow.Log.Lines
import QueryFlow.Time.Stamp

/-!
# Query histories

A query history holds one row on each line. Blank lines are passed over but counted, and so are the
rows of aborted queries. Time stamps are in universal time.

* `entryOfRow` — the entry that a row stands for;
* `read` — a whole history.

A row says when a query started and when it ended, and the entry says how long it ran. The time
between the two is counted in whole milliseconds and divided by a thousand as a double, which is
what the entry of a slow log carries too. A row whose end comes before its start is refused, and so
is one whose time stamps cannot be read; both faults name the line and what was written there.

What a history does not say of a query is left as in a blank entry: its host, its address, and the
numbers of rows. The text of the query is that of the row without the white space around it.
-/

namespace QueryFlow.Log.History

open QueryFlow.Text QueryFlow.Time

/-- Reads a time stamp, which may have white space around it. -/
def timestamp (line : Nat) (value : String) : Except Fault Instant :=
  let trimmed := trimChars value.toList
  match Instant.read? trimmed with
  | some t => .ok t
  | none => .error (.history line (.timestamp (String.ofList trimmed)))

/-- How long a query ran, in seconds, from the whole milliseconds between its ends. It is negative
where time passes backwards between them, as it may over a leap second. -/
def secondsBetween (start finish : Instant) : Binary64 :=
  (Binary64.ofInt (finish.since start).milliseconds).div Entry.thousand

/-- The entry that the row on a line stands for. Both time stamps are read before their order is
looked at, so that a row with two faults is refused for its start. -/
def entryOfRow (line : Nat) (row : HistoryRow) : Except Fault Entry := do
  let start ← timestamp line row.startTime
  let finish ← timestamp line row.endTime
  if finish.compare start == .lt then
    .error (.history line (.reversed row.endTime row.startTime))
  else
    .ok { Entry.blank with
      start := some start
      user := Decimal.intText row.userId
      connection := Decimal.intText row.queryId
      queryTime := secondsBetween start finish
      sql := trim row.query
      line := line }

/-- The entry of a line, if it has one. A blank line has none and need not hold a row; the row of an
aborted query has none, but must be one. -/
def entryOfLine? (number : Nat) (line : PhysicalLine) : Except Fault (Option Entry) :=
  match line with
  | none => .error (.io .notText)
  | some line =>
    let text := dropLineFeed line
    if isBlankText text then .ok none
    else
      match HistoryRow.read text with
      | .error flaw => .error (.history number (.row text flaw))
      | .ok row =>
        if row.aborted then .ok none else (entryOfRow number row).map some

/-- Reads the lines from a number on, up to the first fault. Every line counts, whether it has an
entry or not. -/
def readFrom : (number : Nat) → List PhysicalLine → Except Fault (List Entry)
  | _, [] => .ok []
  | number, line :: rest =>
    match entryOfLine? number line with
    | .error fault => .error fault
    | .ok entry =>
      match readFrom (number + 1) rest with
      | .error fault => .error fault
      | .ok entries => .ok (entry.toList ++ entries)

/-- Reads a history. -/
def read (lines : List PhysicalLine) : Except Fault (List Entry) := readFrom 1 lines

end QueryFlow.Log.History
