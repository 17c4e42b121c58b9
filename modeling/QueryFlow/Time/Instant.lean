import QueryFlow.Time.Calendar

/-!
# Instants and spans of time

An instant is a day, a second of that day and a nanosecond within the second. The nanosecond may run
past one thousand million: such an instant lies in the leap second that follows the named second,
and the second after it still has the number it would have without the leap second.

Spans are whole numbers of nanoseconds.

* `Instant.compare` orders instants by day, second and nanosecond;
* `Instant.since` is the span between two instants. A leap second counts only when the other instant
  has a later time of day;
* `Instant.add?` moves an instant. A move that stays inside a leap second keeps the second, and any
  other move first leaves the leap second for the ordinary second it stands beside.

Order, distance and movement go together for ordinary instants, which stand on one line of
nanoseconds. With leap seconds they come apart, each in its own way. The definitions keep to this:
each of the three is written out with the cases that it distinguishes, and none is defined through
another one.

Only finitely many days can be named, so that a move may lead nowhere; then there is no instant, and
it depends on who asked for it what becomes of that.

Main statement: `Instant.since_of_ordinary`, without leap seconds the span is the difference of the
two positions on the line of nanoseconds.
-/

namespace QueryFlow.Time

/-- A span of time in nanoseconds. -/
abbrev Span := Int

namespace Span

/-- A span of whole milliseconds. -/
def ofMilliseconds (n : Int) : Span := n * 1000000

/-- The whole milliseconds of a span, toward zero. -/
def milliseconds (s : Span) : Int := Int.tdiv s 1000000

/-- The whole seconds of a span, toward zero. -/
def seconds (s : Span) : Int := Int.tdiv s 1000000000

/-- What a span has beyond its whole seconds, in nanoseconds and with the sign of the span. -/
def beyondSeconds (s : Span) : Int := Int.tmod s 1000000000

/-- The most milliseconds that a span can count. -/
def limit : Int := 9223372036854775807

theorem milliseconds_ofMilliseconds (n : Int) : milliseconds (ofMilliseconds n) = n := by
  unfold milliseconds ofMilliseconds
  exact Int.mul_tdiv_cancel n (by decide)

end Span

/-- The first day that an instant can name, 1 January of the year -262143. -/
def firstDay : Int := -96465292

/-- The last day that an instant can name, 31 December of the year 262142. -/
def lastDay : Int := 95026236

/-- A point of time. -/
structure Instant where
  /-- The day, counted from 1970-01-01. -/
  day : Int
  /-- The second of the day. -/
  second : Nat
  /-- The nanosecond of the second, or of the leap second after it. -/
  nano : Nat
  /-- The day is one of those that can be named. -/
  day_mem : firstDay ≤ day ∧ day ≤ lastDay
  /-- A day has 86400 seconds. -/
  second_lt : second < 86400
  /-- A second and the leap second behind it have two thousand million nanoseconds. -/
  nano_lt : nano < 2000000000
deriving DecidableEq

namespace Instant

/-- The beginning of 1970. -/
instance : Inhabited Instant := ⟨⟨0, 0, 0, by decide, by decide, by decide⟩⟩

/-- The instant with these parts, if they name one: the day must be one of those that can be named.
The parts may stand for a leap second behind any second, not only behind the last one of a minute.
-/
def ofParts? (day : Int) (second nano : Nat) : Option Instant :=
  if h : (firstDay ≤ day ∧ day ≤ lastDay) ∧ second < 86400 ∧ nano < 2000000000 then
    some ⟨day, second, nano, h.1, h.2.1, h.2.2⟩
  else none

/-- The instant a number of seconds after the beginning of 1970, and some nanoseconds. A nanosecond
count from one thousand million up asks for a leap second, which stands only behind the last second
of a minute. -/
def ofSeconds? (seconds : Int) (nano : Nat) : Option Instant :=
  let second := (seconds % 86400).toNat
  if 1000000000 ≤ nano && second % 60 != 59 then none else ofParts? (seconds / 86400) second nano

/-- The last instant. -/
def last : Instant := ⟨lastDay, 86399, 999999999, by decide, by decide, by decide⟩

/-- The instant lies in a leap second. -/
def isLeap (t : Instant) : Bool := 1000000000 ≤ t.nano

/-- Instants in order: by day, then by second, then by nanosecond. -/
def compare (t u : Instant) : Ordering :=
  (Ord.compare t.day u.day).then ((Ord.compare t.second u.second).then (Ord.compare t.nano u.nano))

instance : Ord Instant := ⟨Instant.compare⟩

instance : LE Instant := leOfOrd

instance : LT Instant := ltOfOrd

/-- The span from `u` to `t`. If one of them lies in a leap second, that second counts where the
other one has a later time of day, whatever the days are; so between the leap second at the end of a
day and the next day it does not count. -/
def since (t u : Instant) : Span :=
  let leap : Int :=
    if u.second < t.second then if u.isLeap then 1 else 0
    else if t.second < u.second then if t.isLeap then -1 else 0
    else 0
  ((t.day - u.day) * 86400 + ((t.second : Int) - u.second) + leap) * 1000000000 +
    ((t.nano : Int) - u.nano)

/-- The instant at a second and nanosecond counted from the start of a day, both of which may lie
outside the day and the second. -/
def atOffset? (day second nano : Int) : Option Instant :=
  let total := second + nano / 1000000000
  ofParts? (day + total / 86400) (total % 86400).toNat (nano % 1000000000).toNat

/-- The instant a span after `t`, if it can be named. A move by whole seconds, or one that reaches
the end of the leap second, leaves the leap second: forward it goes on from the second that the leap
second follows, and backward from the one behind it. -/
def add? (t : Instant) (span : Span) : Option Instant :=
  let whole := span.seconds
  let part := span.beyondSeconds
  if t.isLeap then
    if 0 < whole ∨ (0 < part ∧ 2000000000 ≤ (t.nano : Int) + part) then
      atOffset? t.day ((t.second : Int) + whole) ((t.nano : Int) - 1000000000 + part)
    else if whole < 0 then
      atOffset? t.day ((t.second : Int) + 1 + whole) ((t.nano : Int) - 1000000000 + part)
    else ofParts? t.day t.second ((t.nano : Int) + part).toNat
  else atOffset? t.day ((t.second : Int) + whole) ((t.nano : Int) + part)

/-- The nanoseconds from the beginning of 1970 to the instant, leap seconds apart. -/
def position (t : Instant) : Int :=
  (t.day * 86400 + (t.second : Int)) * 1000000000 + (t.nano : Int)

/-- **Without leap seconds the span between two instants is the difference of their positions.** -/
theorem since_of_ordinary {t u : Instant} (ht : t.isLeap = false) (hu : u.isLeap = false) :
    t.since u = t.position - u.position := by
  simp only [since, ht, hu, Bool.false_eq_true, if_false, ite_self, position]
  change @Eq Int _ _
  omega

end Instant

end QueryFlow.Time
