import QueryFlow.Fault
import QueryFlow.Timeline.Interval

/-!
# How many queries ran at a time

The time from the earliest start to the latest end is cut into slices of one width, and every slice
counts the queries that run in it. A query that takes no time, or that ends before it starts, runs
in the slice of its start. There is at least one slice as soon as there is a query.

## Milliseconds and places

Everything is counted in whole milliseconds from the earliest start on. The offsets of a query are
divided by the width, once rounding down for the slice of its start and once rounding up for that of
its end. The quotients are then taken for places of slices, which are words of 64 bits: a number
below zero stands for one far above all slices, and a place behind the last slice is the last slice.

## What can go wrong

A width of less than a millisecond is refused. A slice whose start cannot be named is a breach, and
so is an interval whose last slice lies before its first one, which would be a range that runs
backwards. The end of a slice is never a breach: where the width takes it past the last instant, it
is the last instant.

Main statement: `ceilDiv_le`, the quotient that is rounded up stays below the next whole number.
-/

namespace QueryFlow.Timeline

open QueryFlow.Time

/-- A slice of time, and how many queries run in it. -/
structure Slice where
  start : Instant
  finish : Instant
  count : Nat
deriving DecidableEq

/-- The quotient of two numbers, toward zero, and one more if the division leaves something over.
For a dividend that is not negative this rounds up; below zero it gives one more than the quotient
toward zero, which is not the next whole number above. -/
def ceilDiv (n d : Int) : Int := Int.tdiv n d + if Int.tmod n d = 0 then 0 else 1

/-- The place that a number names in a word of 64 bits: negative numbers wrap around. -/
def place (n : Int) : Nat := (n % 18446744073709551616).toNat

/-- The later one of two instants, the second one if neither is later. -/
def later (t u : Instant) : Instant := if (t.compare u).isLE then u else t

/-- The earliest start and the latest end of intervals in the order of their starts. -/
def bounds? : List Interval → Option (Instant × Instant)
  | [] => none
  | i :: is => some (i.start, is.foldl (fun t i => later t i.finish) i.finish)

/-- The number of slices between two instants, for a width in milliseconds. -/
def sliceCount (first last : Instant) (step : Int) : Nat :=
  max 1 (ceilDiv (max 0 (last.since first).milliseconds) step).toNat

/-- The start and the end of the slice at an index. Its end is the last instant if the width takes
it past that. -/
def frame (first : Instant) (width : Span) (index : Nat) : Except Fault (Instant × Instant) :=
  match first.add? (Span.ofMilliseconds (index * width.milliseconds)) with
  | some start => .ok (start, (start.add? width).getD .last)
  | none => .error (.breach (.sliceUnnamed index))

/-- The starts and the ends of some slices, up to the first one that has no start. -/
def frames (first : Instant) (width : Span) : List Nat → Except Fault (List (Instant × Instant))
  | [] => .ok []
  | index :: indices => do
    let f ← frame first width index
    return f :: (← frames first width indices)

/-- The first and the last slice that an interval runs in, where `last` is the last one of all. Both
quotients are turned into places and then brought down to the last slice. -/
def coverage (first : Instant) (step : Int) (last : Nat) (i : Interval) : Nat × Nat :=
  let start := (i.start.since first).milliseconds
  let finish := (i.finish.since first).milliseconds
  let low := min (place (Int.tdiv start step)) last
  (low, if start < finish then min (place (ceilDiv finish step - 1)) last else low)

/-- The slices that intervals run in, unless one of them ends before it starts. A range whose end is
one less than its start is empty and still allowed. -/
def coverages (first : Instant) (step : Int) (last : Nat) :
    List Interval → Except Fault (List (Nat × Nat))
  | [] => .ok []
  | i :: is => do
    let (low, high) := coverage first step last i
    if high + 1 < low then throw (.breach (.slicesReversed low high))
    return (low, high) :: (← coverages first step last is)

/-- The slices of the time in which some entries ran, for a width. Without an entry that is on the
timeline there are none. -/
def slices (entries : List Log.Entry) (width : Span) : Except Fault (List Slice) := do
  let step := width.milliseconds
  if step ≤ 0 then throw (.invalidInput (.widthNotPositive step))
  let is := intervals entries
  match bounds? is with
  | none => return []
  | some (first, last) =>
    let count := sliceCount first last step
    let fs ← frames first width (List.range count)
    let cs ← coverages first step (count - 1) is
    return fs.zipIdx.map fun ((start, finish), index) =>
      ⟨start, finish, cs.countP fun (low, high) => low ≤ index && index ≤ high⟩

/-- **Rounding up stays below the next whole number.** -/
theorem ceilDiv_le {n d : Int} (hn : 0 ≤ n) (hd : 0 < d) : ceilDiv n d * d < n + d := by
  unfold ceilDiv
  have parts := Int.tmod_add_mul_tdiv n d
  have low := Int.tmod_nonneg d hn
  have high := Int.tmod_lt_of_pos n hd
  have sum : (Int.tdiv n d + if Int.tmod n d = 0 then 0 else 1) * d
      = d * Int.tdiv n d + if Int.tmod n d = 0 then 0 else d := by
    split <;> simp [Int.mul_comm, Int.mul_add]
  rw [sum]
  split <;> omega

end QueryFlow.Timeline
