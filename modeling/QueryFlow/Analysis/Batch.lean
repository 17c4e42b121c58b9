import QueryFlow.Analysis.Counts
import QueryFlow.Intent.Classifier
import QueryFlow.Log.Entry

/-!
# Batches of queries

A batch is what is kept of the entries of a log: the queries that move data, with what they do, and
how many there were of every kind. A statement that cannot be understood is counted and left out;
any other fault ends the work on the batch.

## Sharing out

The entries are shared out among workers in consecutive parts of nearly equal length, and what the
workers find is put together in the order of the entries. Sharing out relies on three things that it
does not check again: the bounds of the number of workers are in order, the number that the length
of a part is a quotient by is not zero, and neither is the length. Each of them would be a breach,
and none occurs: an empty log is dealt with first, so that there is at least one entry, then at
least one worker, and then at least one entry in a part.

That nothing is lost is a fact about windows of a list: the first windows together are a start of
the list (`flatten_windows`, by induction on their number), and the quotient that says how many
there are is rounded up, so the start is the whole list.

## Taking

What was found in the statements is then taken one entry after the other, by `takeAll`, which is the
only loop: the batch grows by every entry, and the first fault that is no syntax fault ends it. All
that is proved about batches goes by induction on that list of entries.

## Main results

* `exists_shares`: sharing out succeeds, loses nothing and keeps the order.
* `classifyAll_eq_map`: the number of workers does not matter.
* `ofEntries_eq`: a batch is made of the entries with what is found in their statements.
-/

namespace QueryFlow

open Intent

/-! ### Workers -/

/-- A number held between two bounds, which have to be in order. -/
def clamp (low high n : Nat) : Except Fault Nat :=
  if high < low then .error (.breach .boundsReversed) else .ok (max low (min n high))

/-- A quotient rounded up. -/
def divideUp (n divisor : Nat) : Except Fault Nat :=
  if divisor = 0 then .error (.breach .zeroDivisor) else .ok ((n + divisor - 1) / divisor)

/-- A list in consecutive parts of a length, the last of which may be shorter. -/
def partsOf {α : Type} (length : Nat) (xs : List α) : Except Fault (List (List α)) :=
  if length = 0 then
    .error (.breach .zeroLength)
  else
    .ok <| (List.range ((xs.length + length - 1) / length)).map fun part =>
      (xs.drop (part * length)).take length

/-- A list shared out among workers, each of whom has a part. Of an empty list nobody has anything,
and a worker who is alone has the whole list. -/
def shares {α : Type} (workers : Nat) (xs : List α) : Except Fault (List (List α)) :=
  if xs.isEmpty then
    .ok []
  else do
    let count ← clamp 1 xs.length workers
    if count = 1 then
      return [xs]
    else
      partsOf (← divideUp xs.length count) xs

/-- The first windows of a list together are what the list starts with. By induction on the number
of windows, the last of which continues the start. -/
theorem flatten_windows {α : Type} (length parts : Nat) (xs : List α) :
    ((List.range parts).map fun part => (xs.drop (part * length)).take length).flatten =
      xs.take (parts * length) := by
  induction parts with
  | zero => simp
  | succ parts ih =>
    rw [List.range_succ, List.map_append, List.flatten_append, ih, Nat.succ_mul, List.take_add]
    simp

/-- A quotient that is rounded up reaches the number again. -/
theorem le_divideUp_mul {n divisor : Nat} (positive : 0 < divisor) :
    n ≤ (n + divisor - 1) / divisor * divisor := by
  have split := Nat.div_add_mod (n + divisor - 1) divisor
  have small := Nat.mod_lt (n + divisor - 1) positive
  rw [Nat.mul_comm] at split
  omega

/-- **Parts of a positive length lose nothing and keep the order.** -/
theorem exists_partsOf {α : Type} {length : Nat} (positive : 0 < length) (xs : List α) :
    ∃ parts, partsOf length xs = .ok parts ∧ parts.flatten = xs := by
  refine ⟨_, if_neg (Nat.ne_of_gt positive), ?_⟩
  rw [flatten_windows]
  exact List.take_of_length_le (le_divideUp_mul positive)

/-- **Sharing out succeeds for any number of workers, loses nothing and keeps the order.** -/
theorem exists_shares {α : Type} (workers : Nat) (xs : List α) :
    ∃ parts, shares workers xs = .ok parts ∧ parts.flatten = xs := by
  cases xs with
  | nil => exact ⟨[], rfl, rfl⟩
  | cons x xs =>
    -- as there is an entry, the bounds are in order and there is a worker
    have clamped : clamp 1 (x :: xs).length workers = .ok (max 1 (min workers (x :: xs).length)) :=
      if_neg (by simp)
    have worker : 0 < max 1 (min workers (x :: xs).length) :=
      Nat.lt_of_lt_of_le Nat.one_pos (Nat.le_max_left ..)
    generalize max 1 (min workers (x :: xs).length) = count at clamped worker
    have shared : shares workers (x :: xs) =
        if count = 1 then .ok [x :: xs]
        else divideUp (x :: xs).length count >>= (partsOf · (x :: xs)) := by
      rw [shares, clamped]
      rfl
    by_cases alone : count = 1
    · exact ⟨[x :: xs], shared.trans (if_pos alone), by simp⟩
    · -- as there is a worker, there is a quotient, and as there is an entry, it is not zero
      have divided : divideUp (x :: xs).length count = .ok (((x :: xs).length + count - 1) / count) :=
        if_neg (Nat.ne_of_gt worker)
      have positive : 0 < ((x :: xs).length + count - 1) / count :=
        Nat.div_pos (by rw [List.length_cons]; omega) worker
      obtain ⟨parts, cut, whole⟩ := exists_partsOf positive (x :: xs)
      refine ⟨parts, ?_, whole⟩
      rw [shared, if_neg alone, divided]
      exact cut

/-- What the workers find in the statements of some entries. -/
def classifyAll (c : Classifier) (workers : Nat) (entries : List Log.Entry) :
    Except Fault (List (Except Fault Classification)) := do
  let parts ← shares workers entries
  return parts.flatMap fun part => part.map fun entry => c.classify entry.sql

/-- **The number of workers does not matter**: every statement is classified on its own, and what is
found in it stands at the place of its entry. -/
theorem classifyAll_eq_map (c : Classifier) (workers : Nat) (entries : List Log.Entry) :
    classifyAll c workers entries = .ok (entries.map fun entry => c.classify entry.sql) := by
  obtain ⟨parts, shared, whole⟩ := exists_shares workers entries
  calc classifyAll c workers entries
      = .ok (parts.flatMap fun part => part.map fun entry => c.classify entry.sql) := by
        rw [classifyAll, shared]
        rfl
    _ = .ok (parts.flatten.map fun entry => c.classify entry.sql) := by
        rw [List.map_flatten, List.flatMap]
    _ = .ok (entries.map fun entry => c.classify entry.sql) := by rw [whole]

/-! ### Batches -/

/-- An entry of a log, and what its statement does. -/
structure LoggedQuery where
  /-- The entry whose statement this is. -/
  entry : Log.Entry
  classification : Classification
deriving DecidableEq

/-- The queries that are kept, and how many there were of every kind. -/
structure Batch where
  /-- The queries that move data, in the order of their entries. -/
  queries : List LoggedQuery
  counts : Counts
deriving DecidableEq

namespace Batch

/-- No queries. -/
def empty : Batch := ⟨[], .zero⟩

/-- Adds a query that is understood; it is kept if it moves data. -/
def add (b : Batch) (entry : Log.Entry) (c : Classification) : Batch :=
  { queries := if c.movesData then b.queries ++ [⟨entry, c⟩] else b.queries
    counts := b.counts.record c }

/-- Adds an entry with what was found in its statement. A syntax fault is counted, any other fault
is given on. -/
def take (b : Batch) (entry : Log.Entry) (found : Except Fault Classification) :
    Except Fault Batch :=
  match found with
  | .ok c => .ok (b.add entry c)
  | .error fault =>
    if fault.isSyntax then .ok { b with counts := b.counts.reject } else .error fault

/-- Adds entries with what was found in their statements, one after the other, up to the first fault
that is no syntax fault. -/
def takeAll (b : Batch) : List (Log.Entry × Except Fault Classification) → Except Fault Batch
  | [] => .ok b
  | (entry, found) :: rest => do
    let b ← b.take entry found
    b.takeAll rest

/-- The batch of some entries: all of them are classified first, and then taken in their order. -/
def ofEntries (c : Classifier) (workers : Nat) (entries : List Log.Entry) : Except Fault Batch := do
  let found ← classifyAll c workers entries
  empty.takeAll (entries.zip found)

/-- The entries with what is found in their statements. -/
def classified (c : Classifier) (entries : List Log.Entry) :
    List (Log.Entry × Except Fault Classification) :=
  entries.map fun entry => (entry, c.classify entry.sql)

/-- **A batch is made of the entries with what is found in their statements**, by any number of
workers. -/
theorem ofEntries_eq (c : Classifier) (workers : Nat) (entries : List Log.Entry) :
    ofEntries c workers entries = empty.takeAll (classified c entries) := by
  rw [ofEntries, classifyAll_eq_map, classified, List.map_prod_left_eq_zip]
  rfl

end Batch

end QueryFlow
