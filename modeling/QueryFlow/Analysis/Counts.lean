import QueryFlow.Intent.Context

/-!
# How many queries did what

`Counts` says for a batch of queries how many there were, how many of them were understood, and what
those did. A query may be counted under several headings, since a statement may have several
contexts; the headings are then no partition of the queries, and only the totals add up.

* `record` counts a query that was understood, `reject` one that was not;
* `named` gives every number with its name, for reports and for the counters.

`Counters` are numbers under names of any kind, which grow over the batches of a program's whole
run. They are words of 64 bits and wrap around. A name is entered when it is first used, and what
has never been counted is zero.

## Main statement

* `get_increment`: what is added to a number is found there. What the other names keep, and what the
  numbers of a batch add up to, is proved in `Proofs.Analysis.Counting`.
-/

namespace QueryFlow

/-- How many queries of a batch did what. The numbers are not derived from each other: each of them
is counted on its own as the queries come. -/
structure Counts where
  /-- All queries, whether they were understood or not. -/
  total : Nat
  /-- The queries that were understood. -/
  parsed : Nat
  /-- The queries that were not understood. -/
  rejected : Nat
  /-- The statements that only keep the store in order. -/
  maintenance : Nat
  /-- The queries on their own. -/
  lookups : Nat
  /-- All insertions, also those of values. -/
  inserts : Nat
  /-- The insertions of rows of tables. -/
  insertedRows : Nat
  creations : Nat
  unloads : Nat
  copies : Nat
  /-- The queries that move data. -/
  moves : Nat
deriving DecidableEq, Repr

namespace Counts

/-- No queries. -/
def zero : Counts := ⟨0, 0, 0, 0, 0, 0, 0, 0, 0, 0, 0⟩

/-- Counts a query that was understood, under every heading that one of its contexts has. -/
def record (n : Counts) (c : Classification) : Counts :=
  { total := n.total + 1
    parsed := n.parsed + 1
    rejected := n.rejected
    maintenance := n.maintenance + c.isMaintenance.toNat
    lookups := n.lookups + c.isLookup.toNat
    inserts := n.inserts + c.insertion?.isSome.toNat
    insertedRows := n.insertedRows + c.insertsRows.toNat
    creations := n.creations + c.creation?.isSome.toNat
    unloads := n.unloads + c.unloading?.isSome.toNat
    copies := n.copies + c.copying?.isSome.toNat
    moves := n.moves + c.movesData.toNat }

/-- Counts a query that was not understood. -/
def reject (n : Counts) : Counts := { n with total := n.total + 1, rejected := n.rejected + 1 }

/-- The numbers with their names. -/
def named (n : Counts) : List (String × Nat) :=
  [("total", n.total), ("parsed", n.parsed), ("syntax_errors", n.rejected),
    ("maintenance", n.maintenance), ("lookups", n.lookups), ("inserts", n.inserts),
    ("insert_selects", n.insertedRows), ("ctas", n.creations), ("unload", n.unloads),
    ("copy", n.copies), ("long_dml", n.moves)]

end Counts

/-- Numbers under names, in the order in which the names were first used. -/
structure Counters where
  values : List (String × UInt64)
deriving DecidableEq

namespace Counters

/-- Nothing is counted yet. -/
def empty : Counters := ⟨[]⟩

/-- The number under a name, which is zero if nothing was counted there. -/
def get (c : Counters) (name : String) : UInt64 := (c.values.lookup name).getD 0

/-- Adds to the number under a name, at its place, or enters the name behind all others. -/
def incrementIn (name : String) (more : UInt64) : List (String × UInt64) → List (String × UInt64)
  | [] => [(name, more)]
  | (n, v) :: rest =>
    if n = name then (n, v + more) :: rest else (n, v) :: incrementIn name more rest

/-- Adds to the number under a name. -/
def increment (c : Counters) (name : String) (more : UInt64) : Counters :=
  ⟨incrementIn name more c.values⟩

/-- What stands before the name of a number of a batch. -/
def batchMark : String := "etl."

/-- Adds the numbers of a batch, each under its own name. -/
def publish (c : Counters) (n : Counts) : Counters :=
  n.named.foldl (fun c (name, value) => c.increment (batchMark ++ name) (UInt64.ofNat value)) c

/-- The number under a name has grown, whether it was there or not. By induction on the list, which
is walked up to the name. -/
theorem lookup_incrementIn (name : String) (more : UInt64) (values : List (String × UInt64)) :
    ((incrementIn name more values).lookup name).getD 0
      = (values.lookup name).getD 0 + more := by
  induction values with
  | nil => simp [incrementIn]
  | cons first rest ih =>
    obtain ⟨n, v⟩ := first
    by_cases same : n = name
    · subst same
      simp [incrementIn]
    · have other : (name == n) = false := by simpa using fun h => same h.symm
      simp [incrementIn, same, List.lookup_cons, other, ih]

/-- **What is added to a number is found there.** -/
theorem get_increment (c : Counters) (name : String) (more : UInt64) :
    (c.increment name more).get name = c.get name + more :=
  lookup_incrementIn name more c.values

end Counters

end QueryFlow
