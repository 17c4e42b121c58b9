import QueryFlow.Analysis.Counts

/-!
# Counts that are added up

The counts of two batches add up number by number. Counters that first one and then the other are
published to end as those that the sum is published to: the names of the numbers are all different,
and a number that is increased under a known name does not touch the other ones.

## How the proof goes

To publish counts is to increase several numbers one after the other. Twice the same names come by,
and the second increase of a name has to be moved forward to the first one, past the increases of
the other names in between. Increases under two different names commute, but only if one of the two
names is known already, because a name that is not known is entered at the end and the order of the
names would differ. This is the condition of `increment_comm`, and at the place where it is used the
name has just been increased, so it is known.

`increment_incrementAll` moves one increase past many, by induction on these;
`incrementAll_incrementAll` does so for every number, by induction on the list of names, whose
difference is used at each step. Numbers under names are words that wrap around, so that the sum of
the words is the word of the sum.

## Main results

* `Counts.add_record`: counting goes on from any sum.
* `Counters.increment_increment` and `Counters.increment_comm`: increases add up, and those under
  different names do not depend on each other.
* `Counters.publish_publish`: publishing twice is publishing the sum.
-/

namespace QueryFlow

namespace Counts

/-- The numbers of two batches taken together. -/
def add (m n : Counts) : Counts :=
  { total := m.total + n.total
    parsed := m.parsed + n.parsed
    rejected := m.rejected + n.rejected
    maintenance := m.maintenance + n.maintenance
    lookups := m.lookups + n.lookups
    inserts := m.inserts + n.inserts
    insertedRows := m.insertedRows + n.insertedRows
    creations := m.creations + n.creations
    unloads := m.unloads + n.unloads
    copies := m.copies + n.copies
    moves := m.moves + n.moves }

instance : Add Counts := ⟨add⟩

/-- Nothing is counted by the counts of no queries. -/
@[simp] theorem add_zero (n : Counts) : n + zero = n := rfl

/-- A query that is counted after a sum may as well be counted in its second part. -/
theorem add_record (m n : Counts) (c : Classification) : m + n.record c = (m + n).record c := by
  simp only [HAdd.hAdd, Add.add, add, record, Counts.mk.injEq]
  simp [Nat.add_assoc]

/-- The numbers of two batches under their common names. -/
def paired (m n : Counts) : List (String × Nat × Nat) :=
  List.zipWith (fun (name, k) (_, l) => (name, k, l)) m.named n.named

/-- **The names of the numbers are different.** -/
theorem nodup_paired (m n : Counts) : ((paired m n).map Prod.fst).Nodup := by
  change ["total", "parsed", "syntax_errors", "maintenance", "lookups", "inserts",
    "insert_selects", "ctas", "unload", "copy", "long_dml"].Nodup
  decide

end Counts

namespace Counters

/-- The names under which something was counted. -/
def names (c : Counters) : List String := c.values.map Prod.fst

/-- An increase makes its name known, and forgets none. -/
theorem mem_names_increment {c : Counters} {name other : String} {more : UInt64} :
    other ∈ (c.increment name more).names ↔ other = name ∨ other ∈ c.names := by
  obtain ⟨values⟩ := c
  simp only [increment, names]
  induction values with
  | nil => simp [incrementIn]
  | cons first rest ih =>
      rw [incrementIn]
      split
      · next same => simp [same]
      · simp only [List.map_cons, List.mem_cons, ih]
        exact or_left_comm

/-- **Increases of a number add up.** By induction on the numbers in front of it, which stay as they
are. -/
theorem increment_increment (c : Counters) (name : String) (more less : UInt64) :
    (c.increment name more).increment name less = c.increment name (more + less) := by
  obtain ⟨values⟩ := c
  simp only [increment, Counters.mk.injEq]
  induction values with
  | nil => simp [incrementIn]
  | cons first rest ih =>
      by_cases same : first.1 = name
      · simp [incrementIn, same, UInt64.add_assoc]
      · simp [incrementIn, same, ih]

/-- **Increases under different names do not depend on each other**, if one of the names is known
already: a name that is not known takes the next place. -/
theorem increment_comm {c : Counters} {name other : String} (different : name ≠ other)
    (known : name ∈ c.names) (more less : UInt64) :
    (c.increment other less).increment name more
      = (c.increment name more).increment other less := by
  obtain ⟨values⟩ := c
  simp only [increment, names, Counters.mk.injEq] at *
  induction values with
  | nil => cases known
  | cons first rest ih =>
      obtain ⟨here, value⟩ := first
      by_cases same : here = name
      · subst same
        simp [incrementIn, different]
      · have known : name ∈ rest.map Prod.fst := by simpa [Ne.symm same] using known
        by_cases same' : here = other
        · subst same'
          simp [incrementIn, same]
        · simp [incrementIn, same, same', ih known]

/-- Increases numbers one after the other. -/
def incrementAll (c : Counters) (numbers : List (String × Nat)) : Counters :=
  numbers.foldl (fun c (name, value) => c.increment name (UInt64.ofNat value)) c

/-- An increase under a known name may as well come before increases under other names. -/
theorem increment_incrementAll {c : Counters} {name : String} {numbers : List (String × Nat)}
    (new : name ∉ numbers.map Prod.fst) (known : name ∈ c.names) (more : UInt64) :
    (c.incrementAll numbers).increment name more
      = (c.increment name more).incrementAll numbers := by
  induction numbers generalizing c with
  | nil => rfl
  | cons first numbers ih =>
      obtain ⟨different, new⟩ : name ≠ first.1 ∧ name ∉ numbers.map Prod.fst := by
        simpa using new
      have kept : name ∈ (c.increment first.1 (UInt64.ofNat first.2)).names :=
        mem_names_increment.2 (.inr known)
      have swapped := increment_comm different known more (UInt64.ofNat first.2)
      calc ((c.increment first.1 (UInt64.ofNat first.2)).incrementAll numbers).increment name more
          = ((c.increment first.1 (UInt64.ofNat first.2)).increment name more).incrementAll
              numbers := ih new kept
        _ = ((c.increment name more).increment first.1 (UInt64.ofNat first.2)).incrementAll
              numbers := by rw [swapped]

/-- **Increases of several numbers add up**, if these have different names. By induction on the
list: the second increase of its head is moved to the front of those in between. -/
theorem incrementAll_incrementAll {numbers : List (String × Nat × Nat)}
    (nodup : (numbers.map Prod.fst).Nodup) (c : Counters) :
    (c.incrementAll (numbers.map fun (name, k, _) => (name, k))).incrementAll
        (numbers.map fun (name, _, l) => (name, l))
      = c.incrementAll (numbers.map fun (name, k, l) => (name, k + l)) := by
  induction numbers generalizing c with
  | nil => rfl
  | cons first numbers ih =>
      obtain ⟨name, k, l⟩ := first
      obtain ⟨new, nodup⟩ := List.nodup_cons.1 nodup
      have new' : name ∉ (numbers.map fun (name, k, _) => (name, k)).map Prod.fst := by
        simpa [Function.comp_def] using new
      have known : name ∈ (c.increment name (UInt64.ofNat k)).names :=
        mem_names_increment.2 (.inl rfl)
      have moved := increment_incrementAll new' known (UInt64.ofNat l)
      have added := increment_increment c name (UInt64.ofNat k) (UInt64.ofNat l)
      have rest := ih nodup (c.increment name (UInt64.ofNat k + UInt64.ofNat l))
      simp only [incrementAll, List.map_cons, List.foldl_cons] at moved rest ⊢
      rw [moved, added, rest, UInt64.ofNat_add]

/-- The names of the numbers of a batch, with the mark before them. -/
def marked (numbers : List (String × Nat)) : List (String × Nat) :=
  numbers.map fun (name, value) => (batchMark ++ name, value)

/-- To publish the numbers of a batch is to increase them one after the other, under their marked
names. -/
theorem publish_eq (c : Counters) (n : Counts) : c.publish n = c.incrementAll (marked n.named) := by
  simp [publish, incrementAll, marked, List.foldl_map]

/-- **Publishing the counts of two batches is publishing their sum**, whatever was counted
before. -/
theorem publish_publish (c : Counters) (m n : Counts) :
    (c.publish m).publish n = c.publish (m + n) := by
  have nodup : (((Counts.paired m n).map fun (name, k, l) =>
      (batchMark ++ name, k, l)).map Prod.fst).Nodup := by
    have apart : (((Counts.paired m n).map Prod.fst).map (batchMark ++ ·)).Nodup :=
      List.Pairwise.map _ (fun a b different same => different (by simpa using same))
        (Counts.nodup_paired m n)
    simpa [Function.comp_def] using apart
  simp only [publish_eq]
  exact incrementAll_incrementAll nodup c

end Counters

end QueryFlow
