import QueryFlow.Analysis.Batch
import QueryFlow.Proofs.Analysis.Counting
import QueryFlow.Proofs.Intent.Refusal
import QueryFlow.Proofs.Outcome

/-!
# The batch of a log in two parts

A batch of the entries of two logs is the batch of the first and that of the second put together.
Entries that are taken only add to what was taken before them, so a batch may be left aside while
others are taken, and be put before them in the end.

The work fails if there is an entry with a fault that is more than a syntax error, and then with the
fault of the first such entry: how the entries were shared out has no part in it.

## How the proof goes

Putting a batch in front commutes with taking one entry (`take_append`), whether the entry can be
taken or not, and from there with taking any number of them (`takeAll_append`, by induction on the
entries). A log in two parts is taken one part after the other, so its batch is that of the second
part with the batch of the first in front.

Faults are followed in the same induction. `FirstFault` says by a splitting of the entries which one
ends the work, and `firstFault_cons` turns it into the two cases that the loop has: the first entry
ends it, or it does not and a later one is the first. The number of workers is gone before any of
this starts, since a batch is made of the entries with what is found in them, by any number of
workers.

## Main results

* `take_append` and `takeAll_append`: what was taken before may be put before the rest in the end.
* `takeAll_eq_error_iff`: the work fails at the first fault that ends it.
* `exists_ofEntries`: there is none if the reader refuses texts with syntax faults only.
* `ofEntries_parts`: the batch of a log in two parts, by any number of workers.
-/

namespace QueryFlow.Batch

open Intent

/-! ### Batches put together -/

/-- The queries of two batches one after the other, and the sum of their counts. -/
def append (a b : Batch) : Batch := ⟨a.queries ++ b.queries, a.counts + b.counts⟩

instance : Append Batch := ⟨append⟩

@[simp] theorem append_empty (a : Batch) : a ++ empty = a := by
  change Batch.mk (a.queries ++ []) (a.counts + .zero) = a
  simp

@[simp] theorem queries_append (a b : Batch) : (a ++ b).queries = a.queries ++ b.queries := rfl

@[simp] theorem counts_append (a b : Batch) : (a ++ b).counts = a.counts + b.counts := rfl

/-- A query may be added before or after another batch is put in front. -/
theorem append_add (a b : Batch) (entry : Log.Entry) (c : Classification) :
    a ++ b.add entry c = (a ++ b).add entry c := by
  have queries : (a ++ b.add entry c).queries = ((a ++ b).add entry c).queries := by
    by_cases moves : c.movesData = true <;> simp [add, moves]
  have counts : (a ++ b.add entry c).counts = ((a ++ b).add entry c).counts :=
    Counts.add_record a.counts b.counts c
  exact (Batch.mk.injEq ..).mpr ⟨queries, counts⟩

/-- **An entry may be taken before or after another batch is put in front**, and if it cannot be
taken it cannot be either way. -/
theorem take_append (a b : Batch) (entry : Log.Entry) (found : Except Fault Classification) :
    (a ++ b).take entry found = (b.take entry found).map (a ++ ·) := by
  cases found with
  | ok c => simp [take, Except.map, append_add]
  | error fault =>
      cases syntactic : fault.isSyntax with
      | true => simp [take, syntactic, Except.map]; rfl
      | false => simp [take, syntactic, Except.map]

/-- **Entries may be taken before or after another batch is put in front.** By induction on the
entries. -/
theorem takeAll_append (a b : Batch) (found : List (Log.Entry × Except Fault Classification)) :
    (a ++ b).takeAll found = (b.takeAll found).map (a ++ ·) := by
  induction found generalizing b with
  | nil => rfl
  | cons first rest ih =>
      simp only [takeAll, take_append]
      cases taken : b.take first.1 first.2 with
      | error fault => rfl
      | ok next => exact ih next

/-- Entries of two lists are taken one list after the other. -/
theorem takeAll_concat (b : Batch) (xs ys : List (Log.Entry × Except Fault Classification)) :
    b.takeAll (xs ++ ys) = (b.takeAll xs) >>= (·.takeAll ys) := by
  induction xs generalizing b with
  | nil => rfl
  | cons first rest ih =>
      simp only [List.cons_append, takeAll]
      cases taken : b.take first.1 first.2 with
      | error fault => rfl
      | ok next => exact ih next

/-! ### The fault that ends the work -/

/-- The first of some entries whose statement has a fault that is more than a syntax error, and
this fault. -/
def FirstFault (c : Classifier) (entries : List Log.Entry) (fault : Fault) : Prop :=
  ∃ before entry after, entries = before ++ entry :: after
    ∧ c.classify entry.sql = .error fault ∧ fault.isSyntax = false
    ∧ ∀ earlier ∈ before, ∀ other, c.classify earlier.sql = .error other → other.isSyntax = true

/-- The first fault is that of the first entry, or that of a later one if the first has none that
ends the work. -/
theorem firstFault_cons {c : Classifier} {entry : Log.Entry} {entries : List Log.Entry}
    {fault : Fault} :
    FirstFault c (entry :: entries) fault
      ↔ (c.classify entry.sql = .error fault ∧ fault.isSyntax = false)
        ∨ ((∀ other, c.classify entry.sql = .error other → other.isSyntax = true)
          ∧ FirstFault c entries fault) := by
  constructor
  · rintro ⟨before, here, after, split, found, more, clean⟩
    cases before with
    | nil =>
        injection split with same
        exact .inl ⟨same ▸ found, more⟩
    | cons first before =>
        injection split with same split
        subst same
        exact .inr ⟨clean entry List.mem_cons_self, before, here, after, split, found, more,
          fun e member => clean e (List.mem_cons_of_mem _ member)⟩
  · rintro (⟨found, more⟩ | ⟨first, before, here, after, rfl, found, more, clean⟩)
    · exact ⟨[], entry, entries, rfl, found, more, by simp⟩
    · exact ⟨entry :: before, here, after, rfl, found, more, by simpa using ⟨first, clean⟩⟩

/-- An entry cannot be taken exactly if its statement has a fault that is more than a syntax error.
-/
theorem take_eq_error_iff {b : Batch} {entry : Log.Entry} {found : Except Fault Classification}
    {fault : Fault} :
    b.take entry found = .error fault ↔ found = .error fault ∧ fault.isSyntax = false := by
  cases found with
  | ok c => simp [take]
  | error other =>
      cases syntactic : other.isSyntax with
      | true =>
          have apart : other = fault → fault.isSyntax = true := fun same => same ▸ syntactic
          simp_all [take]
      | false =>
          have apart : other = fault → fault.isSyntax = false := fun same => same ▸ syntactic
          simpa [take, syntactic] using apart

/-- An entry can be taken exactly if its statement has no fault but a syntax error. -/
theorem exists_take_iff {b : Batch} {entry : Log.Entry} {found : Except Fault Classification} :
    (∃ next, b.take entry found = .ok next)
      ↔ ∀ other, found = .error other → other.isSyntax = true := by
  cases found with
  | ok c => simp [take]
  | error other => cases syntactic : other.isSyntax <;> simp [take, syntactic]

/-- **The work fails at the first fault that ends it**, whatever was taken before. By induction on
the entries. -/
theorem takeAll_eq_error_iff {c : Classifier} {b : Batch} {entries : List Log.Entry}
    {fault : Fault} :
    b.takeAll (classified c entries) = .error fault ↔ FirstFault c entries fault := by
  induction entries generalizing b with
  | nil => simp [classified, takeAll, FirstFault]
  | cons entry entries ih =>
      calc b.takeAll (classified c (entry :: entries)) = .error fault
          ↔ b.take entry (c.classify entry.sql) = .error fault
            ∨ ∃ next, b.take entry (c.classify entry.sql) = .ok next
              ∧ next.takeAll (classified c entries) = .error fault := bind_eq_error_iff
        _ ↔ (c.classify entry.sql = .error fault ∧ fault.isSyntax = false)
            ∨ ((∀ other, c.classify entry.sql = .error other → other.isSyntax = true)
              ∧ FirstFault c entries fault) := by
          simp only [take_eq_error_iff, ih, exists_and_right, exists_take_iff]
        _ ↔ FirstFault c (entry :: entries) fault := firstFault_cons.symm

/-! ### Logs in two parts -/

/-- **No text ends the work** on a batch if the reader refuses texts with syntax faults only. -/
theorem exists_ofEntries {c : Classifier} (lenient : Lenient c.read) (workers : Nat)
    (entries : List Log.Entry) : ∃ b, ofEntries c workers entries = .ok b := by
  cases made : ofEntries c workers entries with
  | ok b => exact ⟨b, rfl⟩
  | error fault =>
      rw [ofEntries_eq] at made
      obtain ⟨_, entry, _, _, refused, more, -⟩ := takeAll_eq_error_iff.1 made
      rw [isSyntax_of_classify lenient refused] at more
      cases more

/-- The batch of a log in two parts is that of the first, and then that of the second. -/
theorem ofEntries_append {c : Classifier} {xs ys : List Log.Entry} {a : Batch}
    (workers : Nat) (first : ofEntries c workers xs = .ok a) :
    ofEntries c workers (xs ++ ys) = (ofEntries c workers ys).map (a ++ ·) := by
  simp only [ofEntries_eq] at first ⊢
  calc empty.takeAll (classified c (xs ++ ys))
      = empty.takeAll (classified c xs) >>= (·.takeAll (classified c ys)) := by
        rw [classified, List.map_append]
        exact takeAll_concat empty _ _
    _ = (a ++ empty).takeAll (classified c ys) := by
        rw [first, append_empty]
        rfl
    _ = (empty.takeAll (classified c ys)).map (a ++ ·) := takeAll_append a empty _

/-- **The batch of a log in two parts**: whatever the number of workers is, every statement is
classified on its own and stays at its place. Either the log has a first fault that ends the work,
or the parts have batches whose queries and counts together are those of the log; and counters grow
from one part and then the other as they do from the whole log. -/
theorem ofEntries_parts (c : Classifier) (xs ys : List Log.Entry) :
    (∀ workers entries, classifyAll c workers entries = .ok (entries.map fun e => c.classify e.sql))
      ∧ ((∃ fault, FirstFault c (xs ++ ys) fault
            ∧ ∀ workers, ofEntries c workers (xs ++ ys) = .error fault)
        ∨ ((¬ ∃ fault, FirstFault c (xs ++ ys) fault)
            ∧ ∃ a b, (∀ workers, ofEntries c workers xs = .ok a)
              ∧ (∀ workers, ofEntries c workers ys = .ok b)
              ∧ (∀ workers, ofEntries c workers (xs ++ ys)
                  = .ok ⟨a.queries ++ b.queries, a.counts + b.counts⟩)
              ∧ ∀ sink : Counters,
                  (sink.publish a.counts).publish b.counts
                    = sink.publish (a.counts + b.counts))) := by
  refine ⟨fun workers entries => classifyAll_eq_map c workers entries, ?_⟩
  cases whole : ofEntries c 0 (xs ++ ys) with
  | error fault =>
      rw [ofEntries_eq] at whole
      exact .inl ⟨fault, takeAll_eq_error_iff.1 whole,
        fun workers => (ofEntries_eq c workers _).trans whole⟩
  | ok both =>
      right
      have clean : ¬ ∃ fault, FirstFault c (xs ++ ys) fault := fun ⟨fault, faulty⟩ => by
        rw [ofEntries_eq, takeAll_eq_error_iff.2 faulty] at whole
        cases whole
      cases first : ofEntries c 0 xs with
      | error fault =>
          rw [ofEntries_eq] at first
          obtain ⟨before, entry, after, rfl, faulty⟩ := takeAll_eq_error_iff.1 first
          exact absurd ⟨fault, before, entry, after ++ ys, by simp, faulty⟩ clean
      | ok a =>
          have parts : ofEntries c 0 (xs ++ ys) = (ofEntries c 0 ys).map (a ++ ·) :=
            ofEntries_append 0 first
          rw [whole] at parts
          obtain ⟨b, second, together⟩ := map_eq_ok_iff.1 parts.symm
          have any {entries : List Log.Entry} (workers : Nat) :
              ofEntries c workers entries = ofEntries c 0 entries := by
            rw [ofEntries_eq, ofEntries_eq]
          refine ⟨clean, a, b, fun workers => (any workers).trans first,
            fun workers => (any workers).trans second, fun workers => ?_,
            fun sink => Counters.publish_publish sink a.counts b.counts⟩
          rw [any workers, whole, ← together]
          rfl

end QueryFlow.Batch
