import QueryFlow.Analysis.Batch
import QueryFlow.Proofs.Outcome

/-!
# What is kept of a log

A batch keeps the entries that are understood and move data, each with its own classification and in
the order of the log. Taking one entry adds what is kept of it at the end, whatever else was taken
before, and the number of workers does not matter.

## How the proof goes

`kept` says of a single entry what the batch is to hold of it. The step lemma `queries_take`
compares it with the loop: where an entry can be taken, the queries of the batch go on with what is
kept of it, and with nothing if its statement was not understood. Over a whole log this is one
induction on the entries, with any batch at the start, so that the hypothesis covers the batch that
the first entry leaves behind. The order and the multiplicity of the kept queries are then those of
a `filterMap`.

## Main results

* `queries_take`: what taking one entry adds.
* `queries_ofEntries`: what is kept of a log.
* `classified_of_mem_queries`: a kept query has its own classification, and moves data.
-/

namespace QueryFlow.Batch

open Intent

/-- What is kept of an entry, with what was found in its statement: nothing of a statement that
moves no data. -/
def kept (entry : Log.Entry) : Except Fault Classification → Option LoggedQuery
  | .ok c => if c.movesData then some ⟨entry, c⟩ else none
  | .error _ => none

/-- **Taking an entry adds what is kept of it.** -/
theorem queries_take {b b' : Batch} {entry : Log.Entry} {found : Except Fault Classification}
    (h : b.take entry found = .ok b') : b'.queries = b.queries ++ (kept entry found).toList := by
  unfold take at h
  split at h
  · next c =>
    injection h with h
    subst h
    by_cases moves : c.movesData = true
    · simp [add, kept, moves]
    · simp [add, kept, moves]
  · split at h
    · injection h with h
      subst h
      simp [kept]
    · cases h

/-- Taking entries adds what is kept of them, in their order. By induction on the entries, for every
batch at the start. -/
theorem queries_takeAll {b b' : Batch} {found : List (Log.Entry × Except Fault Classification)}
    (h : b.takeAll found = .ok b') :
    b'.queries = b.queries ++ found.filterMap fun pair => kept pair.1 pair.2 := by
  induction found generalizing b with
  | nil =>
      injection h with h
      simp [h]
  | cons first rest ih =>
      obtain ⟨entry, classified⟩ := first
      obtain ⟨next, taken, h⟩ := bind_eq_ok_iff.1 h
      rw [ih h, queries_take taken]
      cases keeps : kept entry classified <;> simp [keeps]

/-- **A batch keeps the entries that are understood and move data**, in the order of the log. -/
theorem queries_ofEntries {c : Classifier} {workers : Nat} {entries : List Log.Entry} {b : Batch}
    (h : ofEntries c workers entries = .ok b) :
    b.queries = entries.filterMap fun entry => kept entry (c.classify entry.sql) := by
  rw [ofEntries_eq] at h
  rw [queries_takeAll h, classified, List.filterMap_map]
  simp only [empty, List.nil_append, Function.comp_def]

/-- **A kept query has its own classification, and moves data**: it was kept because of what was
found in its own statement. -/
theorem classified_of_mem_queries {c : Classifier} {workers : Nat} {entries : List Log.Entry}
    {b : Batch} (h : ofEntries c workers entries = .ok b) {q : LoggedQuery}
    (member : q ∈ b.queries) :
    c.classify q.entry.sql = .ok q.classification ∧ q.classification.movesData = true := by
  rw [queries_ofEntries h] at member
  obtain ⟨entry, -, keeps⟩ := List.mem_filterMap.1 member
  unfold kept at keeps
  split at keeps
  · next classified =>
    split at keeps
    · next moves =>
      injection keeps with keeps
      subst keeps
      exact ⟨classified, moves⟩
    · cases keeps
  · cases keeps

end QueryFlow.Batch
