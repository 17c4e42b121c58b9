import QueryFlow.Proofs.Analysis.Parts
import QueryFlow.Proofs.Analysis.Retention

/-!
# What the counts of a batch count

The counts of a batch are a *tally* of what the statements of the entries do: every number says for
how many of the statements that are understood something is true, and the entries whose statements
are not understood are counted apart. So the counts of a batch agree with each other and with what
is kept of the entries, whatever the predicates are.

The standard predicates find at most one context in a text, as do the ways in which a text is
recognised without being read. No query is counted under two kinds then.

## How the proof goes

A tally is computed from a list of classifications at once, by `countP`, and the counts of a batch
are grown query by query. The two meet in a step lemma, `record_tally`: one more query under a count
is one more in the tally. By induction on the entries the counts of a batch are the tally of what
was understood (`counts_takeAll`), with the number of those that were not.

From a tally the equations between the numbers are read off: a query is counted under `inserts` only
if it was understood, under `insertedRows` only if it is an insertion, and kept exactly if it moves
data. That no query is counted under two kinds is an inequality between the totals, which holds for
each query on its own, because a single context is of one kind; `Exclusive` is kept by every
`record`, so it holds for a whole batch, by induction on the tally.

## Main results

* `Counts.record_tally` and `Counts.reject_tally`: a tally goes on entry by entry.
* `Batch.counts_ofEntries`: the counts of a batch are the tally of its entries.
* `Counts.Exclusive.record`: counting a query with at most one context keeps the kinds apart.
* `Batch.balanced_ofEntries`: the counts agree with each other and with what is kept.
-/

namespace QueryFlow

open Intent Sql

/-! ### Tallies -/

namespace Counts

/-- The counts of some statements that are understood and a number of others that are not: each
number is how many of them a question is true of. -/
def tally (rejected : Nat) (cs : List Classification) : Counts where
  total := cs.length + rejected
  parsed := cs.length
  rejected := rejected
  maintenance := cs.countP Classification.isMaintenance
  lookups := cs.countP Classification.isLookup
  inserts := cs.countP fun c => c.insertion?.isSome
  insertedRows := cs.countP Classification.insertsRows
  creations := cs.countP fun c => c.creation?.isSome
  unloads := cs.countP fun c => c.unloading?.isSome
  copies := cs.countP fun c => c.copying?.isSome
  moves := cs.countP Classification.movesData

/-- **A statement that is understood is one more in the tally.** -/
theorem record_tally (rejected : Nat) (cs : List Classification) (c : Classification) :
    (tally rejected cs).record c = tally rejected (cs ++ [c]) := by
  have one (p : Classification → Bool) : (cs ++ [c]).countP p = cs.countP p + (p c).toNat := by
    rw [List.countP_append, List.countP_singleton]
    cases p c <;> rfl
  have length : (cs ++ [c]).length = cs.length + 1 := by simp
  simp only [record, tally, one, length, Nat.add_right_comm]

/-- **A statement that is not understood is one more of these.** -/
theorem reject_tally (rejected : Nat) (cs : List Classification) :
    (tally rejected cs).reject = tally (rejected + 1) cs := rfl

/-- Insertions of rows of tables are insertions, and these are understood. -/
theorem insertedRows_tally_le (rejected : Nat) (cs : List Classification) :
    (tally rejected cs).insertedRows ≤ (tally rejected cs).inserts
      ∧ (tally rejected cs).inserts ≤ (tally rejected cs).parsed := by
  refine ⟨List.countP_mono_left fun c _ rows => ?_, List.countP_le_length⟩
  obtain ⟨i, found, -⟩ := (Option.any_eq_true _ _).1 rows
  simp [found]

end Counts

/-! ### Kinds of statements -/

namespace Classification

variable {c : Classification} (single : c.contexts.length ≤ 1)

include single

/-- **A statement with at most one context is of one kind at most.** By cases on the context, each
of which answers one question. -/
theorem count_kinds_le :
    c.isMaintenance.toNat + c.isLookup.toNat + c.insertion?.isSome.toNat
      + c.creation?.isSome.toNat + c.unloading?.isSome.toNat + c.copying?.isSome.toNat ≤ 1 := by
  obtain ⟨contexts⟩ := c
  match contexts, single with
  | [], _ => decide
  | [context], _ =>
      cases context <;> simp [isMaintenance, isLookup, insertion?, creation?, unloading?, copying?,
        Context.isMaintenance, Context.isLookup, Context.insertion?, Context.creation?,
        Context.unloading?, Context.copying?]

/-- **A statement with at most one context moves data in one way at most**, so the four ways add up
to whether it does. -/
theorem toNat_movesData :
    c.movesData.toNat = c.insertsRows.toNat + c.creation?.isSome.toNat
      + c.unloading?.isSome.toNat + c.copying?.isSome.toNat := by
  obtain ⟨contexts⟩ := c
  match contexts, single with
  | [], _ => rfl
  | [context], _ =>
      cases context <;> simp [movesData, insertsRows, insertion?, creation?, unloading?, copying?,
        Context.insertion?, Context.creation?, Context.unloading?, Context.copying?]

end Classification

namespace Counts

/-- No query is counted under two kinds. The totals say so, as each query adds at most one to the
sum of the kinds. -/
structure Exclusive (n : Counts) : Prop where
  /-- A query that moves data does so in one way. -/
  moves_eq : n.moves = n.insertedRows + n.creations + n.unloads + n.copies
  /-- A query that is understood is of one kind at most. -/
  kinds_le :
    n.maintenance + n.lookups + n.inserts + n.creations + n.unloads + n.copies ≤ n.parsed

/-- **Counting a query with at most one context keeps the kinds apart.** -/
theorem Exclusive.record {n : Counts} (apart : n.Exclusive) {c : Classification}
    (single : c.contexts.length ≤ 1) : (n.record c).Exclusive := by
  obtain ⟨moves, kinds⟩ := apart
  have ways := Classification.toNat_movesData single
  have kind := Classification.count_kinds_le single
  constructor
  · simp only [Counts.record]
    omega
  · simp only [Counts.record]
    omega

/-- **A tally of queries with at most one context has its kinds apart.** By induction on the
queries, the last of which is counted by `record`. -/
theorem exclusive_tally (rejected : Nat) {cs : List Classification}
    (single : ∀ c ∈ cs, c.contexts.length ≤ 1) : (tally rejected cs).Exclusive := by
  induction cs using List.reverseRecOn with
  | nil => exact ⟨rfl, Nat.le_refl 0⟩
  | append_singleton cs c ih =>
      rw [← record_tally]
      exact (ih fun c member => single c (List.mem_append_left _ member)).record
        (single c (List.mem_append_right _ (List.mem_singleton_self c)))

end Counts

/-! ### Batches -/

/-- The entries whose statements are not understood. -/
def Intent.Classifier.rejected (c : Classifier) (entries : List Log.Entry) : List Log.Entry :=
  entries.filter fun entry => (c.classify entry.sql).toOption.isNone

/-- A statement is either understood or not. -/
theorem Intent.Classifier.length_understood_add (c : Classifier) (entries : List Log.Entry) :
    (c.understood entries).length + (c.rejected entries).length = entries.length := by
  induction entries with
  | nil => rfl
  | cons entry entries ih =>
      simp only [understood, rejected, List.filterMap_cons, List.filter_cons] at ih ⊢
      cases (c.classify entry.sql).toOption with
      | none =>
          simp only [Option.isNone_none, if_true, List.length_cons]
          omega
      | some found =>
          simp only [Option.isNone_some, Bool.false_eq_true, if_false, List.length_cons]
          omega

namespace Batch

variable {c : Classifier} {entries : List Log.Entry}

/-- What agrees in the batch of some entries. -/
structure Balanced (c : Classifier) (entries : List Log.Entry) (b : Batch) : Prop where
  /-- All entries are counted. -/
  total_eq : b.counts.total = entries.length
  /-- An entry is either understood or not. -/
  total_eq_add : b.counts.total = b.counts.parsed + b.counts.rejected
  /-- The entries that are understood and move data are kept, in their order and each with its own
  classification. -/
  queries_eq : b.queries = entries.filterMap fun entry => kept entry (c.classify entry.sql)
  /-- The entries that are kept are counted. -/
  moves_eq : b.counts.moves = b.queries.length
  /-- Insertions of rows of tables are insertions. -/
  insertedRows_le : b.counts.insertedRows ≤ b.counts.inserts
  /-- Insertions are understood. -/
  inserts_le : b.counts.inserts ≤ b.counts.parsed

/-- An entry that is taken is counted, either with what its statement does or as not understood. -/
theorem counts_take {b b' : Batch} {entry : Log.Entry} {found : Except Fault Classification}
    (h : b.take entry found = .ok b') :
    (∃ what, found = .ok what ∧ b'.counts = b.counts.record what)
      ∨ ∃ fault, found = .error fault ∧ b'.counts = b.counts.reject := by
  unfold take at h
  split at h
  · next what =>
    injection h with h
    exact .inl ⟨what, rfl, h ▸ rfl⟩
  · next fault =>
    split at h
    · injection h with h
      exact .inr ⟨fault, rfl, h ▸ rfl⟩
    · cases h

/-- **The tally goes on over the entries that are taken.** By induction on the entries, with the
classifications of those that were understood so far. -/
theorem counts_takeAll {b b' : Batch} {rejected : Nat} {cs : List Classification}
    (counted : b.counts = .tally rejected cs) (h : b.takeAll (classified c entries) = .ok b') :
    b'.counts = .tally (rejected + (c.rejected entries).length) (cs ++ c.understood entries) := by
  induction entries generalizing b rejected cs with
  | nil =>
      injection h with h
      simpa [Classifier.rejected, Classifier.understood, ← h] using counted
  | cons entry entries ih =>
      obtain ⟨next, taken, h⟩ := bind_eq_ok_iff.1 h
      rcases counts_take taken with ⟨found, classified, next⟩ | ⟨fault, refused, next⟩
      · rw [counted, Counts.record_tally] at next
        rw [ih next h]
        simp [Classifier.rejected, Classifier.understood, classified, Except.toOption]
      · rw [counted, Counts.reject_tally] at next
        rw [ih next h]
        simp [Classifier.rejected, Classifier.understood, refused, Except.toOption, Nat.add_assoc,
          Nat.add_comm 1]

/-- **The counts of a batch are the tally of its entries.** -/
theorem counts_ofEntries {workers : Nat} {b : Batch} (made : ofEntries c workers entries = .ok b) :
    b.counts = .tally (c.rejected entries).length (c.understood entries) := by
  rw [ofEntries_eq] at made
  have counted : empty.counts = .tally 0 [] := rfl
  simpa using counts_takeAll counted made

/-- **The counts of a batch agree with each other and with what is kept**, and no query is counted
under two kinds if the standard predicates are asked alone. -/
theorem balanced_ofEntries {workers : Nat} {b : Batch}
    (made : ofEntries c workers entries = .ok b) :
    Balanced c entries b ∧ (c.predicates = Predicate.standard → b.counts.Exclusive) := by
  have counts := counts_ofEntries made
  have ordered := Counts.insertedRows_tally_le (c.rejected entries).length (c.understood entries)
  rw [← counts] at ordered
  constructor
  · exact {
      total_eq := by
        rw [counts]
        exact c.length_understood_add entries
      total_eq_add := by
        rw [counts]
        rfl
      queries_eq := queries_ofEntries made
      moves_eq := by
        calc b.counts.moves
            = (c.understood entries).countP Classification.movesData := by
              rw [counts]
              rfl
          _ = (b.queries.map LoggedQuery.classification).length := by
              rw [classifications_ofEntries made, List.countP_eq_length_filter]
          _ = b.queries.length := by rw [List.length_map]
      insertedRows_le := ordered.1
      inserts_le := ordered.2 }
  · intro standard
    rw [counts]
    refine Counts.exclusive_tally _ fun found member => ?_
    obtain ⟨entry, -, classified⟩ := Classifier.mem_understood.1 member
    have same : c = .withReader c.read := by
      rw [Classifier.withReader, ← standard]
    rw [same] at classified
    exact length_contexts_of_classify classified

/-- Five statements, one of which is not understood and two of which are kept; an insertion of
values is counted and not kept. -/
theorem balanced_of_five_statements :
    ∃ (entries : List Log.Entry) (b : Batch),
      ofEntries (.withReader (readStatements .mysql)) 2 entries = .ok b
        ∧ b.counts = { Counts.zero with
            total := 5, parsed := 4, rejected := 1, lookups := 1, inserts := 2, insertedRows := 1,
            copies := 1, moves := 2 }
        ∧ Balanced (.withReader (readStatements .mysql)) entries b ∧ b.counts.Exclusive := by
  let entries := ["insert into a select * from b", "select 1", "insert into c values (1)", "selec",
    "copy t from 's3://x'"].map fun text => { Log.Entry.blank with sql := text }
  have batch : (ofEntries (.withReader (readStatements .mysql)) 2 entries).toOption.map Batch.counts
      = some { Counts.zero with
          total := 5, parsed := 4, rejected := 1, lookups := 1, inserts := 2, insertedRows := 1,
          copies := 1, moves := 2 } := by
    decide +kernel
  obtain ⟨b, made, counts⟩ := toOption_map_eq_some_iff.1 batch
  obtain ⟨balanced, apart⟩ := balanced_ofEntries made
  exact ⟨entries, b, made, counts, balanced, apart rfl⟩

end Batch

end QueryFlow
