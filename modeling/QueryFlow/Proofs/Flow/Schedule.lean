import QueryFlow.Proofs.Flow.Rank

/-!
# The phases of a flow graph

The phases of a graph are its *layout* if they hold the queries that write something, each once, and
if a query stands in phase zero when it awaits none and otherwise right behind the last of the
queries that it awaits. It makes no difference where in the log these stand.

## How the layout comes about

The phases are read off the numbers that queries were given: the phase of an index has the queries
with this number. So most of a layout is the invariant about these numbers, said of lists of
queries. What is left to show is that no phase is empty. Let a query have a phase other than zero.
It awaits one with the phase right before, and so on down to zero; as the number of phases is one
more than the greatest number, every number below is met on the way (`exists_query`).

## Readers and writers

A reader of a node is to stand behind all other writers of it. This holds for every reader that does
not write the node itself (`phase_lt_of_reads`), and the condition cannot be dropped: only the
sources that a query does not write are asked for their writers, so that a query which changes a
table may share a phase with another writer of that table, although it reads what that one writes
(`not_phase_lt_of_reads`).

## Main results

* `layout_phases`: phases that a graph has are its layout.
* `phase_lt_of_reads`: the writer of a node stands before a query that reads the node and does not
  write it.
* `not_phase_lt_of_reads`: it need not stand before a query that also writes the node.
-/

namespace QueryFlow.Flow

/-- A query stands in the phase at a position. It is said of the list of phases alone, so that
layouts of different graphs can be compared by it. -/
def InPhase (ps : List Phase) (query index : Nat) : Prop :=
  ∃ p, ps[index]? = some p ∧ query ∈ p.queries

instance (ps : List Phase) (query index : Nat) : Decidable (InPhase ps query index) :=
  decidable_of_iff ((ps[index]?.any fun p => decide (query ∈ p.queries)) = true)
    (by simp [InPhase, Option.any_eq_true])

namespace Graph

/-- What the phases of a graph are to be. The fields determine them: which queries stand in a phase
follows from what the queries read and write, and so does the number of phases. -/
structure Layout (g : Graph) (ps : List Phase) : Prop where
  /-- Phases are counted from zero on. -/
  index_eq : ∀ (i : Nat) (p : Phase), ps[i]? = some p → p.index = i
  /-- No phase is empty. -/
  nonempty : ∀ p ∈ ps, p.queries ≠ []
  /-- Queries stand in a phase in their order, each once. -/
  ascending : ∀ p ∈ ps, p.queries.Pairwise (· < ·)
  /-- A query that writes something stands in exactly one phase. -/
  complete : ∀ q, (∃ n, g.Writes q n) → ∃! i, InPhase ps q i
  /-- No other query stands in a phase. -/
  writers : ∀ q i, InPhase ps q i → ∃ n, g.Writes q n
  /-- A query that awaits none stands in the first phase. -/
  first : ∀ q i, InPhase ps q i → (∀ w, ¬ g.Awaits q w) → i = 0
  /-- A query that awaits others stands in the phase after the last of them. -/
  next : ∀ q i, InPhase ps q i → (∃ w, g.Awaits q w) →
    ∃ m, IsGreatest {j | ∃ w, g.Awaits q w ∧ InPhase ps w j} m ∧ i = 1 + m
  /-- The tables of a phase are those that its queries write, in ascending order. -/
  tables : ∀ p ∈ ps, p.tables.toList.Pairwise (· < ·) ∧ ∀ name, name ∈ p.tables.toList ↔
    ∃ q ∈ p.queries, ∃ n, g.Writes q n ∧ g.nodeName? n = some name

variable {g : Graph} {ps : List Phase} {q i : Nat}

/-- **A graph has phases if no node is blocked.** -/
theorem phases_eq_ok_iff :
    g.phases = .ok ps ↔ g.dependencies.blocked = []
      ∧ ps = (List.range (phaseCount g.rank)).map (g.phaseAt g.rank) := by
  unfold phases
  split
  · next free =>
    have free := List.isEmpty_iff.1 free
    simp only [free, true_and, Except.ok.injEq]
    exact eq_comm
  · next blocked =>
    have blocked : g.dependencies.blocked ≠ [] := fun free => blocked (List.isEmpty_iff.2 free)
    simp [blocked]

/-- The names that queries write. -/
theorem mem_written {queries : List Nat} {name : String} :
    name ∈ g.written queries ↔
      ∃ q ∈ queries, ∃ n, g.Writes q n ∧ g.nodeName? n = some name := by
  simp only [written, NameSet.mem_ofList, List.mem_flatMap]
  refine exists_congr fun q => and_congr_right fun _ => ?_
  cases found : g.footprint? q with
  | none => simp [Writes, found]
  | some f => simp [Writes, found]

/-- A phase is below the number of phases if a query has it. -/
theorem lt_phaseCount {r : Ranks} (ranked : r.query? q = some i) : i < phaseCount r := by
  have member : some i ∈ r.queries := by
    rw [Ranks.query?, Option.join_eq_some_iff] at ranked
    exact List.mem_of_getElem? ranked
  exact (foldl_max (fun phase : Option Nat => phase.elim 0 (· + 1)) r.queries 0).2.2 _ member

/-- **No phase is empty**: behind a query of a phase stands one of the phase before. The induction
goes down from the greatest phase that a query has. -/
theorem exists_query (sound : g.rank.Sound g) (bound : i < phaseCount g.rank) :
    ∃ q, g.rank.query? q = some i := by
  have last : ∃ k q, i ≤ k ∧ g.rank.query? q = some k := by
    rcases (foldl_max (fun phase : Option Nat => phase.elim 0 (· + 1)) g.rank.queries 0).1 with
      h | ⟨phase, member, h⟩
    · simp only [phaseCount, h] at bound
      omega
    · rw [phaseCount, h] at bound
      cases phase with
      | none => simp at bound
      | some k =>
          obtain ⟨q, found⟩ := List.mem_iff_getElem?.1 member
          exact ⟨k, q, by simpa [Nat.lt_succ_iff] using bound, by simp [Ranks.query?, found]⟩
  obtain ⟨k, q, le, ranked⟩ := last
  induction k generalizing q with
  | zero => exact ⟨q, by rw [ranked, Nat.le_zero.1 le]⟩
  | succ k ih =>
      rcases Nat.le_succ_iff.1 le with le | rfl
      · have waits : ∃ w, g.Awaits q w := by
          by_contra none
          have := sound.query_eq_zero ranked fun w awaits => none ⟨w, awaits⟩
          omega
        obtain ⟨m, ⟨⟨w, -, before⟩, -⟩, next⟩ := sound.exists_isGreatest ranked waits
        have same : m = k := by omega
        exact ih w le (same ▸ before)
      · exact ⟨q, ranked⟩

section Laid

variable (laid : ps = (List.range (phaseCount g.rank)).map (g.phaseAt g.rank))

include laid

theorem getElem?_laid {p : Phase} :
    ps[i]? = some p ↔ i < phaseCount g.rank ∧ p = g.phaseAt g.rank i := by
  rw [laid, getElem?_map_range_eq_some_iff]

/-- **A query stands in the phase that it has**, and in no other one. -/
theorem inPhase_iff (sound : g.rank.Sound g) : InPhase ps q i ↔ g.rank.query? q = some i := by
  constructor
  · rintro ⟨p, found, member⟩
    obtain ⟨-, rfl⟩ := (getElem?_laid laid).1 found
    simpa using (List.mem_filter.1 member).2
  · intro ranked
    refine ⟨g.phaseAt g.rank i, (getElem?_laid laid).2 ⟨lt_phaseCount ranked, rfl⟩, ?_⟩
    obtain ⟨f, found, -⟩ := sound.query_eq q i ranked
    have bound : q < g.queries.length := (List.getElem?_eq_some_iff.1 found).1
    simp [phaseAt, bound, ranked]

/-- A query that has a phase stands in exactly one. -/
theorem existsUnique_inPhase (sound : g.rank.Sound g) (ranked : g.rank.query? q ≠ none) :
    ∃! i, InPhase ps q i := by
  obtain ⟨i, here⟩ := Option.ne_none_iff_exists'.1 ranked
  refine ⟨i, (inPhase_iff laid sound).2 here, fun j there => ?_⟩
  have there := (inPhase_iff laid sound).1 there
  rw [here] at there
  exact (Option.some.inj there).symm

end Laid

/-- **Phases that a graph has are its layout.** The ranks are sound because the graph has no cycle,
and each condition of a layout is read off them. -/
theorem layout_phases (grown : g.Grown) (h : g.phases = .ok ps) : g.Layout ps := by
  obtain ⟨free, laid⟩ := phases_eq_ok_iff.1 h
  obtain ⟨sound, ranked⟩ := sound_rank grown.valid free
  have inPhase (q i : Nat) := inPhase_iff laid sound (q := q) (i := i)
  have at_position (p : Phase) (member : p ∈ ps) :
      ∃ i, i < phaseCount g.rank ∧ p = g.phaseAt g.rank i := by
    obtain ⟨i, found⟩ := List.mem_iff_getElem?.1 member
    exact ⟨i, (getElem?_laid laid).1 found⟩
  constructor
  case index_eq =>
    intro i p found
    obtain ⟨-, rfl⟩ := (getElem?_laid laid).1 found
    rfl
  case nonempty =>
    intro p member
    obtain ⟨i, bound, rfl⟩ := at_position p member
    obtain ⟨q, here⟩ := exists_query sound bound
    obtain ⟨p, found, listed⟩ := (inPhase q i).2 here
    obtain ⟨-, rfl⟩ := (getElem?_laid laid).1 found
    exact List.ne_nil_of_mem listed
  case ascending =>
    intro p member
    obtain ⟨i, -, rfl⟩ := at_position p member
    exact List.pairwise_lt_range.filter _
  case complete => exact fun q writes => existsUnique_inPhase laid sound ((ranked q).2 writes)
  case writers =>
    intro q i here
    exact (ranked q).1 (by simp [(inPhase q i).1 here])
  case first => exact fun q i here none => sound.query_eq_zero ((inPhase q i).1 here) none
  case next =>
    intro q i here waits
    obtain ⟨m, greatest, next⟩ := sound.exists_isGreatest ((inPhase q i).1 here) waits
    refine ⟨m, ?_, by omega⟩
    simpa only [inPhase] using greatest
  case tables =>
    intro p member
    obtain ⟨i, -, rfl⟩ := at_position p member
    exact ⟨NameSet.sorted _, fun name => mem_written⟩

/-- A table with two writers in different phases is read after both of them, also by a query that
changes what it reads. -/
theorem layout_of_two_writers :
    ∃ g : Graph, g.Grown
      ∧ g.phases = .ok [⟨0, [1, 2], .ofList ["b", "x"]⟩, ⟨1, [3], .singleton "b"⟩,
          ⟨2, [0], .singleton "c"⟩]
      ∧ g.Layout [⟨0, [1, 2], .ofList ["b", "x"]⟩, ⟨1, [3], .singleton "b"⟩,
          ⟨2, [0], .singleton "c"⟩] := by
  let g := ofQueries [⟨[.insert ⟨"c", .ofList ["B", "c"]⟩]⟩, ⟨[.insert ⟨"b", .singleton "a"⟩]⟩,
    ⟨[.create ⟨"x", .singleton "a"⟩]⟩, ⟨[.insert ⟨"b", .singleton "x"⟩]⟩, ⟨[.maintenance]⟩]
  have phases : g.phases = .ok [⟨0, [1, 2], .ofList ["b", "x"]⟩, ⟨1, [3], .singleton "b"⟩,
      ⟨2, [0], .singleton "c"⟩] := by decide +kernel
  exact ⟨g, grown_ofQueries _, phases, layout_phases (grown_ofQueries _) phases⟩

/-! ### Readers and writers -/

/-- **The writer of a node stands before a query that reads the node and does not write it.** The
writer stands in one phase, and so does the reader if it writes anything. -/
theorem phase_lt_of_reads {cs : List Classification} (h : (ofQueries cs).phases = .ok ps)
    {w n : Nat} (writes : (ofQueries cs).Writes w n) (reads : (ofQueries cs).Reads q n)
    (own : ¬ (ofQueries cs).Writes q n) :
    (∃! i, InPhase ps w i) ∧ ((∃ m, (ofQueries cs).Writes q m) → ∃! j, InPhase ps q j)
      ∧ ∀ i j, InPhase ps w i → InPhase ps q j → i < j := by
  obtain ⟨free, laid⟩ := phases_eq_ok_iff.1 h
  obtain ⟨sound, ranked⟩ := sound_rank (grown_ofQueries cs).valid free
  refine ⟨existsUnique_inPhase laid sound ((ranked w).2 ⟨n, writes⟩),
    fun writes => existsUnique_inPhase laid sound ((ranked q).2 writes), fun i j before here => ?_⟩
  have awaits : (ofQueries cs).Awaits q w := ⟨n, reads, own, writes⟩
  have here := (inPhase_iff laid sound).1 here
  obtain ⟨m, ⟨-, above⟩, next⟩ := sound.exists_isGreatest here ⟨w, awaits⟩
  have := above ⟨w, awaits, (inPhase_iff laid sound).1 before⟩
  omega

/-- A table that is filled by one query and changed by another is read after the first of them. -/
theorem phase_lt_of_two_writers :
    ∃ (cs : List Classification) (ps : List Phase),
      (ofQueries cs).phases = .ok ps ∧ ps.map Phase.queries = [[1, 2], [0]]
      ∧ (ofQueries cs).Writes 1 0 ∧ (ofQueries cs).Reads 0 0 ∧ ¬ (ofQueries cs).Writes 0 0
      ∧ (∃! i, InPhase ps 1 i) ∧ (∃! j, InPhase ps 0 j)
      ∧ ∀ i j, InPhase ps 1 i → InPhase ps 0 j → i < j := by
  let cs : List Classification := [⟨[.create ⟨"c", .singleton "a"⟩]⟩,
    ⟨[.insert ⟨"a", .singleton "b"⟩]⟩, ⟨[.insert ⟨"a", .singleton "a"⟩]⟩]
  have phases : (ofQueries cs).phases =
      .ok [⟨0, [1, 2], .singleton "a"⟩, ⟨1, [0], .singleton "c"⟩] := by decide +kernel
  have writes : (ofQueries cs).Writes 1 0 := ⟨⟨[2], [0]⟩, by rfl, by simp⟩
  have reads : (ofQueries cs).Reads 0 0 := ⟨⟨[0], [1]⟩, by rfl, by simp⟩
  have own : ¬ (ofQueries cs).Writes 0 0 := by
    rw [writes_iff (f := ⟨[0], [1]⟩) (by rfl)]
    simp
  have writes' : (ofQueries cs).Writes 0 1 := ⟨⟨[0], [1]⟩, by rfl, by simp⟩
  obtain ⟨before, here, less⟩ := phase_lt_of_reads phases writes reads own
  exact ⟨cs, _, phases, rfl, writes, reads, own, before, here ⟨1, writes'⟩, less⟩

/-- **A reader may stand beside a writer**: a query that writes what it reads shares its phase with
another writer of that node. -/
theorem not_phase_lt_of_reads :
    ¬ ∀ (cs : List Classification) (ps : List Phase), (ofQueries cs).phases = .ok ps →
      ∀ q w n, q ≠ w → (ofQueries cs).Writes w n → (ofQueries cs).Reads q n →
        ∃ i j, InPhase ps w i ∧ InPhase ps q j ∧ i < j := by
  intro claim
  obtain ⟨i, j, before, here, less⟩ := claim
    [⟨[.insert ⟨"a", .singleton "b"⟩]⟩, ⟨[.insert ⟨"a", .singleton "a"⟩]⟩]
    [⟨0, [0, 1], .singleton "a"⟩] (by rfl) 1 0 1 (by decide) ⟨⟨[0], [1]⟩, by rfl, by simp⟩
    ⟨⟨[1], [1]⟩, by rfl, by simp⟩
  obtain ⟨p, found, -⟩ := here
  have bound := (List.getElem?_eq_some_iff.1 found).1
  simp at bound
  omega

end Graph

end QueryFlow.Flow
