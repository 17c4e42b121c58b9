import Mathlib.Data.List.Nodup
import QueryFlow.Proofs.Flow.Reach

/-!
# The order of a directed graph

What the work that orders a directed graph achieves: the order holds exactly the nodes that no cycle
reaches, each of them once and behind its predecessors. Nodes that a cycle reaches are *blocked*.

## The invariant

A `Front` is *sound* if

* its numbers count, for every node, the predecessors that are not placed,
* the nodes that wait for none are those that are ready or placed, each of them once,
* every placed node comes behind its predecessors.

A step places the first of the ready nodes and lowers the numbers of its successors. It keeps a
front sound because every successor still waits for that node: were it ready or placed, its
predecessors would all be placed, and the node is not (`Front.Sound.waits_of_first`). So no number
is lowered below zero, and a successor becomes ready exactly if it waited for this node only.

## The end of the work

There are as many steps as nodes. Every step places a node that was not placed, so either the work
stopped before with no node ready, or all nodes are placed (`Front.Sound.run`). In both cases no
node is ready in the end, and a node is missing from the order only if it waits for a predecessor
that is missing too. Walking backwards along such predecessors ends on a cycle. In the other
direction nothing that a cycle reaches is ever placed: the predecessors of a placed node are placed
before it, which no order can give to all nodes of a cycle (`Founded.not_onCycle`).

## Main results

* `Front.Sound.step` and `Front.Sound.run`: what one step, and what any number of steps keeps.
* `sound_final` and `ready_final`: what the whole work leaves behind.
* `founded_order` and `nodup_order`: every node of the order comes behind its predecessors, and no
  node comes twice.
* `mem_blocked_iff`: the blocked nodes are those that a cycle reaches.
-/

open Relation

namespace QueryFlow.Flow.Digraph

/-! ### Predecessors -/

/-- The nodes with an edge to a node, in ascending order and each once. The work itself only knows
the lists of successors; that its numbers count these nodes is `inDegree_eq_length`. -/
def predecessors (d : Digraph) (node : Nat) : List Nat :=
  (List.range d.size).filter fun source => (d.next source).contains node

/-- The predecessors of a node that are not placed: what the number of the node counts. -/
def pending (d : Digraph) (placed : List Nat) (node : Nat) : List Nat :=
  (d.predecessors node).filter fun source => !placed.contains source

theorem mem_predecessors {d : Digraph} {source node : Nat} :
    source ∈ d.predecessors node ↔ d.Edge source node := by
  simp only [predecessors, List.mem_filter, List.mem_range, List.contains_iff_mem]
  exact ⟨And.right, fun edge => ⟨lt_size_of_next edge, edge⟩⟩

theorem mem_pending {d : Digraph} {placed : List Nat} {source node : Nat} :
    source ∈ d.pending placed node ↔ d.Edge source node ∧ source ∉ placed := by
  simp [pending, mem_predecessors]

theorem nodup_pending (d : Digraph) (placed : List Nat) (node : Nat) :
    (d.pending placed node).Nodup :=
  (List.nodup_range.filter _).filter _

/-- Placing one more node takes it from the pending predecessors. -/
theorem pending_cons (d : Digraph) (placed : List Nat) (node target : Nat) :
    d.pending (node :: placed) target = (d.pending placed target).erase node := by
  rw [(nodup_pending d placed target).erase_eq_filter, pending, pending, List.filter_filter]
  refine List.filter_congr fun source _ => ?_
  simp [bne, Bool.beq_eq_decide_eq]

/-- The lists of successors in the order of the nodes. -/
theorem successors_eq_map_next (d : Digraph) : d.successors = (List.range d.size).map d.next := by
  refine List.ext_getElem (by simp [size]) fun i h _ => ?_
  simp [next_of_getElem? (List.getElem?_eq_getElem h)]

/-- **As many edges end in a node as it has predecessors.** By induction on the nodes that edges may
start from, as the loop counts them. -/
theorem inDegree_eq_length (d : Digraph) (node : Nat) :
    d.inDegree node = (d.predecessors node).length := by
  have sum (sources : List Nat) : ((sources.map d.next).flatten.count node) =
      (sources.filter fun source => (d.next source).contains node).length := by
    induction sources with
    | nil => rfl
    | cons source sources ih =>
        by_cases edge : node ∈ d.next source
        · simp [ih, edge, (d.nodup_next source).count, Nat.add_comm]
        · simp [ih, edge, List.count_eq_zero_of_not_mem edge]
  rw [inDegree, successors_eq_map_next, sum, predecessors]

/-! ### Releasing the successors of a node -/

namespace Front

@[simp] theorem placed_release (s : Front) (t : Nat) : (s.release t).placed = s.placed := rfl

@[simp] theorem length_waits_release (s : Front) (t : Nat) :
    (s.release t).waits.length = s.waits.length := by
  simp [release]

theorem waitsFor_release {s : Front} {t : Nat} (bound : t < s.waits.length) (node : Nat) :
    (s.release t).waitsFor node = if node = t then s.waitsFor t - 1 else s.waitsFor node := by
  unfold release waitsFor
  rcases eq_or_ne node t with rfl | different
  · simp [bound]
  · simp [different, List.getElem?_set_ne (Ne.symm different)]

@[simp] theorem placed_foldl_release (ts : List Nat) (s : Front) :
    (ts.foldl release s).placed = s.placed := by
  induction ts generalizing s with
  | nil => rfl
  | cons t ts ih => simp [ih]

@[simp] theorem length_waits_foldl_release (ts : List Nat) (s : Front) :
    (ts.foldl release s).waits.length = s.waits.length := by
  induction ts generalizing s with
  | nil => rfl
  | cons t ts ih => simp [ih]

/-- Released nodes wait for one predecessor less, the others for as many as before. No node is
released twice, since no list of successors has a node twice. -/
theorem waitsFor_foldl_release {ts : List Nat} {s : Front} (nodup : ts.Nodup)
    (bound : ∀ t ∈ ts, t < s.waits.length) (node : Nat) :
    (ts.foldl release s).waitsFor node =
      if node ∈ ts then s.waitsFor node - 1 else s.waitsFor node := by
  induction ts generalizing s with
  | nil => simp
  | cons t ts ih =>
      obtain ⟨fresh, nodup⟩ := List.nodup_cons.1 nodup
      have first := waitsFor_release (bound t (by simp)) node
      rw [List.foldl_cons, ih nodup (by simpa using fun u hu => bound u (by simp [hu])), first]
      grind

/-- Those of the released nodes become ready that waited for one predecessor only. -/
theorem ready_foldl_release {ts : List Nat} {s : Front} (nodup : ts.Nodup)
    (bound : ∀ t ∈ ts, t < s.waits.length) :
    (ts.foldl release s).ready = s.ready ++ ts.filter fun t => s.waitsFor t ≤ 1 := by
  induction ts generalizing s with
  | nil => simp
  | cons t ts ih =>
      obtain ⟨fresh, nodup⟩ := List.nodup_cons.1 nodup
      have same : (ts.filter fun u => (s.release t).waitsFor u ≤ 1) =
          ts.filter fun u => s.waitsFor u ≤ 1 := by
        refine List.filter_congr fun u hu => ?_
        have different : u ≠ t := fun same => fresh (same ▸ hu)
        rw [waitsFor_release (bound t (by simp)), if_neg different]
      rw [List.foldl_cons, ih nodup (by simpa using fun u hu => bound u (by simp [hu])), same]
      by_cases last : s.waitsFor t ≤ 1
      · have zero : s.waitsFor t - 1 = 0 := by omega
        simp [release, last, zero]
      · have positive : s.waitsFor t - 1 ≠ 0 := by omega
        simp [release, last, positive]

end Front

/-! ### Soundness -/

/-- In a list of nodes, the last one first, every node comes behind its predecessors. The list is
taken from its end, in the order in which a front holds the placed nodes, so that a step only has to
add one condition in front. -/
def Founded (d : Digraph) : List Nat → Prop
  | [] => True
  | node :: earlier => (∀ source, d.Edge source node → source ∈ earlier) ∧ d.Founded earlier

/-- What is promised of a front, at the start of the work and after every step of it. -/
structure Front.Sound (d : Digraph) (s : Front) : Prop where
  /-- Every node has a number. -/
  length : s.waits.length = d.size
  /-- The numbers count the predecessors that are not placed. -/
  waits : ∀ node < d.size, s.waitsFor node = (d.pending s.placed node).length
  /-- No node is ready and placed, or either of them twice. -/
  nodup : (s.ready ++ s.placed).Nodup
  /-- The nodes that wait for none are ready or placed. -/
  mem : ∀ node, node ∈ s.ready ++ s.placed ↔ node < d.size ∧ s.waitsFor node = 0
  /-- Every placed node comes behind its predecessors. -/
  founded : d.Founded s.placed

/-- The front at the start is sound. -/
theorem sound_start (d : Digraph) : d.start.Sound d := by
  have waits (node : Nat) (bound : node < d.size) :
      d.start.waitsFor node = (d.predecessors node).length := by
    simp [start, Front.waitsFor, bound, inDegree_eq_length]
  refine ⟨by simp [start], fun node bound => ?_, ?_, fun node => ?_, trivial⟩
  · rw [waits node bound]
    simp [start, pending]
  · simpa [start] using List.nodup_range.filter _
  · simp only [start, List.append_nil, List.mem_filter, List.mem_range, beq_iff_eq]
    refine and_congr_right fun bound => ?_
    rw [inDegree_eq_length, ← waits node bound]
    rfl

namespace Front.Sound

variable {d : Digraph} {s s' : Front} {node target : Nat} {ready : List Nat}

/-- A node that waits for a predecessor is neither ready nor placed. -/
theorem notMem_of_waits (sound : s.Sound d) (waiting : 0 < s.waitsFor node) :
    node ∉ s.ready ++ s.placed := by
  intro member
  have := ((sound.mem node).1 member).2
  omega

/-- The predecessors of a ready or placed node are placed. -/
theorem placed_of_edge (sound : s.Sound d) (member : target ∈ s.ready ++ s.placed)
    (edge : d.Edge node target) : node ∈ s.placed := by
  obtain ⟨bound, none⟩ := (sound.mem target).1 member
  rw [sound.waits target bound] at none
  by_contra missing
  have : node ∈ d.pending s.placed target := mem_pending.2 ⟨edge, missing⟩
  rw [List.length_eq_zero_iff.1 none] at this
  nomatch this

/-- **The successors of the first of the ready nodes wait for it.** This is why a step may lower
their numbers: a successor that waits for nothing is ready or placed, its predecessors are placed,
and the first of the ready nodes is not. -/
theorem waits_of_first (sound : s.Sound d) (first : s.ready = node :: ready)
    (edge : d.Edge node target) : 0 < s.waitsFor target := by
  have nodup : (node :: (ready ++ s.placed)).Nodup := by simpa [first] using sound.nodup
  have unplaced : node ∉ s.placed := fun placed =>
    (List.nodup_cons.1 nodup).1 (List.mem_append_right _ placed)
  rw [sound.waits target (lt_size_of_mem_next edge)]
  exact List.length_pos_of_mem (mem_pending.2 ⟨edge, unplaced⟩)

/-- What a step does when the first of the ready nodes is placed, in terms of the numbers and lists
it leaves behind and not of the releases it is made of. -/
theorem step_eq (sound : s.Sound d) (first : s.ready = node :: ready) (step : d.step? s = some s') :
    s'.waits.length = d.size ∧ s'.placed = node :: s.placed
      ∧ s'.ready = ready ++ (d.next node).filter (fun t => s.waitsFor t ≤ 1)
      ∧ ∀ t, s'.waitsFor t = if d.Edge node t then s.waitsFor t - 1 else s.waitsFor t := by
  simp only [step?, first, Option.some.injEq] at step
  subst step
  have bound : ∀ t ∈ d.next node, t < s.waits.length :=
    fun t edge => sound.length ▸ lt_size_of_mem_next edge
  refine ⟨by simp [sound.length], by simp, ?_, fun t => ?_⟩
  · exact ready_foldl_release (d.nodup_next node) bound
  · exact waitsFor_foldl_release (s := { s with ready, placed := node :: s.placed })
      (d.nodup_next node) bound t

/-- **A step keeps a front sound.** Only the successors of the node that is placed wait for one node
less; those that then wait for none are new among the ready ones. -/
theorem step (sound : s.Sound d) (step : d.step? s = some s') : s'.Sound d := by
  obtain ⟨node, ready, first⟩ : ∃ node ready, s.ready = node :: ready := by
    unfold step? at step
    split at step
    · nomatch step
    · next node ready first => exact ⟨node, ready, first⟩
  obtain ⟨length, placed, newReady, waits⟩ := sound.step_eq first step
  have nodup : (node :: (ready ++ s.placed)).Nodup := by simpa [first] using sound.nodup
  have unplaced : node ∉ s.placed := by grind
  have waiting (t : Nat) (edge : d.Edge node t) : 0 < s.waitsFor t :=
    sound.waits_of_first first edge
  refine ⟨length, fun t bound => ?_, ?_, fun t => ?_, ?_⟩
  · rw [waits t, placed, pending_cons, sound.waits t bound]
    split
    · next edge => rw [List.length_erase_of_mem (mem_pending.2 ⟨edge, unplaced⟩)]
    · next noEdge => rw [List.erase_of_not_mem fun h => noEdge (mem_pending.1 h).1]
  · rw [newReady, placed]
    have fresh (t : Nat) (edge : d.Edge node t) : t ∉ node :: (ready ++ s.placed) := by
      simpa [first] using sound.notMem_of_waits (waiting t edge)
    have nodup' := (d.nodup_next node).filter fun t => s.waitsFor t ≤ 1
    simp only [List.nodup_append, List.nodup_cons, List.mem_append, List.mem_cons,
      List.mem_filter] at nodup fresh ⊢
    grind [Edge]
  · have before := sound.mem t
    rw [first] at before
    rw [newReady, placed, waits t]
    simp only [List.mem_append, List.mem_cons, List.mem_filter] at before ⊢
    by_cases edge : d.Edge node t
    · have := waiting t edge
      have := lt_size_of_mem_next edge
      grind [Edge]
    · grind [Edge]
  · rw [placed]
    exact ⟨fun source edge => sound.placed_of_edge (by simp [first]) edge, sound.founded⟩

/-- A step places one more node. -/
theorem length_step (step : d.step? s = some s') :
    s'.placed.length = s.placed.length + 1 := by
  unfold step? at step
  split at step
  · nomatch step
  · injection step with step
    subst step
    simp

/-- **What a run keeps**: the front stays sound, and nothing is ready unless as many nodes were
placed as there were steps. -/
theorem run (sound : s.Sound d) (n : Nat) :
    (d.run n s).Sound d
      ∧ ((d.run n s).ready = [] ∨ s.placed.length + n ≤ (d.run n s).placed.length) := by
  induction n generalizing s with
  | zero => exact ⟨sound, .inr (Nat.le_refl _)⟩
  | succ n ih =>
      rw [Digraph.run]
      split
      · next stop =>
          refine ⟨sound, .inl ?_⟩
          cases h : s.ready with
          | nil => rfl
          | cons node ready => simp [step?, h] at stop
      · next s' next =>
          have longer := length_step next
          obtain ⟨sound', stop | long⟩ := ih (sound.step next)
          · exact ⟨sound', .inl stop⟩
          · exact ⟨sound', .inr (by omega)⟩

end Front.Sound

/-! ### The end of the work -/

/-- **The work ends with a sound front**: the invariant of the loop, where no node is ready any
more. -/
theorem sound_final (d : Digraph) : d.final.Sound d := ((sound_start d).run d.size).1

/-- **The work ends when no node is ready.** As many nodes would be placed as the graph has, and the
ready one besides, if it did not. -/
theorem ready_final (d : Digraph) : d.final.ready = [] := by
  have sound := sound_final d
  rcases ((sound_start d).run d.size).2 with stop | long
  · exact stop
  · -- all nodes are placed, so that none is left to be ready
    have inside : d.final.ready ++ d.final.placed ⊆ List.range d.size :=
      fun node member => List.mem_range.2 ((sound.mem node).1 member).1
    have short := sound.nodup.length_le_of_subset inside
    have long : d.size ≤ d.final.placed.length := Nat.le_trans (Nat.le_add_left _ _) long
    rw [List.length_append, List.length_range] at short
    exact List.length_eq_zero_iff.1 (by omega)

/-- A node is in the order if it waits for no predecessor in the end. -/
theorem mem_order {d : Digraph} {node : Nat} :
    node ∈ d.order ↔ node < d.size ∧ d.final.waitsFor node = 0 := by
  rw [← (sound_final d).mem node, ready_final d]
  simp [order]

/-- **No node is in the order twice**, as a node is ready only once. -/
theorem nodup_order (d : Digraph) : d.order.Nodup := by
  have nodup := (sound_final d).nodup
  rw [ready_final d, List.nil_append] at nodup
  exact List.nodup_reverse.2 nodup

/-- **Every node is in the order or blocked, and not both**: what is blocked is what still waits in
the end. -/
theorem mem_blocked_iff_notMem_order {d : Digraph} {node : Nat} :
    node ∈ d.blocked ↔ node < d.size ∧ node ∉ d.order := by
  rw [mem_blocked, mem_order]
  grind

/-- In a founded list the part in front of a node holds its predecessors. -/
theorem Founded.mem_of_append {d : Digraph} {later earlier : List Nat} {node source : Nat}
    (founded : d.Founded (later ++ node :: earlier)) (edge : d.Edge source node) :
    source ∈ earlier := by
  induction later with
  | nil => exact founded.1 source edge
  | cons _ later ih => exact ih founded.2

/-- **Every node of the order comes behind its predecessors**, since it was placed when it waited
for none of them. -/
theorem founded_order {d : Digraph} {earlier later : List Nat} {node source : Nat}
    (split : d.order = earlier ++ node :: later) (edge : d.Edge source node) :
    source ∈ earlier := by
  have founded := (sound_final d).founded
  have reversed : d.final.placed = later.reverse ++ node :: earlier.reverse := by
    rw [← List.reverse_reverse d.final.placed]
    simpa [order] using congrArg List.reverse split
  rw [reversed] at founded
  simpa using founded.mem_of_append edge

/-- What reaches a member of a founded list is in the list. -/
theorem Founded.mem_of_reaches {d : Digraph} {nodes : List Nat} {source node : Nat}
    (founded : d.Founded nodes) (member : node ∈ nodes) (reaches : d.Reaches source node) :
    source ∈ nodes := by
  induction reaches with
  | refl => exact member
  | tail _ edge ih =>
      obtain ⟨later, earlier, rfl⟩ := List.append_of_mem member
      exact ih (by simp [founded.mem_of_append edge])

/-- **No member of a founded list is on a cycle.** -/
theorem Founded.not_onCycle {d : Digraph} {nodes : List Nat} {node : Nat}
    (founded : d.Founded nodes) (nodup : nodes.Nodup) (member : node ∈ nodes) :
    ¬ d.OnCycle node := by
  induction nodes with
  | nil => nomatch member
  | cons first earlier ih =>
      intro cycle
      obtain ⟨fresh, nodup⟩ := List.nodup_cons.1 nodup
      rcases List.mem_cons.1 member with rfl | member
      · obtain ⟨source, reaches, edge⟩ := TransGen.tail'_iff.1 cycle
        exact fresh (founded.2.mem_of_reaches (founded.1 source edge) reaches)
      · exact ih founded.2 nodup member cycle

/-! ### Blocked nodes -/

/-- **A blocked node has a blocked predecessor**, for it waits for one that is not placed. -/
theorem exists_edge_of_mem_blocked {d : Digraph} {target : Nat} (member : target ∈ d.blocked) :
    ∃ source ∈ d.blocked, d.Edge source target := by
  obtain ⟨bound, waiting⟩ := mem_blocked.1 member
  rw [(sound_final d).waits target bound] at waiting
  obtain ⟨source, pending⟩ := List.exists_mem_of_length_pos waiting
  obtain ⟨edge, unplaced⟩ := mem_pending.1 pending
  refine ⟨source, mem_blocked_iff_notMem_order.2 ⟨lt_size_of_next edge, ?_⟩, edge⟩
  simpa [order] using unplaced

/-- **The successors of a blocked node are blocked**: they wait for it, and it is never placed. -/
theorem closed_blocked (d : Digraph) : d.Closed d.blocked := by
  intro source blocked target edge
  refine mem_blocked_iff_notMem_order.2 ⟨lt_size_of_mem_next edge, fun ordered => ?_⟩
  obtain ⟨earlier, later, split⟩ := List.append_of_mem ordered
  refine (mem_blocked_iff_notMem_order.1 blocked).2 ?_
  rw [split]
  exact List.mem_append_left _ (founded_order split edge)

/-- A node on a cycle is blocked. -/
theorem OnCycle.mem_blocked {d : Digraph} {node : Nat} (cycle : d.OnCycle node) :
    node ∈ d.blocked := by
  obtain ⟨target, edge, -⟩ := TransGen.head'_iff.1 cycle
  refine mem_blocked_iff_notMem_order.2 ⟨lt_size_of_next edge, fun ordered => ?_⟩
  have nodup := List.nodup_reverse.1 (nodup_order d)
  exact (sound_final d).founded.not_onCycle nodup (by simpa [order] using ordered) cycle

/-- **The blocked nodes are those that a cycle reaches.** Going backwards from a blocked node one
never leaves the blocked ones, so one comes upon a node twice. -/
theorem mem_blocked_iff {d : Digraph} {node : Nat} :
    node ∈ d.blocked ↔ ∃ source, d.OnCycle source ∧ d.Reaches source node := by
  constructor
  · intro blocked
    obtain ⟨source, -, found⟩ :=
      exists_onCycle_of_hasPredecessors (fun _ member => exists_edge_of_mem_blocked member) blocked
    exact ⟨source, found⟩
  · rintro ⟨source, cycle, reaches⟩
    exact (closed_blocked d).mem_of_reaches reaches cycle.mem_blocked

end QueryFlow.Flow.Digraph
