import Mathlib.Tactic.IntervalCases
import QueryFlow.Proofs.Flow.Order

/-!
# How the nodes of a graph are divided

The work on an order starts with the numbers of predecessors and takes one from a number whenever a
predecessor is placed. That no number is taken below zero is not seen from the step, which would
leave a zero as it is: it holds because every front on the way is sound, so that a successor of the
node that is placed was waiting for it, and because no node is released twice in one step.

The work stops by itself: as long as a node is ready, a step places it, and there are no more nodes
than the graph has. In the end every node is either in the order or blocked. The two lists together
have every node once, since no node is in the order twice and the blocked nodes are picked, in
ascending order, from all nodes by whether they still wait.

The last theorem puts these facts together with those about predecessors and cycles into one
statement about any digraph, without a condition on it.

## Main results

* `Front.Sound.safe`: a number from which one is taken is not zero.
* `run_of_size_le`: the work stops after as many steps as there are nodes, or before that.
* `perm_order_append_blocked`: the order and the blocked nodes are all nodes, each once.
* `sorts_nodes`: all of this, and which nodes are in the order and which are blocked.
-/

namespace QueryFlow.Flow.Digraph

variable {d : Digraph}

/-! ### No number is taken below zero -/

/-- The front in which a node is placed, and its successors are to be released. -/
def Front.place (s : Front) (node : Nat) (ready : List Nat) : Front :=
  { s with ready, placed := node :: s.placed }

/-- A step places the first of the ready nodes and then releases its successors one by one. -/
theorem step?_of_first {s : Front} {node : Nat} {ready : List Nat}
    (first : s.ready = node :: ready) :
    d.step? s = some ((d.next node).foldl Front.release (s.place node ready)) := by
  rw [step?, first, Front.place]

/-- The step from a front releases the successors of the node that it places, and each of them is
still waiting at the moment in which it is released, when the ones before it in the list have been
released already. -/
def Front.Safe (d : Digraph) (s : Front) : Prop :=
  ∀ node ready, s.ready = node :: ready →
    d.step? s = some ((d.next node).foldl Front.release (s.place node ready))
      ∧ ∀ earlier t later, d.next node = earlier ++ t :: later →
        0 < (earlier.foldl Front.release (s.place node ready)).waitsFor t

/-- **A number from which one is taken is not zero.** The successors that were released before in
the same step are others. -/
theorem Front.Sound.safe {s : Front} (sound : s.Sound d) : s.Safe d := by
  refine fun node ready first => ⟨step?_of_first first, fun earlier t later split => ?_⟩
  have edge (u : Nat) (member : u ∈ earlier ++ t :: later) : d.Edge node u := by
    rw [Edge, split]
    exact member
  obtain ⟨unique, -, apart⟩ := List.nodup_append.1 (split ▸ d.nodup_next node)
  have fresh : t ∉ earlier := fun again => apart t again t List.mem_cons_self rfl
  have bound : ∀ u ∈ earlier, u < (s.place node ready).waits.length := fun u member =>
    sound.length ▸ lt_size_of_mem_next (edge u (List.mem_append_left _ member))
  rw [waitsFor_foldl_release unique bound, if_neg fresh]
  exact sound.waits_of_first first (edge t (by simp))

/-! ### The work stops -/

theorem run_of_step?_eq_none {s : Front} (stop : d.step? s = none) (n : Nat) : d.run n s = s := by
  cases n with
  | zero => rfl
  | succ n => rw [run, stop]

theorem run_add (m n : Nat) (s : Front) : d.run (m + n) s = d.run n (d.run m s) := by
  induction m generalizing s with
  | zero => rw [Nat.zero_add, run]
  | succ m ih =>
      rw [Nat.succ_add, run, run]
      cases step : d.step? s with
      | none => exact (run_of_step?_eq_none step n).symm
      | some s' => exact ih s'

/-- No step can be made in the end. -/
theorem step?_final (d : Digraph) : d.step? d.final = none := by
  rw [step?, ready_final d]

/-- **The work stops after as many steps as there are nodes**, or before that: more steps change
nothing. -/
theorem run_of_size_le {n : Nat} (long : d.size ≤ n) : d.run n d.start = d.final := by
  obtain ⟨more, rfl⟩ := Nat.exists_eq_add_of_le long
  rw [run_add]
  exact run_of_step?_eq_none (step?_final d) more

/-! ### All nodes, each once -/

theorem pairwise_blocked (d : Digraph) : d.blocked.Pairwise (· < ·) :=
  List.pairwise_lt_range.filter _

/-- **The order and the blocked nodes are all nodes, each once.** Both are without repetitions, and
share none. -/
theorem perm_order_append_blocked (d : Digraph) :
    (d.order ++ d.blocked).Perm (List.range d.size) := by
  have nodup : (d.order ++ d.blocked).Nodup := by
    refine List.nodup_append.2 ⟨nodup_order d, List.nodup_range.filter _, ?_⟩
    rintro node ordered _ blocked rfl
    exact (mem_blocked_iff_notMem_order.1 blocked).2 ordered
  refine (List.perm_ext_iff_of_nodup nodup List.nodup_range).2 fun node => ?_
  rw [List.mem_append, mem_blocked_iff_notMem_order, List.mem_range]
  by_cases ordered : node ∈ d.order
  · exact iff_of_true (.inl ordered) (mem_order.1 ordered).1
  · simp [ordered]

/-- **The nodes of a graph are sorted or blocked.** On the way no number of predecessors is taken
below zero, and the work stops. Then the order and the blocked nodes are all nodes, each once; every
node of the order comes behind its predecessors; and the blocked nodes are, in ascending order,
those that a cycle reaches. -/
theorem sorts_nodes (d : Digraph) :
    (∀ n, (d.run n d.start).Safe d)
      ∧ (d.step? d.final = none ∧ ∀ n, d.size ≤ n → d.run n d.start = d.final)
      ∧ (d.order ++ d.blocked).Perm (List.range d.size)
      ∧ (∀ earlier node later, d.order = earlier ++ node :: later →
          ∀ source, d.Edge source node → source ∈ earlier)
      ∧ d.blocked.Pairwise (· < ·)
      ∧ ∀ node, node ∈ d.blocked ↔ ∃ source, d.OnCycle source ∧ d.Reaches source node :=
  ⟨fun n => ((sound_start d).run n).1.safe, ⟨step?_final d, fun _ => run_of_size_le⟩,
    perm_order_append_blocked d, fun _ _ _ split _ => founded_order split, pairwise_blocked d,
    fun _ => mem_blocked_iff⟩

/-- A graph with a cycle through two nodes, three nodes in front of it and one behind it. -/
def looped : Digraph where
  successors := [[1, 2], [3], [], [4], [3, 5], []]
  bounded := by decide
  nodup := by decide
  loopless node targets found := by
    have inside : node < 6 := (List.getElem?_eq_some_iff.1 found).1
    interval_cases node <;> cases found <;> decide

/-- Three nodes in front of a cycle are sorted, and the nodes on it and behind it are blocked. -/
theorem sorts_nodes_of_looped :
    looped.order = [0, 1, 2] ∧ looped.blocked = [3, 4, 5]
      ∧ 0 < ([1].foldl Front.release (looped.start.place 0 [])).waitsFor 2
      ∧ looped.run 9 looped.start = looped.final
      ∧ (∀ source, looped.Edge source 2 → source ∈ [0, 1])
      ∧ (∃ source, looped.OnCycle source ∧ looped.Reaches source 5)
      ∧ ¬ ∃ source, looped.OnCycle source ∧ looped.Reaches source 2 := by
  obtain ⟨safe, ⟨-, stops⟩, -, founded, -, reached⟩ := sorts_nodes looped
  have order : looped.order = [0, 1, 2] := by decide +kernel
  have blocked : looped.blocked = [3, 4, 5] := by decide +kernel
  have waits := (safe 0 0 [] (by decide +kernel)).2 [1] 2 [] (by decide +kernel)
  have behind : ∃ source, looped.OnCycle source ∧ looped.Reaches source 5 := by
    rw [← reached, blocked]
    decide
  have before : ¬ ∃ source, looped.OnCycle source ∧ looped.Reaches source 2 := by
    rw [← reached, blocked]
    decide
  exact ⟨order, blocked, waits, stops 9 (by decide), founded [0, 1] 2 [] order, behind, before⟩

end QueryFlow.Flow.Digraph
