import QueryFlow.Proofs.Flow.Order
import QueryFlow.Proofs.Flow.Walk
import QueryFlow.Proofs.Lists

/-!
# Gathering the components of a directed graph

The second of the two passes, and with it the whole analysis of the blocked nodes: what the program
reports as cycles are the sets of joined nodes that hold a node on a cycle, each of them once.

## What the second pass meets

It takes the nodes in the opposite of the order in which the first pass left them, passes over those
that it has taken, and gathers for every other node, the *root*, whatever the root is reached from
and was not taken. That this gives the component of the root and nothing else rests on two facts
about the moment when it comes to a root:

* whole components were taken before, never a part of one,
* what reaches the root and was not taken is joined to it.

The first is what an induction over the roots carries along. The second is where the settled order
comes in. Let a node reach the root. It is joined to a node that was not left before the root, that
is, to the root or to a node that the second pass has come to already. In the first case there is
nothing to show, in the second the node was taken together with the other one.

## One component

The work on one root keeps the invariant `Gathering.Sound`: whatever was taken for it is joined to
it, no node is taken twice, and the predecessors of every node that was looked at were taken. When
no node waits any more, the members are closed under going backwards, so that a way from any node
joined to the root shows that the node is a member, step by step from the end of the way.

## Main results

* `Gathering.Sound.step` and `Gathering.Sound.finish`: what the work on one component keeps.
* `classes_components`: the components are sets of joined nodes, no two of them have a node in
  common, and every node is in one of them.
* `exists_root_of_mem_cycles` and `exists_cycle_of_onCycle`: the cycles among the blocked nodes are
  all sets of joined nodes of the whole graph that hold a node on a cycle.
-/

open Relation

namespace QueryFlow.Flow.Digraph

/-! ### One component -/

namespace Gathering

/-- What is promised of the work on the component of a root, where some nodes were taken before: it
holds when only the root was taken, and every step keeps it. -/
structure Sound (d : Digraph) (nodes before : List Nat) (root : Nat) (c : Gathering) : Prop where
  /-- Every node was taken before, or was looked at, or waits for it. -/
  mem_taken : ∀ v, v ∈ c.taken ↔ v ∈ before ∨ v ∈ c.members ++ c.waiting
  /-- No node is taken twice. -/
  nodup : (c.members ++ c.waiting).Nodup
  /-- The root is taken. -/
  root_mem : root ∈ c.members ++ c.waiting
  /-- What is taken is joined to the root. -/
  joined : ∀ v ∈ c.members ++ c.waiting, d.JoinedIn nodes v root
  /-- The predecessors of a node that was looked at were taken. -/
  looked : ∀ v ∈ c.members, ∀ source, d.EdgeIn nodes source v → source ∈ c.taken

namespace Sound

variable {d : Digraph} {nodes before : List Nat} {root : Nat} {c c' : Gathering}

/-- **A step keeps the work on a component sound**, if what reaches the root and was not taken
before is joined to it. That condition is the only thing asked of the order of the nodes. -/
theorem step (sound : c.Sound d nodes before root) (distinct : nodes.Nodup) (inside : root ∈ nodes)
    (back : ∀ v ∈ nodes, v ∉ before → d.ReachesIn nodes v root → d.JoinedIn nodes v root)
    (step : c.step? d nodes = some c') : c'.Sound d nodes before root := by
  unfold step? at step
  split at step
  · nomatch step
  · next node waiting first =>
    injection step with step
    subst step
    have mem_found (v : Nat) :
        v ∈ c.newBefore d nodes node ↔ v ∈ nodes ∧ v ∉ c.taken ∧ d.Edge v node := by
      simp only [newBefore, untaken, List.mem_filter, Bool.not_eq_true', List.contains_eq_mem,
        decide_eq_false_iff_not, decide_eq_true_eq, and_assoc, Edge]
    have joined := sound.joined
    have nodup := sound.nodup
    have taken := sound.mem_taken
    have root_mem := sound.root_mem
    rw [first] at joined nodup taken root_mem
    have member : node ∈ nodes := (joined node (by simp)).1.mem_start inside
    constructor
    case mem_taken =>
      intro v
      simp only [List.mem_append, List.mem_cons, List.mem_reverse, taken v]
      grind
    case nodup =>
      have nodupFound : (c.newBefore d nodes node).Nodup := (distinct.filter _).filter _
      have fresh (v : Nat) (found : v ∈ c.newBefore d nodes node) :
          v ∉ c.members ++ node :: waiting :=
        fun old => ((mem_found v).1 found).2.1 ((taken v).2 (.inr old))
      simp only [List.nodup_append, List.mem_append, List.mem_cons, List.mem_reverse,
        List.nodup_reverse, List.nodup_cons] at nodup fresh ⊢
      grind
    case root_mem => grind
    case joined =>
      intro v hv
      by_cases found : v ∈ c.newBefore d nodes node
      · obtain ⟨hv, new, edge⟩ := (mem_found v).1 found
        have reaches : d.ReachesIn nodes v root :=
          .head ⟨hv, member, edge⟩ (joined node (by simp)).1
        exact back v hv (fun old => new ((taken v).2 (.inl old))) reaches
      · exact joined v (by grind)
    case looked =>
      intro v hv source edge
      rcases List.mem_append.1 hv with hv | hv
      · exact List.mem_append_left _ (sound.looked v hv source edge)
      · obtain rfl : v = node := by simpa using hv
        by_cases old : source ∈ c.taken
        · exact List.mem_append_left _ old
        · exact List.mem_append_right _ ((mem_found source).2 ⟨edge.1, old, edge.2.2⟩)

/-- **What the work on a component leaves behind**: it is sound, and no node waits. -/
theorem finish (sound : c.Sound d nodes before root) (distinct : nodes.Nodup)
    (inside : root ∈ nodes)
    (back : ∀ v ∈ nodes, v ∉ before → d.ReachesIn nodes v root → d.JoinedIn nodes v root) :
    (c.finish d nodes).Sound d nodes before root ∧ (c.finish d nodes).waiting = [] := by
  induction c using Gathering.finish.induct d nodes with
  | case1 c stop =>
      rw [Gathering.finish, stop]
      refine ⟨sound, ?_⟩
      unfold step? at stop
      split at stop
      · next none => exact none
      · nomatch stop
  | case2 c c' next ih =>
      rw [Gathering.finish, next]
      exact ih (sound.step distinct inside back next)

/-- **When no node waits, the members are the nodes joined to the root**, if none of these was taken
before. -/
theorem mem_members (sound : c.Sound d nodes before root) (idle : c.waiting = [])
    (fresh : ∀ v, d.JoinedIn nodes v root → v ∉ before) {v : Nat} :
    v ∈ c.members ↔ d.JoinedIn nodes v root := by
  have joined := sound.joined
  have taken := sound.mem_taken
  have root_mem := sound.root_mem
  rw [idle, List.append_nil] at joined taken root_mem
  refine ⟨joined v, ?_⟩
  -- from the root backwards along the way to it
  rintro ⟨way, back⟩
  induction way using ReflTransGen.head_induction_on with
  | refl => exact root_mem
  | @head a b edge rest ih =>
      have member := ih (back.tail edge)
      refine ((taken a).1 (sound.looked b member a edge)).resolve_left ?_
      exact fresh a ⟨.head edge rest, back⟩

end Sound

/-- The work on a component is sound when only its root was taken for it. -/
theorem sound_start {d : Digraph} {nodes before : List Nat} {root : Nat} :
    Sound d nodes before root ⟨root :: before, [root], []⟩ where
  mem_taken := by simp [or_comm]
  nodup := by simp
  root_mem := by simp
  joined := by simpa using JoinedIn.refl d nodes root
  looked := by simp

/-- **What is gathered for a root** are the nodes joined to it, each once, and they are taken. -/
theorem finish_spec {d : Digraph} {nodes before : List Nat} {root : Nat} (distinct : nodes.Nodup)
    (member : root ∈ nodes) (fresh : ∀ v, d.JoinedIn nodes v root → v ∉ before)
    (back : ∀ v ∈ nodes, v ∉ before → d.ReachesIn nodes v root → d.JoinedIn nodes v root) :
    let c := Gathering.finish d nodes ⟨root :: before, [root], []⟩
    c.members.Nodup ∧ (∀ v, v ∈ c.members ↔ d.JoinedIn nodes v root)
      ∧ ∀ v, v ∈ c.taken ↔ v ∈ before ∨ d.JoinedIn nodes v root := by
  have start : Gathering.Sound d nodes before root ⟨root :: before, [root], []⟩ := sound_start
  obtain ⟨sound, idle⟩ := start.finish distinct member back
  have nodup := sound.nodup
  have members (v : Nat) := sound.mem_members idle fresh (v := v)
  rw [idle, List.append_nil] at nodup
  refine ⟨nodup, members, fun v => ?_⟩
  rw [sound.mem_taken v, idle, List.append_nil, members v]

end Gathering

/-! ### All components -/

/-- What is promised of some components, where some nodes were taken before. The nodes that were
taken are in none of them, and the others are each in exactly one. -/
structure Classes (d : Digraph) (nodes taken : List Nat) (components : List (List Nat)) : Prop where
  /-- No component has a node twice. -/
  nodup : ∀ c ∈ components, c.Nodup
  /-- A component has the nodes that are joined to one that was not taken. -/
  exists_root : ∀ c ∈ components, ∃ root ∈ nodes, root ∉ taken
    ∧ ∀ v, v ∈ c ↔ d.JoinedIn nodes v root
  /-- Every node that was not taken is in a component. -/
  cover : ∀ v ∈ nodes, v ∉ taken → ∃ c ∈ components, v ∈ c
  /-- No two components have a node in common. -/
  disjoint : components.Pairwise List.Disjoint

/-- One more component before those of the nodes that are not joined to its root. -/
theorem Classes.cons {d : Digraph} {nodes taken taken' members : List Nat}
    {components : List (List Nat)} {root : Nat} (member : root ∈ nodes) (new : root ∉ taken)
    (nodup : members.Nodup) (mem_members : ∀ v, v ∈ members ↔ d.JoinedIn nodes v root)
    (mem_taken : ∀ v, v ∈ taken' ↔ v ∈ taken ∨ d.JoinedIn nodes v root)
    (later : d.Classes nodes taken' components) :
    d.Classes nodes taken (members :: components) := by
  constructor
  case nodup =>
    intro component listed
    rcases List.mem_cons.1 listed with rfl | listed
    · exact nodup
    · exact later.nodup component listed
  case exists_root =>
    intro component listed
    rcases List.mem_cons.1 listed with rfl | listed
    · exact ⟨root, member, new, mem_members⟩
    · obtain ⟨root', hroot, untaken, mem⟩ := later.exists_root component listed
      exact ⟨root', hroot, fun old => untaken ((mem_taken root').2 (.inl old)), mem⟩
  case cover =>
    intro v hv untaken
    by_cases joined : d.JoinedIn nodes v root
    · exact ⟨members, List.mem_cons_self .., (mem_members v).2 joined⟩
    · obtain ⟨component, listed, mem⟩ := later.cover v hv
        fun old => ((mem_taken v).1 old).elim untaken joined
      exact ⟨component, List.mem_cons_of_mem _ listed, mem⟩
  case disjoint =>
    refine List.pairwise_cons.2 ⟨fun component listed v here there => ?_, later.disjoint⟩
    obtain ⟨root', -, untaken, mem⟩ := later.exists_root component listed
    have joined := ((mem v).1 there).symm.trans ((mem_members v).1 here)
    exact untaken ((mem_taken root').2 (.inr joined))

/-- **The second pass gathers the components that were not taken**, if whole components were taken
and the nodes to come are in a settled order. The induction is on the nodes to come; a node that was
taken changes nothing, and for any other the component of it is taken and the rest is left to the
induction. -/
theorem classes_componentsOf {d : Digraph} {nodes taken roots : List Nat} (distinct : nodes.Nodup)
    (inside : roots ⊆ nodes) (settled : d.Settled nodes roots)
    (whole : ∀ u v, d.JoinedIn nodes u v → u ∈ taken → v ∈ taken)
    (rest : ∀ v ∈ nodes, v ∈ roots ∨ v ∈ taken) :
    d.Classes nodes taken (d.componentsOf nodes taken roots) := by
  induction roots generalizing taken with
  | nil =>
      refine ⟨by simp [componentsOf], by simp [componentsOf], fun v hv new => ?_, .nil⟩
      exact absurd ((rest v hv).resolve_left (List.not_mem_nil)) new
  | cons root roots ih =>
      obtain ⟨member, inside⟩ := List.cons_subset.1 inside
      rw [componentsOf]
      split
      · next old =>
        have old : root ∈ taken := by simpa using old
        refine ih inside settled.2 whole fun v hv => ?_
        rcases rest v hv with h | h
        · exact (List.mem_cons.1 h).elim (fun same => .inr (same ▸ old)) .inl
        · exact .inr h
      · next new =>
        have new : root ∉ taken := by simpa using new
        have fresh (v : Nat) (joined : d.JoinedIn nodes v root) : v ∉ taken :=
          fun old => new (whole v root joined old)
        -- the node that a settled order promises can only be the root
        have back (v : Nat) (hv : v ∈ nodes) (untaken : v ∉ taken)
            (reaches : d.ReachesIn nodes v root) : d.JoinedIn nodes v root := by
          obtain ⟨t, joined, later⟩ := settled.1 v reaches
          have ht : t ∉ taken := fun old => untaken (whole t v joined.symm old)
          have here := (rest t (joined.1.mem hv)).resolve_right ht
          rcases List.mem_cons.1 here with rfl | earlier
          · exact joined
          · exact absurd earlier later
        obtain ⟨nodup, mem_members, mem_taken⟩ :=
          Gathering.finish_spec distinct member fresh back
        refine Classes.cons member new nodup mem_members mem_taken ?_
        refine ih inside settled.2 (fun u v joined old => ?_) (fun v hv => ?_)
        · rw [mem_taken] at old ⊢
          exact old.imp (whole u v joined) joined.symm.trans
        · rw [mem_taken]
          rcases rest v hv with h | h
          · rcases List.mem_cons.1 h with rfl | h
            · exact .inr (.inr (.refl d nodes v))
            · exact .inl h
          · exact .inr (.inl h)

/-- **The components are the sets of joined nodes**: the nodes are settled in an order in which the
second pass cuts off one set after the other. -/
theorem classes_components {d : Digraph} {nodes : List Nat} (distinct : nodes.Nodup) :
    d.Classes nodes [] (d.components nodes) :=
  classes_componentsOf distinct (fun _ => mem_leaving.1) (settled_leaving d nodes) (by simp)
    fun _ member => .inl (mem_leaving.2 member)

/-! ### Cycles -/

/-- No cycle has a node twice. -/
theorem nodup_of_mem_cycles {d : Digraph} {nodes c : List Nat} (distinct : nodes.Nodup)
    (listed : c ∈ d.cycles nodes) : c.Nodup :=
  (classes_components distinct).nodup c (List.mem_filter.1 listed).1

/-- **No two cycles have a node in common**, since joined nodes are joined to the same nodes. -/
theorem pairwise_disjoint_cycles {d : Digraph} {nodes : List Nat} (distinct : nodes.Nodup) :
    (d.cycles nodes).Pairwise List.Disjoint :=
  (classes_components distinct).disjoint.filter _

/-- No node is blocked twice. -/
theorem nodup_blocked (d : Digraph) : d.blocked.Nodup := List.nodup_range.filter _

/-- Among the blocked nodes the same nodes are joined as in the whole graph, since no edge leads out
of them. -/
theorem joinedIn_blocked_iff {d : Digraph} {s root : Nat} (member : root ∈ d.blocked) :
    d.JoinedIn d.blocked s root ↔ d.Joined s root := by
  have h := joinedIn_iff_of_closed (closed_blocked d) (t := s) member
  exact ⟨fun joined => (h.1 joined.symm).symm, fun joined => (h.2 joined.symm).symm⟩

/-- **A cycle has the nodes that are joined to one that is on a cycle**, and no others. -/
theorem exists_root_of_mem_cycles {d : Digraph} {c : List Nat} (listed : c ∈ d.cycles d.blocked) :
    ∃ root, d.OnCycle root ∧ ∀ v, v ∈ c ↔ d.Joined v root := by
  have classes := classes_components (d := d) (nodup_blocked d)
  obtain ⟨listed, long⟩ := List.mem_filter.1 listed
  obtain ⟨root, member, -, mem⟩ := classes.exists_root c listed
  simp only [joinedIn_blocked_iff member] at mem
  refine ⟨root, ?_, mem⟩
  have here : root ∈ c := (mem root).2 (.refl d root)
  obtain ⟨v, hv, different⟩ := exists_mem_ne (classes.nodup c listed) (by simpa using long) root
  exact ((mem v).1 hv).symm.onCycle different.symm

/-- **Every node on a cycle is in one of the cycles**, together with all nodes joined to it. -/
theorem exists_cycle_of_onCycle {d : Digraph} {v : Nat} (onCycle : d.OnCycle v) :
    ∃ c ∈ d.cycles d.blocked, ∀ u, u ∈ c ↔ d.Joined u v := by
  have classes := classes_components (d := d) (nodup_blocked d)
  obtain ⟨c, listed, here⟩ := classes.cover v onCycle.mem_blocked (by simp)
  obtain ⟨root, member, -, mem⟩ := classes.exists_root c listed
  simp only [joinedIn_blocked_iff member] at mem
  have mem' (u : Nat) : u ∈ c ↔ d.Joined u v := by
    rw [mem u]
    exact ⟨fun h => h.trans ((mem v).1 here).symm, fun h => h.trans ((mem v).1 here)⟩
  obtain ⟨t, different, joined⟩ := onCycle.exists_joined
  refine ⟨c, List.mem_filter.2 ⟨listed, ?_⟩, mem'⟩
  have two : [t, v].length ≤ c.length := by
    refine List.Nodup.length_le_of_subset (by simpa using different) fun u hu => ?_
    rcases List.mem_pair.1 hu with rfl | rfl
    · exact (mem' u).2 joined.symm
    · exact here
  exact decide_eq_true two

end QueryFlow.Flow.Digraph
