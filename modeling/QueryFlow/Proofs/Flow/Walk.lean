import QueryFlow.Flow.Component
import QueryFlow.Proofs.Flow.Reach

/-!
# Walking through a directed graph in depth

The first of the two passes that find the components of a directed graph. It leaves the nodes in an
order that the second pass relies on, and this module says what there is to rely on.

## What the order promises

It cannot be said of two nodes alone. A node may be left before another one that it does not reach,
and after a third that does not reach it. What holds is that, of the nodes that are joined, *some*
node is left late. A list of nodes, the last one that was left first, is *settled* if every node
that reaches a member of the list is joined to a node that was not left before that member.

## The invariant

A node is *open* while it was entered and not left; the open nodes are the path from the root of the
visit to the present node. The invariant `Walk.Sound` says of them and of the nodes that were left
that

* an open node reaches every node that was entered later and is open (`descent`),
* the successors of a node that was left were entered (`closed`),
* a node that was left reaches nothing that is still to be left, unless it is joined to an open node
  (`joined`),
* the nodes were left in a settled order (`settled`).

The other fields keep the books: which nodes were entered, that none is open twice, and that the
successors of an open node are still to be tried or were entered.

## How a step keeps it

Entering a node puts one more node on the path. It is reached by all open nodes, and no node was
left, so that little is to be shown. The work is in leaving a node, when none of its successors is
new. Suppose it reaches something still to be left. Following the way there up to the first node
that was not left, one finds an edge from a left node, or from the present one, to a node that is
not left (`exists_crossing`). The successors of both were entered, so that the end of that edge is
open, and an open node reaches the present one: the two are joined, and the open one stays open
(`exists_joined`). This gives the field `joined` for the present node. For the field `settled`, let
a node reach the present one. If it was not left, it is itself what is looked for. If it was left,
it is joined to a node that is open, by the field `joined` of the step before, and an open node was
not left before the present one.

The visits of all roots follow one another, each starting and ending with no open node.

## Main results

* `Walk.Sound.enter_node` and `Walk.Sound.leave_node`: what the two kinds of steps keep.
* `Walk.Sound.finish`: what a whole visit keeps, however it proceeds.
* `mem_leaving` and `settled_leaving`: the first pass leaves every node, in a settled order.
-/

open Relation

namespace QueryFlow.Flow.Digraph

/-- Every node that reaches a member of the list is joined to one that was not left before it. The
list has the last node that was left in front, so that the nodes behind a member are those that were
left before it. -/
def Settled (d : Digraph) (nodes : List Nat) : List Nat → Prop
  | [] => True
  | node :: before =>
    (∀ source, d.ReachesIn nodes source node → ∃ t, d.JoinedIn nodes source t ∧ t ∉ before)
      ∧ d.Settled nodes before

namespace Walk

/-- The nodes that were entered and not left, the present one first and the root of the visit last.
-/
def opened (w : Walk) : List Nat := w.path.map Prod.fst

/-- What is promised of a walk through the part of a graph that some nodes make up, before and after
every step. -/
structure Sound (d : Digraph) (nodes : List Nat) (w : Walk) : Prop where
  /-- Nodes that were entered were left or are open. -/
  mem_seen : ∀ v, v ∈ w.seen ↔ v ∈ w.left ∨ v ∈ w.opened
  /-- Only the given nodes are entered. -/
  inside : ∀ v ∈ w.seen, v ∈ nodes
  /-- No open node was left. -/
  still_open : ∀ v ∈ w.opened, v ∉ w.left
  /-- No node is open twice. -/
  nodup : w.opened.Nodup
  /-- An open node reaches those that were entered later. -/
  descent : w.opened.Pairwise fun later earlier => d.ReachesIn nodes earlier later
  /-- What is still to be tried from an open node are successors of it. -/
  listed : ∀ v untried, (v, untried) ∈ w.path → ∀ t ∈ untried, d.Edge v t
  /-- The successors of an open node are still to be tried, or were entered. -/
  tried : ∀ v untried, (v, untried) ∈ w.path →
    ∀ t, d.EdgeIn nodes v t → t ∈ untried ∨ t ∈ w.seen
  /-- The successors of a node that was left were entered. -/
  closed : ∀ v ∈ w.left, ∀ t, d.EdgeIn nodes v t → t ∈ w.seen
  /-- A node that was left reaches a node that is still to be left only if it is joined to an open
  node. This is what lets the order be settled: whatever is reached from behind is left late. -/
  joined : ∀ v ∈ w.left, ∀ t, t ∉ w.left → d.ReachesIn nodes v t →
    ∃ s ∈ w.opened, d.JoinedIn nodes v s
  /-- The nodes are left in a settled order. -/
  settled : d.Settled nodes w.left

/-- The walk at the start is sound. -/
theorem sound_start (d : Digraph) (nodes : List Nat) : start.Sound d nodes where
  mem_seen := by simp [start, opened]
  inside := by simp [start]
  still_open := by simp [start]
  nodup := .nil
  descent := .nil
  listed := by simp [start]
  tried := by simp [start]
  closed := by simp [start]
  joined := by simp [start]
  settled := trivial

namespace Sound

variable {d : Digraph} {nodes : List Nat} {w w' : Walk} {node child : Nat}
  {untried : List Nat} {path : List (Nat × List Nat)}

/-- **Entering a node keeps a walk sound.** The node is new and reached by the open ones, and every
successor that is taken from those still to be tried is not new, or is the node. The statement
covers both ways to enter one, as the root of a visit and as a successor of the present node. -/
theorem enter_node (sound : w.Sound d nodes) (opened : path.map Prod.fst = w.opened)
    (kept : ∀ v untried, (v, untried) ∈ path → ∃ before, (v, before) ∈ w.path
      ∧ untried ⊆ before ∧ ∀ t ∈ before, t ∈ untried ∨ t = child ∨ w.isNew nodes t = false)
    (new : w.isNew nodes child = true) (reached : ∀ v ∈ w.opened, d.ReachesIn nodes v child) :
    (enter { w with path } d child).Sound d nodes := by
  obtain ⟨member, unseen⟩ : child ∈ nodes ∧ child ∉ w.seen := by simpa [isNew] using new
  have opened' : (enter { w with path } d child).opened = child :: w.opened := by
    rw [← opened]
    rfl
  have notLeft : child ∉ w.left := fun h => unseen ((sound.mem_seen child).2 (.inl h))
  have notOpen : child ∉ w.opened := fun h => unseen ((sound.mem_seen child).2 (.inr h))
  constructor
  case mem_seen =>
    intro v
    rw [opened']
    simp only [enter, List.mem_cons, sound.mem_seen v]
    grind
  case inside => simpa [enter] using ⟨member, sound.inside⟩
  case still_open =>
    rw [opened']
    simpa [enter] using ⟨notLeft, sound.still_open⟩
  case nodup =>
    rw [opened']
    exact List.nodup_cons.2 ⟨notOpen, sound.nodup⟩
  case descent =>
    rw [opened']
    exact List.pairwise_cons.2 ⟨reached, sound.descent⟩
  case listed =>
    intro v untried onPath t ht
    rcases List.mem_cons.1 onPath with same | onPath
    · obtain ⟨rfl, rfl⟩ := Prod.mk.inj same
      exact ht
    · obtain ⟨before, onPath, fewer, -⟩ := kept v untried onPath
      exact sound.listed v before onPath t (fewer ht)
  case tried =>
    intro v untried onPath t edge
    rcases List.mem_cons.1 onPath with same | onPath
    · obtain ⟨rfl, rfl⟩ := Prod.mk.inj same
      exact .inl edge.2.2
    · obtain ⟨before, onPath, -, skipped⟩ := kept v untried onPath
      rcases sound.tried v before onPath t edge with listed | seen
      · rcases skipped t listed with h | rfl | notNew
        · exact .inl h
        · exact .inr (List.mem_cons_self ..)
        · have seen : t ∈ w.seen := by simpa [isNew, edge.2.1] using notNew
          exact .inr (List.mem_cons_of_mem _ seen)
      · exact .inr (List.mem_cons_of_mem _ seen)
  case closed => exact fun v hv t edge => List.mem_cons_of_mem _ (sound.closed v hv t edge)
  case joined =>
    intro v hv t ht reaches
    obtain ⟨s, hs, joined⟩ := sound.joined v hv t ht reaches
    exact ⟨s, opened' ▸ List.mem_cons_of_mem _ hs, joined⟩
  case settled => exact sound.settled

/-- When a node is left from which something still to be left is reached, it is joined to a node
that stays open. The way there has an edge that leaves the set of the left nodes and the present
one; its end was entered and not left, hence is open and reaches the present node. -/
theorem exists_joined (sound : w.Sound d nodes) (present : w.path = (node, untried) :: path)
    (noneNew : ∀ t, d.EdgeIn nodes node t → t ∈ w.seen) {t : Nat} (ht : t ∉ node :: w.left)
    (reaches : d.ReachesIn nodes node t) :
    ∃ s ∈ path.map Prod.fst, d.JoinedIn nodes node s := by
  have opened : w.opened = node :: path.map Prod.fst := by simp [Walk.opened, present]
  -- the way to it crosses from the nodes that were left to one that was entered, and so is open
  obtain ⟨c, e, hc, he, before, edge, -⟩ :=
    exists_crossing (p := (· ∈ node :: w.left)) reaches (by simp) ht
  have seen : e ∈ w.seen := by
    rcases List.mem_cons.1 hc with rfl | hc
    · exact noneNew e edge
    · exact sound.closed c hc e edge
  have isOpen : e ∈ path.map Prod.fst := by
    rcases (sound.mem_seen e).1 seen with left | isOpen
    · exact absurd (List.mem_cons_of_mem _ left) he
    · rw [opened] at isOpen
      exact (List.mem_cons.1 isOpen).resolve_left fun same => he (by simp [same])
  have descent := sound.descent
  rw [opened] at descent
  exact ⟨e, isOpen, before.tail edge, (List.pairwise_cons.1 descent).1 e isOpen⟩

/-- **Leaving a node keeps a walk sound**, if none of its successors is new. -/
theorem leave_node (sound : w.Sound d nodes) (present : w.path = (node, untried) :: path)
    (noneNew : ∀ t ∈ untried, w.isNew nodes t = false) :
    Sound d nodes { w with left := node :: w.left, path } := by
  have opened : w.opened = node :: path.map Prod.fst := by simp [Walk.opened, present]
  have entered (t : Nat) (edge : d.EdgeIn nodes node t) : t ∈ w.seen := by
    rcases sound.tried node untried (by simp [present]) t edge with listed | seen
    · simpa [isNew, edge.2.1] using noneNew t listed
    · exact seen
  have nodup := sound.nodup
  rw [opened, List.nodup_cons] at nodup
  have descent := sound.descent
  rw [opened, List.pairwise_cons] at descent
  have notLeft : node ∉ w.left := sound.still_open node (by simp [opened])
  constructor
  case mem_seen =>
    intro v
    rw [sound.mem_seen v, opened]
    simp only [Walk.opened, List.mem_cons]
    grind
  case inside => exact sound.inside
  case still_open =>
    intro v hv left
    rcases List.mem_cons.1 left with rfl | left
    · exact nodup.1 hv
    · exact sound.still_open v (opened ▸ List.mem_cons_of_mem _ hv) left
  case nodup => exact nodup.2
  case descent => exact descent.2
  case listed =>
    exact fun v untried onPath => sound.listed v untried (present ▸ List.mem_cons_of_mem _ onPath)
  case tried =>
    exact fun v untried onPath => sound.tried v untried (present ▸ List.mem_cons_of_mem _ onPath)
  case closed =>
    intro v hv t edge
    rcases List.mem_cons.1 hv with rfl | hv
    · exact entered t edge
    · exact sound.closed v hv t edge
  case joined =>
    intro v hv t ht reaches
    rcases List.mem_cons.1 hv with rfl | hv
    · exact sound.exists_joined present entered ht reaches
    · have ht' : t ∉ w.left := fun h => ht (List.mem_cons_of_mem _ h)
      obtain ⟨s, isOpen, joined⟩ := sound.joined v hv t ht' reaches
      rw [opened] at isOpen
      rcases List.mem_cons.1 isOpen with rfl | isOpen
      · -- the open node is the one that is left: it hands on to another one
        obtain ⟨s, isOpen, joined'⟩ :=
          sound.exists_joined present entered ht (joined.2.trans reaches)
        exact ⟨s, isOpen, joined.trans joined'⟩
      · exact ⟨s, isOpen, joined⟩
  case settled =>
    refine ⟨fun source reaches => ?_, sound.settled⟩
    by_cases left : source ∈ w.left
    · obtain ⟨s, isOpen, joined⟩ := sound.joined source left node notLeft reaches
      exact ⟨s, joined, sound.still_open s isOpen⟩
    · exact ⟨source, .refl d nodes source, left⟩

/-- **A step keeps a walk sound**, and what was entered. -/
theorem step (sound : w.Sound d nodes) (step : w.step? d nodes = some w') :
    w'.Sound d nodes ∧ w.seen ⊆ w'.seen := by
  obtain ⟨node, untried, path, present, ⟨noneNew, rfl⟩ |
    ⟨skipped, child, rest, rfl, noneNew, new, rfl⟩⟩ := step_cases step
  · exact ⟨sound.leave_node present noneNew, List.Subset.refl _⟩
  · refine ⟨sound.enter_node ?_ ?_ new fun v isOpen => ?_, List.subset_cons_self ..⟩
    · simp [Walk.opened, present]
    · intro v untried onPath
      rcases List.mem_cons.1 onPath with same | onPath
      · obtain ⟨rfl, rfl⟩ := Prod.mk.inj same
        refine ⟨skipped ++ child :: untried, by simp [present], by grind, fun t ht => ?_⟩
        rcases List.mem_append.1 ht with ht | ht
        · exact .inr (.inr (noneNew t ht))
        · exact (List.mem_cons.1 ht).elim (fun h => .inr (.inl h)) .inl
      · exact ⟨untried, present ▸ List.mem_cons_of_mem _ onPath, List.Subset.refl _, fun t => .inl⟩
    · have opened : w.opened = node :: path.map Prod.fst := by simp [Walk.opened, present]
      have member : child ∈ nodes := by
        simp only [isNew, Bool.and_eq_true, List.contains_iff_mem] at new
        exact new.1
      have inside : node ∈ nodes :=
        sound.inside node ((sound.mem_seen node).2 (.inr (by simp [opened])))
      have edge : d.EdgeIn nodes node child :=
        ⟨inside, member, sound.listed node _ (present ▸ List.mem_cons_self ..) child (by simp)⟩
      have descent := sound.descent
      rw [opened] at isOpen descent
      rcases List.mem_cons.1 isOpen with rfl | isOpen
      · exact .single edge
      · exact ((List.pairwise_cons.1 descent).1 v isOpen).tail edge

/-- **What a walk to its end keeps**: it is sound, no node is open, and what is entered stays so.
The induction is that of the walk itself, whose steps come to an end because every one of them
enters a node or leaves one. -/
theorem finish (sound : w.Sound d nodes) :
    (w.finish d nodes).Sound d nodes ∧ (w.finish d nodes).path = []
      ∧ w.seen ⊆ (w.finish d nodes).seen := by
  induction w using Walk.finish.induct d nodes with
  | case1 w stop =>
      rw [Walk.finish, stop]
      refine ⟨sound, ?_, List.Subset.refl _⟩
      unfold step? at stop
      split at stop
      · next none => exact none
      · split at stop <;> nomatch stop
  | case2 w w' next ih =>
      rw [Walk.finish, next]
      obtain ⟨sound', kept⟩ := sound.step next
      obtain ⟨sound'', ended, kept'⟩ := ih sound'
      exact ⟨sound'', ended, List.Subset.trans kept kept'⟩

/-- **What a visit keeps**: with no node open before, there is none after it, and the root was
entered. -/
theorem visit (sound : w.Sound d nodes) (idle : w.path = []) {root : Nat} (member : root ∈ nodes) :
    (w.visit d nodes root).Sound d nodes ∧ (w.visit d nodes root).path = []
      ∧ root :: w.seen ⊆ (w.visit d nodes root).seen := by
  unfold Walk.visit
  split
  · next seen =>
    have seen : root ∈ w.seen := by simpa using seen
    exact ⟨sound, idle, List.cons_subset.2 ⟨seen, List.Subset.refl _⟩⟩
  · next unseen =>
    have new : w.isNew nodes root = true := by simpa [isNew, member] using unseen
    have entered : (Walk.enter { w with path := [] } d root).Sound d nodes :=
      sound.enter_node (by simp [Walk.opened, idle]) (by simp) new (by simp [Walk.opened, idle])
    have same : { w with path := [] } = w := by rw [← idle]
    rw [same] at entered
    exact entered.finish

/-- Visiting some nodes one after another enters all of them. -/
theorem foldl_visit (sound : w.Sound d nodes) (idle : w.path = []) {roots : List Nat}
    (member : roots ⊆ nodes) :
    (roots.foldl (Walk.visit d nodes) w).Sound d nodes
      ∧ (roots.foldl (Walk.visit d nodes) w).path = []
      ∧ w.seen ⊆ (roots.foldl (Walk.visit d nodes) w).seen
      ∧ roots ⊆ (roots.foldl (Walk.visit d nodes) w).seen := by
  induction roots generalizing w with
  | nil => exact ⟨sound, idle, List.Subset.refl _, List.nil_subset _⟩
  | cons root roots ih =>
      obtain ⟨here, rest⟩ := List.cons_subset.1 member
      obtain ⟨sound', idle', seen⟩ := sound.visit idle here
      obtain ⟨sound'', idle'', kept, entered⟩ := ih sound' idle' rest
      obtain ⟨seenRoot, seenBefore⟩ := List.cons_subset.1 (List.Subset.trans seen kept)
      exact ⟨sound'', idle'', seenBefore, List.cons_subset.2 ⟨seenRoot, entered⟩⟩

end Sound

end Walk

/-! ### The first pass -/

/-- **The first pass leaves each of the nodes**, and no others. -/
theorem mem_leaving {d : Digraph} {nodes : List Nat} {v : Nat} :
    v ∈ d.leaving nodes ↔ v ∈ nodes := by
  obtain ⟨sound, idle, -, entered⟩ :=
    (Walk.sound_start d nodes).foldl_visit rfl (List.Subset.refl nodes)
  constructor
  · exact fun left => sound.inside v ((sound.mem_seen v).2 (.inl left))
  · intro member
    refine ((sound.mem_seen v).1 (entered member)).resolve_right ?_
    simp [Walk.opened, idle]

/-- **The first pass leaves the nodes in a settled order.** -/
theorem settled_leaving (d : Digraph) (nodes : List Nat) : d.Settled nodes (d.leaving nodes) :=
  ((Walk.sound_start d nodes).foldl_visit rfl (List.Subset.refl nodes)).1.settled

end QueryFlow.Flow.Digraph
