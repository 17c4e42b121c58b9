import Mathlib.Logic.Relation
import Mathlib.Tactic.ByContra
import QueryFlow.Flow.Digraph

/-!
# What can be reached in a directed graph

The theory that the two halves of the phase analysis share: the order of the graph of queries, which
is about nodes that no cycle reaches, and its cycles, which are sets of nodes that reach each other.
A node *reaches* another one along the edges of a graph, and nodes that reach each other are
*joined*. A node is *on a cycle* if a way of at least one edge leads from it back to it.

## The whole graph and a part of it

The cycles are looked for among the blocked nodes only, so that reaching is said twice: of the whole
graph (`Reaches`, `Joined`), and of the part of it that some nodes and the edges between them make
up (`ReachesIn`, `JoinedIn`). The two agree where it matters. A set of nodes is *closed* if it holds
the successors of its members; a way that starts in such a set cannot leave it, and every edge of
the way is therefore an edge of the part (`reachesIn_iff_of_closed`). The blocked nodes are closed,
and what is shown of the search among them is thereby said of the whole graph.

## Two arguments about ways

* *Crossing.* A way from inside a set to outside of it has an edge that leaves the set. The proofs
  about the search in depth use it with the set of the nodes that were left already.
* *Walking backwards.* Where every one of some nodes has a predecessor among them, one can walk
  backwards for as long as one likes. A walk of more nodes than there are comes to a node twice, and
  that node is on a cycle: this is how a cycle is found behind every node that the order of the
  graph could not place.

## Main results

* `exists_crossing`: a way from inside a set to outside of it has an edge that leaves the set.
* `reachesIn_iff_of_closed`: within a closed set the two kinds of reaching are the same.
* `exists_onCycle_of_hasPredecessors`: walking backwards in a finite set of nodes, each of which has
  a predecessor in the set, ends on a cycle.
-/

open Relation

namespace QueryFlow.Flow.Digraph

/-- An edge leads from one node to another. -/
def Edge (d : Digraph) (source target : Nat) : Prop := target ∈ d.next source

instance (d : Digraph) (source target : Nat) : Decidable (d.Edge source target) :=
  inferInstanceAs (Decidable (target ∈ d.next source))

/-- A way leads from one node to another. The way may be empty: every node reaches itself. -/
def Reaches (d : Digraph) : Nat → Nat → Prop := ReflTransGen d.Edge

/-- A way of at least one edge leads from a node back to it. The graphs of queries have no edge from
a node to itself, so that such a way passes through another node (`OnCycle.exists_joined`). -/
def OnCycle (d : Digraph) (node : Nat) : Prop := TransGen d.Edge node node

/-- An edge leads from one of some nodes to another of them: the edges of the part of the graph that
these nodes make up. -/
def EdgeIn (d : Digraph) (nodes : List Nat) (source target : Nat) : Prop :=
  source ∈ nodes ∧ target ∈ nodes ∧ d.Edge source target

/-- A way between some nodes leads from one of them to another. Every node reaches itself, whether
it is one of them or not; any longer way has both of its ends among them. -/
def ReachesIn (d : Digraph) (nodes : List Nat) : Nat → Nat → Prop := ReflTransGen (d.EdgeIn nodes)

/-- Two nodes reach each other through some nodes. On these nodes it is an equivalence, whose
classes are the strongly connected components of the part that they make up. -/
def JoinedIn (d : Digraph) (nodes : List Nat) (s t : Nat) : Prop :=
  d.ReachesIn nodes s t ∧ d.ReachesIn nodes t s

/-- Two nodes reach each other in the whole graph, along any number of edges. -/
def Joined (d : Digraph) (s t : Nat) : Prop := d.Reaches s t ∧ d.Reaches t s

/-- The successors of some nodes are among them, so that no way leads out of the set. -/
def Closed (d : Digraph) (nodes : List Nat) : Prop :=
  ∀ source ∈ nodes, ∀ target, d.Edge source target → target ∈ nodes

/-! ### Joined nodes -/

section Joined

variable {d : Digraph} {nodes : List Nat} {r s t : Nat}

theorem JoinedIn.refl (d : Digraph) (nodes : List Nat) (s : Nat) : d.JoinedIn nodes s s :=
  ⟨.refl, .refl⟩

theorem JoinedIn.symm (h : d.JoinedIn nodes s t) : d.JoinedIn nodes t s := ⟨h.2, h.1⟩

theorem JoinedIn.trans (h : d.JoinedIn nodes r s) (h' : d.JoinedIn nodes s t) :
    d.JoinedIn nodes r t :=
  ⟨h.1.trans h'.1, h'.2.trans h.2⟩

theorem Joined.refl (d : Digraph) (s : Nat) : d.Joined s s := ⟨.refl, .refl⟩

theorem Joined.symm (h : d.Joined s t) : d.Joined t s := ⟨h.2, h.1⟩

theorem Joined.trans (h : d.Joined r s) (h' : d.Joined s t) : d.Joined r t :=
  ⟨ReflTransGen.trans h.1 h'.1, ReflTransGen.trans h'.2 h.2⟩

/-- What a way between some nodes leads to from one of them is one of them. -/
theorem ReachesIn.mem (h : d.ReachesIn nodes s t) (start : s ∈ nodes) : t ∈ nodes := by
  rcases h.cases_tail with rfl | ⟨_, -, edge⟩
  · exact start
  · exact edge.2.1

/-- What a way between some nodes leads to one of them from is one of them. -/
theorem ReachesIn.mem_start (h : d.ReachesIn nodes s t) (finish : t ∈ nodes) : s ∈ nodes := by
  rcases h.cases_head with rfl | ⟨_, edge, -⟩
  · exact finish
  · exact edge.1

/-- A way between some nodes is a way. -/
theorem ReachesIn.reaches (h : d.ReachesIn nodes s t) : d.Reaches s t :=
  ReflTransGen.mono (fun _ _ edge => edge.2.2) _ _ h

/-- **Within a closed set every way stays in the set**, so reaching in it and reaching at all are
the same. By induction on the way. -/
theorem reachesIn_iff_of_closed (closed : d.Closed nodes) (start : s ∈ nodes) :
    d.ReachesIn nodes s t ↔ d.Reaches s t := by
  refine ⟨ReachesIn.reaches, fun h => ?_⟩
  induction h with
  | refl => exact .refl
  | tail _ edge ih =>
      have inside := ih.mem start
      exact ih.tail ⟨inside, closed _ inside _ edge, edge⟩

/-- What a member of a closed set reaches is in the set. -/
theorem Closed.mem_of_reaches (closed : d.Closed nodes) (h : d.Reaches s t) (start : s ∈ nodes) :
    t ∈ nodes :=
  ((reachesIn_iff_of_closed closed start).2 h).mem start

/-- Within a closed set nodes are joined if they are joined in the whole graph. -/
theorem joinedIn_iff_of_closed (closed : d.Closed nodes) (start : s ∈ nodes) :
    d.JoinedIn nodes s t ↔ d.Joined s t := by
  constructor
  · exact fun h => ⟨h.1.reaches, h.2.reaches⟩
  · rintro ⟨there, back⟩
    have h := (reachesIn_iff_of_closed closed start).2 there
    exact ⟨h, (reachesIn_iff_of_closed closed (h.mem start)).2 back⟩

/-- Different nodes that are joined are on a cycle. -/
theorem Joined.onCycle (h : d.Joined s t) (different : s ≠ t) : d.OnCycle s := by
  rcases reflTransGen_iff_eq_or_transGen.1 h.1 with same | there
  · exact absurd same.symm different
  · exact there.trans_left h.2

/-- **A node on a cycle is joined to a node other than itself.** -/
theorem OnCycle.exists_joined (h : d.OnCycle s) : ∃ t, t ≠ s ∧ d.Joined s t := by
  obtain ⟨t, edge, back⟩ := TransGen.head'_iff.1 h
  refine ⟨t, ?_, .single edge, back⟩
  rintro rfl
  exact notMem_next_self d t edge

end Joined

/-! ### Ways out of a set, and ways back -/

/-- **A way from inside a set to outside of it has an edge that leaves the set.** -/
theorem exists_crossing {α : Type} {r : α → α → Prop} {p : α → Prop} {a b : α}
    (way : ReflTransGen r a b) (inside : p a) (outside : ¬ p b) :
    ∃ c e, p c ∧ ¬ p e ∧ ReflTransGen r a c ∧ r c e ∧ ReflTransGen r e b := by
  induction way with
  | refl => exact absurd inside outside
  | @tail b c before edge ih =>
      by_cases h : p b
      · exact ⟨b, c, h, outside, before, edge, .refl⟩
      · obtain ⟨e, f, he, hf, first, crossing, rest⟩ := ih h
        exact ⟨e, f, he, hf, first, crossing, rest.tail edge⟩

/-- In a finite set of nodes with predecessors there are ways backwards of any length: from any node
there is a list of `n + 1` nodes, each reached from the ones before it by at least one edge. -/
theorem exists_backwards {d : Digraph} {nodes : List Nat}
    (hasPredecessor : ∀ t ∈ nodes, ∃ s ∈ nodes, d.Edge s t) {t : Nat} (member : t ∈ nodes)
    (n : Nat) :
    ∃ way : List Nat, way.length = n ∧ (∀ s ∈ way, s ∈ nodes ∧ d.Reaches s t)
      ∧ way.Pairwise (TransGen d.Edge) := by
  induction n with
  | zero => exact ⟨[], rfl, by simp, .nil⟩
  | succ n ih =>
      obtain ⟨way, length, inside, ordered⟩ := ih
      cases way with
      | nil =>
          refine ⟨[t], by simp [← length], ?_, by simp⟩
          simpa using ⟨member, ReflTransGen.refl⟩
      | cons first rest =>
          obtain ⟨s, hs, edge⟩ := hasPredecessor first (inside first (by simp)).1
          refine ⟨s :: first :: rest, by simpa using length, ?_, ?_⟩
          · intro v hv
            rcases List.mem_cons.1 hv with rfl | hv
            · exact ⟨hs, (inside first (by simp)).2.head edge⟩
            · exact inside v hv
          · refine List.pairwise_cons.2 ⟨fun v hv => ?_, ordered⟩
            rcases List.mem_cons.1 hv with rfl | hv
            · exact .single edge
            · exact .head edge ((List.pairwise_cons.1 ordered).1 v hv)

/-- **Walking backwards ends on a cycle.** Where every one of some nodes has a predecessor among
them, each of them is reached from one that is on a cycle. -/
theorem exists_onCycle_of_hasPredecessors {d : Digraph} {nodes : List Nat}
    (hasPredecessor : ∀ t ∈ nodes, ∃ s ∈ nodes, d.Edge s t) {t : Nat} (member : t ∈ nodes) :
    ∃ s ∈ nodes, d.OnCycle s ∧ d.Reaches s t := by
  obtain ⟨way, length, inside, ordered⟩ :=
    exists_backwards hasPredecessor member (nodes.length + 1)
  -- the way is longer than there are nodes; if none were on a cycle, it would have no node twice
  by_contra none
  have nodup : way.Nodup := by
    refine ordered.imp_of_mem fun {a b} ha _ steps => ?_
    rintro rfl
    exact none ⟨a, (inside a ha).1, steps, (inside a ha).2⟩
  have short := nodup.length_le_of_subset fun s hs => (inside s hs).1
  omega

end QueryFlow.Flow.Digraph
