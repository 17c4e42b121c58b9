/-!
# Sets of names

A set of names is kept as the list of its members in strictly ascending order of their code points,
so that equal sets are equal values and a set is written in order.

* `insert`, `ofList`, `union` build sets;
* `filter` keeps some members.

The order is part of the structure: a set cannot be built without a proof that its list is strictly
ascending, and whoever takes a set apart may rely on it. A set is then determined by its members
(`ext`), and two ways to build it are compared by asking what they hold.

Main statements: `mem_insert`, `mem_ofList`, `mem_union` and `mem_filter` say what the members are;
`ext` says that a set is determined by them.
-/

namespace QueryFlow

/-- A set of names. -/
structure NameSet where
  /-- The members in ascending order. -/
  toList : List String
  sorted : toList.Pairwise (· < ·) := by simp
deriving DecidableEq

namespace NameSet

/-- Puts a name in its place in a list. -/
def insertIn (x : String) : List String → List String
  | [] => [x]
  | y :: ys => if x < y then x :: y :: ys else if x = y then y :: ys else y :: insertIn x ys

theorem mem_insertIn {x z : String} {ys : List String} :
    z ∈ insertIn x ys ↔ z = x ∨ z ∈ ys := by
  induction ys with
  | nil => simp [insertIn]
  | cons y ys ih =>
    rw [insertIn]
    split
    · simp
    · split
      · next h => subst h; simp
      · simp only [List.mem_cons, ih]; grind

theorem pairwise_insertIn {x : String} {ys : List String} (h : ys.Pairwise (· < ·)) :
    (insertIn x ys).Pairwise (· < ·) := by
  induction ys with
  | nil => simp [insertIn]
  | cons y ys ih =>
    rw [insertIn]
    have tail := List.pairwise_cons.1 h
    split
    · next less =>
      refine List.pairwise_cons.2 ⟨fun z hz => ?_, h⟩
      rcases List.mem_cons.1 hz with rfl | hz
      · exact less
      · exact String.lt_trans less (tail.1 z hz)
    · split
      · exact h
      · next notLess notSame =>
        refine List.pairwise_cons.2 ⟨fun z hz => ?_, ih tail.2⟩
        rcases mem_insertIn.1 hz with rfl | hz
        · refine Decidable.byContradiction fun notGreater => notSame ?_
          exact String.le_antisymm (String.not_lt.1 notGreater) (String.not_lt.1 notLess)
        · exact tail.1 z hz

/-- The set without members. -/
def empty : NameSet := ⟨[], .nil⟩

instance : EmptyCollection NameSet := ⟨empty⟩

instance : Membership String NameSet := ⟨fun s x => x ∈ s.toList⟩

instance (x : String) (s : NameSet) : Decidable (x ∈ s) :=
  inferInstanceAs (Decidable (x ∈ s.toList))

/-- The set with one more member. -/
def insert (s : NameSet) (x : String) : NameSet :=
  ⟨insertIn x s.toList, pairwise_insertIn s.sorted⟩

/-- The set of the names of a list. -/
def ofList (xs : List String) : NameSet := xs.foldl insert empty

/-- The members of both sets. -/
def union (s t : NameSet) : NameSet := t.toList.foldl insert s

/-- The members that a condition holds for. -/
def filter (p : String → Bool) (s : NameSet) : NameSet :=
  ⟨s.toList.filter p, s.sorted.sublist List.filter_sublist⟩

/-- The set of one name. -/
def singleton (x : String) : NameSet := ⟨[x], by simp⟩

/-- The set has no members. -/
def isEmpty (s : NameSet) : Bool := s.toList.isEmpty

@[simp] theorem mem_toList {x : String} {s : NameSet} : x ∈ s.toList ↔ x ∈ s := Iff.rfl

@[simp] theorem notMem_empty (x : String) : ¬ x ∈ empty := by
  simp [← mem_toList, empty]

/-- **An inserted name is a member, and so are the members before.** -/
@[simp] theorem mem_insert {x z : String} {s : NameSet} : z ∈ s.insert x ↔ z = x ∨ z ∈ s :=
  mem_insertIn

@[simp] theorem mem_singleton {x z : String} : z ∈ singleton x ↔ z = x := by
  simp [← mem_toList, singleton]

theorem mem_foldl_insert {z : String} {xs : List String} {s : NameSet} :
    z ∈ xs.foldl insert s ↔ z ∈ xs ∨ z ∈ s := by
  induction xs generalizing s with
  | nil => simp
  | cons x xs ih => simp only [List.foldl_cons, ih, mem_insert, List.mem_cons]; grind

/-- **The members of the set of a list are the names of the list.** -/
@[simp] theorem mem_ofList {z : String} {xs : List String} : z ∈ ofList xs ↔ z ∈ xs := by
  simp [ofList, mem_foldl_insert]

/-- **The members of a union are those of both sets.** -/
@[simp] theorem mem_union {z : String} {s t : NameSet} : z ∈ s.union t ↔ z ∈ s ∨ z ∈ t := by
  simp [union, mem_foldl_insert, or_comm]

/-- **A filtered set has the members that the condition holds for.** -/
@[simp] theorem mem_filter {z : String} {p : String → Bool} {s : NameSet} :
    z ∈ s.filter p ↔ z ∈ s ∧ p z = true := by
  simp [← mem_toList, filter]

/-- Two lists in strictly ascending order with the same members are the same. -/
theorem eq_of_sorted_of_mem_iff {xs ys : List String} (hx : xs.Pairwise (· < ·))
    (hy : ys.Pairwise (· < ·)) (same : ∀ z, z ∈ xs ↔ z ∈ ys) : xs = ys := by
  induction xs generalizing ys with
  | nil =>
    cases ys with
    | nil => rfl
    | cons y ys => exact absurd ((same y).2 (by simp)) (by simp)
  | cons x xs ih =>
    cases ys with
    | nil => exact absurd ((same x).1 (by simp)) (by simp)
    | cons y ys =>
      have hx' := List.pairwise_cons.1 hx
      have hy' := List.pairwise_cons.1 hy
      have heads : x = y := by
        rcases List.mem_cons.1 ((same x).1 (by simp)) with h | h
        · exact h
        · rcases List.mem_cons.1 ((same y).2 (by simp)) with h' | h'
          · exact h'.symm
          · exact absurd (String.lt_trans (hy'.1 x h) (hx'.1 y h')) (String.lt_irrefl y)
      subst heads
      congr 1
      refine ih hx'.2 hy'.2 fun z => ⟨fun hz => ?_, fun hz => ?_⟩
      · rcases List.mem_cons.1 ((same z).1 (List.mem_cons_of_mem _ hz)) with h | h
        · exact absurd (h ▸ hx'.1 z hz) (String.lt_irrefl _)
        · exact h
      · rcases List.mem_cons.1 ((same z).2 (List.mem_cons_of_mem _ hz)) with h | h
        · exact absurd (h ▸ hy'.1 z hz) (String.lt_irrefl _)
        · exact h

/-- **A set is determined by its members.** -/
theorem ext {s t : NameSet} (same : ∀ z, z ∈ s ↔ z ∈ t) : s = t := by
  obtain ⟨xs, hx⟩ := s
  obtain ⟨ys, hy⟩ := t
  have : xs = ys := eq_of_sorted_of_mem_iff hx hy same
  subst this
  rfl

end NameSet

end QueryFlow
