import Mathlib.Data.List.Nodup
import Mathlib.Tactic.ByContra

/-!
# Facts about lists

What more than one part of the theory needs of lists, whatever these hold. They come from four kinds
of work: sorting, counting, numbering the elements of a list, and looking something up in it.

## Main results

* `foldl_greatest`: a running maximum is one of the values it runs over, and none is greater.
* `pairwise_mergeSort_of_nodup`: sorting different values gives a strictly ascending list.
* `pairwise_mergeSort_of_pairwise`: what sorting does not tell apart stays in the order it was in.
* `getElem?_map_range_eq_some_iff`: what stands in a list that is made position by position.
* `countP_or`: conditions that exclude each other are counted apart.
* `of_countP_eq`: a condition that counts no less than a weaker one is not stronger.
* `pairwise_flatMap_zipIdx` and `filter_flatMap_zipIdx`: what is made of numbered elements.
* `getElem?_of_prefix`: what a list starts with it has at the same places.
* `findSome?_perm`: what is found first does not depend on the order if nothing else can be found.
* `lookup_filter_of_ne`: what stands under a key is left where others are taken away.
* `forall_mem_intercalate`: what holds of lists and of what stands between them.
* `infix_append_cons_iff`: a part of a list without some element stands on one side of it.
-/

namespace QueryFlow

variable {α β : Type}

/-- **A running maximum is its start or the value of an element, and none of these is greater.** -/
theorem foldl_greatest {le : β → β → Prop} {op : β → β → β} (refl : ∀ a, le a a)
    (trans : ∀ {a b c}, le a b → le b c → le a c)
    (either : ∀ a b, (op a b = a ∨ op a b = b) ∧ le a (op a b) ∧ le b (op a b))
    (f : α → β) (xs : List α) (start : β) :
    let greatest := xs.foldl (fun m x => op m (f x)) start
    (greatest = start ∨ ∃ x ∈ xs, greatest = f x) ∧ le start greatest
      ∧ ∀ x ∈ xs, le (f x) greatest := by
  induction xs generalizing start with
  | nil => exact ⟨.inl rfl, refl start, by simp⟩
  | cons x xs ih =>
      obtain ⟨one, left, right⟩ := either start (f x)
      obtain ⟨found, above, each⟩ := ih (op start (f x))
      rw [List.foldl_cons]
      refine ⟨?_, trans left above, fun y hy => ?_⟩
      · rcases found with same | ⟨y, hy, same⟩
        · rw [same]
          exact one.imp id fun same => ⟨x, List.mem_cons_self, same⟩
        · exact .inr ⟨y, List.mem_cons_of_mem _ hy, same⟩
      · rcases List.mem_cons.1 hy with rfl | hy
        · exact trans right above
        · exact each y hy

/-- What a running maximum of numbers is, and what it is not below. -/
theorem foldl_max (f : α → Nat) (xs : List α) (start : Nat) :
    let greatest := xs.foldl (fun m x => max m (f x)) start
    (greatest = start ∨ ∃ x ∈ xs, greatest = f x) ∧ start ≤ greatest ∧ ∀ x ∈ xs, f x ≤ greatest :=
  foldl_greatest Nat.le_refl Nat.le_trans
    (fun a b => ⟨by omega, Nat.le_max_left a b, Nat.le_max_right a b⟩) f xs start

/-- **Sorting a list without repetitions gives a strictly ascending one.** -/
theorem pairwise_mergeSort_of_nodup {less : α → α → Prop} {le : α → α → Bool}
    (trans : ∀ a b c, le a b = true → le b c = true → le a c = true)
    (total : ∀ a b, (le a b || le b a) = true)
    (strict : ∀ a b, le a b = true → a ≠ b → less a b) {xs : List α} (nodup : xs.Nodup) :
    (xs.mergeSort le).Pairwise less := by
  have sorted := List.pairwise_mergeSort trans total xs
  have distinct : (xs.mergeSort le).Nodup := (List.mergeSort_perm xs le).nodup_iff.2 nodup
  exact (sorted.and distinct).imp fun h => strict _ _ h.1 h.2

/-- **What sorting does not tell apart stays in the order it was in.** -/
theorem pairwise_mergeSort_of_pairwise {before : α → α → Prop} {le : α → α → Bool}
    (trans : ∀ a b c, le a b = true → le b c = true → le a c = true)
    (total : ∀ a b, (le a b || le b a) = true) {xs : List α} (ordered : xs.Pairwise before) :
    (xs.mergeSort le).Pairwise fun a b => le a b = true ∧ (le b a = true → before a b) := by
  induction xs with
  | nil => simp
  | cons a xs ih =>
      obtain ⟨first, others⟩ := List.pairwise_cons.1 ordered
      have sorted := List.pairwise_mergeSort trans total (a :: xs)
      -- the first element goes behind those that are less, and in front of all others
      obtain ⟨front, back, whole, rest, less⟩ := List.mergeSort_cons trans total a xs
      have tail := ih others
      rw [whole, List.pairwise_append, List.pairwise_cons] at sorted
      rw [rest, List.pairwise_append] at tail
      obtain ⟨-, ⟨after, -⟩, across⟩ := sorted
      obtain ⟨tail_front, tail_back, tail_across⟩ := tail
      rw [whole, List.pairwise_append, List.pairwise_cons]
      refine ⟨tail_front, ⟨fun c member => ⟨after c member, fun _ => ?_⟩, tail_back⟩, ?_⟩
      · have listed : c ∈ xs.mergeSort le := rest ▸ List.mem_append_right front member
        exact first c (List.mem_mergeSort.1 listed)
      · intro b member c later
        rcases List.mem_cons.1 later with rfl | later
        · have apart : le c b = false := by simpa using less b member
          exact ⟨across b member c List.mem_cons_self, fun same => by rw [apart] at same; cases same⟩
        · exact tail_across b member c later

/-- A list of two or more different elements has one beside any other. -/
theorem exists_mem_ne {xs : List α} (nodup : xs.Nodup) (long : 1 < xs.length) (a : α) :
    ∃ b ∈ xs, b ≠ a := by
  by_contra none
  have subset : xs ⊆ [a] := fun b hb => by
    by_contra different
    exact none ⟨b, hb, by simpa using different⟩
  have := nodup.length_le_of_subset subset
  simp at this
  omega

/-- **What stands in a list that is made position by position.** -/
theorem getElem?_map_range_eq_some_iff {f : Nat → α} {n k : Nat} {a : α} :
    ((List.range n).map f)[k]? = some a ↔ k < n ∧ a = f k := by
  rw [List.getElem?_map, Option.map_eq_some_iff]
  constructor
  · rintro ⟨j, found, rfl⟩
    obtain ⟨bound, same⟩ := List.getElem?_eq_some_iff.1 found
    rw [List.getElem_range] at same
    exact ⟨by simpa using bound, by rw [same]⟩
  · rintro ⟨bound, rfl⟩
    exact ⟨k, List.getElem?_range bound, rfl⟩

/-- **Conditions that exclude each other are counted apart.** -/
theorem countP_or {p q : α → Prop} [DecidablePred p] [DecidablePred q] (apart : ∀ a, p a → ¬ q a)
    (xs : List α) :
    xs.countP (fun a => decide (p a ∨ q a))
      = xs.countP (fun a => decide (p a)) + xs.countP fun a => decide (q a) := by
  induction xs with
  | nil => rfl
  | cons a xs ih =>
      simp only [List.countP_cons, ih, decide_eq_true_eq]
      have := apart a
      grind

/-- **A condition that counts no less than a weaker one is not stronger**, of the elements counted.
-/
theorem of_countP_eq {p q : α → Prop} [DecidablePred p] [DecidablePred q] {xs : List α}
    (weaker : ∀ a ∈ xs, p a → q a)
    (same : xs.countP (fun a => decide (p a)) = xs.countP fun a => decide (q a)) :
    ∀ a ∈ xs, q a → p a := by
  have parts := countP_or (p := p) (q := fun a => q a ∧ ¬ p a) (fun a here other => other.2 here) xs
  have whole : xs.countP (fun a => decide (p a ∨ q a ∧ ¬ p a))
      = xs.countP fun a => decide (q a) := by
    refine List.countP_congr fun a member => ?_
    have := weaker a member
    grind
  have none : xs.countP (fun a => decide (q a ∧ ¬ p a)) = 0 := by omega
  intro a member holds
  by_contra fails
  simpa [holds, fails] using List.countP_eq_zero.1 none a member

section Numbered

variable {make : α → Nat → List β} {key : β → Nat}

/-- **What is made of numbered elements comes in the order of the numbers**, if it carries them. -/
theorem pairwise_flatMap_zipIdx (carries : ∀ a i, ∀ b ∈ make a i, key b = i) (xs : List α)
    (first : Nat) :
    ((xs.zipIdx first).flatMap fun (a, i) => make a i).Pairwise fun b c => key b ≤ key c := by
  induction xs generalizing first with
  | nil => exact .nil
  | cons a xs ih =>
      rw [List.zipIdx_cons, List.flatMap_cons, List.pairwise_append]
      refine ⟨List.pairwise_of_forall_mem_list fun b hb c hc => ?_, ih (first + 1),
        fun b hb c hc => ?_⟩
      · exact Nat.le_of_eq ((carries a first b hb).trans (carries a first c hc).symm)
      · obtain ⟨⟨x, i⟩, numbered, made⟩ := List.mem_flatMap.1 hc
        have later := List.le_snd_of_mem_zipIdx numbered
        rw [carries a first b hb, carries x i c made]
        exact Nat.le_of_succ_le later

/-- **What is made of numbered elements and carries a number is made of the element with it.** -/
theorem filter_flatMap_zipIdx (carries : ∀ a i, ∀ b ∈ make a i, key b = i) (xs : List α)
    (first number : Nat) :
    ((xs.zipIdx first).flatMap fun (a, i) => make a i).filter (fun b => key b = number)
      = if first ≤ number then (xs[number - first]?.map fun a => make a number).getD [] else [] := by
  induction xs generalizing first with
  | nil => simp
  | cons a xs ih =>
      rw [List.zipIdx_cons, List.flatMap_cons, List.filter_append, ih]
      rcases Nat.lt_trichotomy first number with later | rfl | sooner
      · have other : (make a first).filter (fun b => key b = number) = [] :=
          List.filter_eq_nil_iff.2 fun b hb => by simpa [carries a first b hb] using Nat.ne_of_lt later
        have position : number - first = number - (first + 1) + 1 := by omega
        rw [other, if_pos (Nat.succ_le_of_lt later), if_pos (Nat.le_of_lt later), position,
          List.getElem?_cons_succ, List.nil_append]
      · have same : (make a first).filter (fun b => key b = first) = make a first :=
          List.filter_eq_self.2 fun b hb => by simpa using carries a first b hb
        rw [same, if_neg (Nat.not_succ_le_self first), if_pos (Nat.le_refl first)]
        simp
      · have other : (make a first).filter (fun b => key b = number) = [] :=
          List.filter_eq_nil_iff.2 fun b hb => by
            simpa [carries a first b hb] using Nat.ne_of_gt sooner
        rw [other, if_neg (by omega), if_neg (by omega), List.nil_append]

end Numbered

/-- What stands in a list stands in every list that it starts. -/
theorem getElem?_of_prefix {xs ys : List α} {i : Nat} {a : α} (starts : xs <+: ys)
    (found : xs[i]? = some a) : ys[i]? = some a := by
  obtain ⟨bound, same⟩ := List.getElem?_eq_some_iff.1 found
  rw [← same]
  exact List.prefix_iff_getElem?.1 starts i bound

/-- What starts a list without holding its first element is empty. -/
theorem eq_nil_of_prefix_cons {t xs : List α} {x : α} (absent : x ∉ t) (starts : t <+: x :: xs) :
    t = [] := by
  rcases List.prefix_cons_iff.1 starts with rfl | ⟨rest, rfl, -⟩
  · rfl
  · simp at absent

/-- **A part of a list that does not hold some element stands on one side of it.** -/
theorem infix_append_cons_iff {t xs ys : List α} {x : α} (absent : x ∉ t) :
    t <:+: xs ++ x :: ys ↔ t <:+: xs ∨ t <:+: ys := by
  constructor
  · intro inside
    rcases List.infix_append_iff.1 inside with here | later | ⟨first, second, rfl, ends, starts⟩
    · exact .inl here
    · rcases List.infix_cons_iff.1 later with starts | later
      · exact .inl (eq_nil_of_prefix_cons absent starts ▸ List.nil_infix)
      · exact .inr later
    · obtain rfl : second = [] :=
        eq_nil_of_prefix_cons (fun member => absent (List.mem_append_right _ member)) starts
      rw [List.append_nil]
      exact .inl ends.isInfix
  · rintro (here | later)
    · exact here.trans (List.prefix_append _ _).isInfix
    · exact later.trans ((List.suffix_cons _ _).trans (List.suffix_append _ _)).isInfix

/-- **What is found first does not depend on the order** if nothing else can be found. -/
theorem findSome?_perm {f : α → Option β} {xs ys : List α} (perm : xs.Perm ys)
    (apart : xs.Pairwise fun x y => f x = none ∨ f y = none) :
    xs.findSome? f = ys.findSome? f := by
  induction perm with
  | nil => rfl
  | cons x perm ih =>
      rw [List.findSome?_cons, List.findSome?_cons, ih (List.pairwise_cons.1 apart).2]
  | swap x y xs =>
      have one := (List.pairwise_cons.1 apart).1 x List.mem_cons_self
      simp only [List.findSome?_cons]
      rcases one with none | none <;> rw [none]
  | trans perm perm' ih ih' => rw [ih apart, ih' (perm.pairwise apart fun or => or.symm)]

/-- **What stands under a key is left where others are taken away.** -/
theorem lookup_filter_of_ne [BEq α] [LawfulBEq α] {key other : α} (different : other ≠ key)
    (xs : List (α × β)) : (xs.filter fun x => x.1 != key).lookup other = xs.lookup other := by
  induction xs with
  | nil => rfl
  | cons x xs ih =>
      obtain ⟨k, v⟩ := x
      by_cases here : k = key
      · subst here
        have apart : (other == k) = false := beq_eq_false_iff_ne.2 different
        simp [List.lookup_cons, apart, ih]
      · simp [List.lookup_cons, here, ih]

/-- What holds of the elements of some lists and of those between them holds of all. -/
theorem forall_mem_intercalate {p : α → Prop} {sep : List α} {xss : List (List α)}
    (between : ∀ x ∈ sep, p x) (all : ∀ xs ∈ xss, ∀ x ∈ xs, p x) :
    ∀ x ∈ List.intercalate sep xss, p x := by
  induction xss with
  | nil => simp
  | cons xs xss ih =>
      have more := ih fun ys member => all ys (List.mem_cons_of_mem _ member)
      have here := all xs List.mem_cons_self
      cases xss with
      | nil => simpa using here
      | cons ys xss =>
          rw [List.intercalate_cons_cons, List.append_assoc]
          simp only [List.forall_mem_append]
          exact ⟨here, between, more⟩

end QueryFlow
