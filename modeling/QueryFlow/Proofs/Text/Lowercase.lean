import QueryFlow.Text.Lowercase

/-!
# Lower case is final

Lower-casing a text twice is the same as lower-casing it once: no lower-case partner of a character
has a partner itself, nor has any character that the exceptions to the rule give. A character that
lower-casing leaves as it is, wherever it stands, is *alone*; every character of a lower-cased text
is, and a text of such characters is kept.

## Checking the table

That the table of partners leads out of itself is a fact about some thousand code points. It is not
checked code point by code point, but for each two runs: the range to which the first one leads lies
on one side of the second, or it lies between the code points of the second, where every second one
counts. Comparing bounds in this way is evaluated once (`leadsOut_caseRuns`), and that the
comparison says what it should about all code points of a run is proved (`not_has_of_leadsOut`).

Sigma and the dotted capital `İ` do not follow the table, and their lower-case forms are looked up
one by one.

## Main results

* `not_has_of_leadsOut`: a run that leads out of the table leads to characters without partners.
* `alone_of_mem_lowerIn`: the lower-case form of a character has no partners.
* `lowercase_lowercase`: lower-casing a second time changes nothing.
-/

namespace QueryFlow.Text

/-! ### Runs -/

namespace CaseRun

variable {run other : CaseRun} {n low high : Nat} {second : Bool}

/-- A code point is one of a run. -/
def Has (run : CaseRun) (n : Nat) : Prop :=
  run.1 ≤ n ∧ n ≤ run.2.1 ∧ (n - run.1) % run.2.2.1 = 0

/-- The code points between two bounds, of which only every second one may count, are none of a run:
they lie on one side of it, or between its own. -/
def isAsideOf (low high : Nat) (second : Bool) (run : CaseRun) : Bool :=
  Nat.blt high run.1 || Nat.blt run.2.1 low
    || (second && run.2.2.1 == 2 && (low - run.1) % 2 == 1)

/-- A run leads to characters that no run has, and that are not `İ`, the one that expands. -/
def leadsOut (run : CaseRun) : Bool :=
  -- the bounds are taken apart so that they are computed once
  match (run.1 + run.2.2.2).toNat, (run.2.1 + run.2.2.2).toNat with
  | low + 1, high + 1 =>
    (Nat.blt high 0xD7FF || (Nat.blt 0xDFFE low && Nat.blt high 0x10FFFF))
      && ((0x130, 0x130, 1, 0) :: caseRuns.toList).all
        (isAsideOf (low + 1) (high + 1) (run.1 == run.2.1 || run.2.2.1 == 2))
  | _, _ => false

/-- A code point between two bounds is none of a run that lies aside. -/
theorem not_has_of_isAsideOf (aside : run.isAsideOf low high second = true) (above : low ≤ n)
    (below : n ≤ high) (counted : second = true → (n - low) % 2 = 0) : ¬ run.Has n := by
  rintro ⟨first, last, on_step⟩
  simp only [isAsideOf, Bool.or_eq_true, Bool.and_eq_true, Nat.blt_eq, beq_iff_eq] at aside
  rcases aside with (behind | before) | ⟨⟨every, twos⟩, odd⟩
  · omega
  · omega
  · rw [twos] at on_step
    have := counted every
    omega

/-- **A run that leads out of the table leads to characters without partners.** -/
theorem not_has_of_leadsOut (out : run.leadsOut = true) (member : run.Has n) :
    (n + run.2.2.2).toNat.isValidChar ∧ (n + run.2.2.2).toNat ≠ 0x130
      ∧ ∀ other ∈ caseRuns, ¬ other.Has (n + run.2.2.2).toNat := by
  obtain ⟨first, last, on_step⟩ := member
  unfold leadsOut at out
  split at out
  · next low high start finish =>
    have above : low + 1 ≤ (n + run.2.2.2).toNat := by omega
    have below : (n + run.2.2.2).toNat ≤ high + 1 := by omega
    have counted : (run.1 == run.2.1 || run.2.2.1 == 2) = true →
        ((n + run.2.2.2).toNat - (low + 1)) % 2 = 0 := by
      rw [Bool.or_eq_true, beq_iff_eq, beq_iff_eq]
      rintro (single | twos)
      · omega
      · rw [twos] at on_step
        omega
    simp only [Bool.and_eq_true, Bool.or_eq_true, Nat.blt_eq, List.all_eq_true, List.mem_cons,
      Array.mem_toList_iff] at out
    obtain ⟨valid, aside⟩ := out
    have apart (other : CaseRun) (listed : other = (0x130, 0x130, 1, 0) ∨ other ∈ caseRuns) :=
      not_has_of_isAsideOf (aside other listed) above below counted
    refine ⟨?_, fun expands => ?_, fun other listed => apart other (.inr listed)⟩
    · rw [Nat.isValidChar]
      omega
    · exact apart _ (.inl rfl) ⟨Nat.le_of_eq expands.symm, Nat.le_of_eq expands, Nat.mod_one _⟩
  · cases out

end CaseRun

/-- **No run leads to a character of a run.** -/
theorem leadsOut_caseRuns : caseRuns.toList.all CaseRun.leadsOut = true := by
  decide +kernel

/-- The run that is found for a code point has it. -/
theorem caseRun?_eq_some {n : Nat} {run : CaseRun} (found : caseRun? n = some run) :
    run ∈ caseRuns ∧ run.Has n := by
  refine ⟨Array.mem_of_find?_eq_some found, ?_⟩
  simpa [CaseRun.Has, and_assoc] using Array.find?_some found

/-- No run is found for a code point if no run has it. -/
theorem caseRun?_eq_none_iff {n : Nat} : caseRun? n = none ↔ ∀ run ∈ caseRuns, ¬ run.Has n := by
  rw [caseRun?, Array.find?_eq_none]
  refine forall₂_congr fun run _ => not_congr ?_
  simp [CaseRun.Has, and_assoc]

/-- No run is found for a code point that all of them leave aside. -/
theorem caseRun?_eq_none_of_aside {n : Nat}
    (aside : caseRuns.toList.all (CaseRun.isAsideOf n n true) = true) : caseRun? n = none :=
  caseRun?_eq_none_iff.2 fun run listed =>
    CaseRun.not_has_of_isAsideOf (List.all_eq_true.1 aside run (Array.mem_toList_iff.2 listed))
      (Nat.le_refl n) (Nat.le_refl n) fun _ => by rw [Nat.sub_self]

/-! ### Characters without partners -/

/-- **The partner of a character is the one that its run leads to**, for ASCII letters as well. -/
theorem lowerChar_eq (c : Char) :
    lowerChar c = match caseRun? c.toNat with
      | some (_, _, _, shift) => Char.ofNat (c.toNat + shift).toNat
      | none => c := by
  unfold lowerChar
  split
  · next ascii =>
    have only : ∀ run ∈ caseRuns.toList, run.1 < 128 → run = (65, 90, 1, 32) := by decide +kernel
    have listed : (65, 90, 1, 32) ∈ caseRuns := Array.mem_toList_iff.1 (by decide +kernel)
    have lower : ∀ n < 128, (Char.ofNat n).toLower
        = if 65 ≤ n ∧ n ≤ 90 then Char.ofNat (n + 32) else Char.ofNat n := by decide +kernel
    have here := lower c.toNat ascii
    rw [Char.ofNat_toNat] at here
    split
    · next first last step shift found =>
      obtain ⟨found, low, high, -⟩ := caseRun?_eq_some found
      have same := only _ (Array.mem_toList_iff.2 found) (Nat.lt_of_le_of_lt low ascii)
      simp only [Prod.mk.injEq] at same
      obtain ⟨rfl, rfl, rfl, rfl⟩ := same
      rw [here, if_pos ⟨low, high⟩]
      rfl
    · next missing =>
      have none := caseRun?_eq_none_iff.1 missing _ listed
      rw [here, if_neg fun letter => none ⟨letter.1, letter.2, Nat.mod_one _⟩]
  · cases caseRun? c.toNat <;> rfl

/-- A character stays as it is wherever it stands. A sigma in lower case is such a character,
whichever of its two forms it has. -/
def Alone (c : Char) : Prop := ∀ before after, lowerIn before c after = [c]

/-- A character that no run has stays as it is, unless it is the one that expands. -/
theorem alone_of_caseRun? {c : Char} (missing : caseRun? c.toNat = none) (other : c ≠ 'İ') :
    Alone c := by
  have plain : c ≠ 'Σ' := by
    rintro rfl
    revert missing
    decide +kernel
  have same : lowerChar c = c := by simp [lowerChar_eq, missing]
  intro before after
  simp [lowerIn, plain, other, same]

/-- A partner has no partners. -/
theorem alone_lowerChar {c : Char} (other : c ≠ 'İ') : Alone (lowerChar c) := by
  rw [lowerChar_eq]
  split
  · next first last step shift found =>
    obtain ⟨listed, member⟩ := caseRun?_eq_some found
    have out := List.all_eq_true.1 leadsOut_caseRuns _ (Array.mem_toList_iff.2 listed)
    obtain ⟨valid, apart, none⟩ := CaseRun.not_has_of_leadsOut out member
    have same : (Char.ofNat (c.toNat + shift).toNat).toNat = (c.toNat + shift).toNat := by
      rw [Char.ofNat, dif_pos valid]
      rfl
    refine alone_of_caseRun? ?_ fun expands => ?_
    · rw [same]
      exact caseRun?_eq_none_iff.2 none
    · rw [expands] at same
      exact apart same.symm
  · next missing => exact alone_of_caseRun? missing other

/-- **The lower-case form of a character has no partners.** -/
theorem alone_of_mem_lowerIn {before after : List Char} {c d : Char}
    (member : d ∈ lowerIn before c after) : Alone d := by
  unfold lowerIn at member
  split at member
  · rw [List.mem_singleton] at member
    subst member
    split <;> exact alone_of_caseRun? (caseRun?_eq_none_of_aside (by decide +kernel)) (by decide)
  · split at member
    · simp only [List.mem_cons, List.not_mem_nil, or_false] at member
      rcases member with rfl | rfl <;>
        exact alone_of_caseRun? (caseRun?_eq_none_of_aside (by decide +kernel)) (by decide)
    · next other =>
      rw [List.mem_singleton] at member
      subst member
      exact alone_lowerChar (by simpa using other)

theorem alone_of_mem_lowerFrom {before cs : List Char} {d : Char}
    (member : d ∈ lowerFrom before cs) : Alone d := by
  induction cs generalizing before with
  | nil => simp [lowerFrom] at member
  | cons c cs ih =>
      rw [lowerFrom, List.mem_append] at member
      exact member.elim alone_of_mem_lowerIn ih

/-- **Lower-casing a second time changes nothing**, as the lower-case form of a character is its
own. -/
@[simp] theorem lowercase_lowercase (s : String) : lowercase (lowercase s) = lowercase s := by
  have final : lowercaseChars (lowercaseChars s.toList) = lowercaseChars s.toList :=
    lowercaseChars_of_plain fun c member => alone_of_mem_lowerFrom member
  rw [lowercase, lowercase, String.toList_ofList, final]

end QueryFlow.Text
