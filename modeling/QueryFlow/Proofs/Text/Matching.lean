import QueryFlow.Text.Matching

/-!
# What a pattern matches

A repeated part tries the splits of a text into a run of its class and the rest, the longest run
first. So the first split for which the rest of the pattern succeeds is the answer, and splits with
a shorter run do not matter.

## Three ways to use it

* *From an answer*: it comes from a split of the text, and the rest of the pattern has it there
  (`exists_of_repeated`). Nothing is said about which split, and mostly nothing is needed.
* *To an answer*: a split is the answer if all splits with a longer run fail (`repeated_of_longer`).
  Where the run cannot go on, because what follows starts with a character of another class, there
  is no longer one (`repeated_longest`).
* *Passing over*: if the rest of the pattern cannot start within the run, as with white space, the
  repeated part makes no difference and the rest decides (`blanks_passed`). This is an equation and
  serves in both directions.

A keyword is matched up to case. Each character folds to one letter, so a keyword that has none of
the two letters with a further character is its letters in any case, and two keywords at one place
have their letters in common. The latter is what keeps the recognisers of different statements
apart.

## Main results

* `exists_of_repeated`: an answer comes from a split.
* `repeated_of_longer`: a split is the answer if all splits with a longer run fail.
* `repeated_longest`: the longest run is the answer if the rest of the pattern succeeds there.
* `blanks_passed`: white space is passed over, and the rest of the pattern decides.
* `keyword_of_map_toLower` and `exists_of_keyword`: a keyword is its letters in any case.
* `prefix_or_prefix_of_keyword`: of two keywords at one place one is the start of the other.
* `exists_of_somewhere`: an answer is found at the leftmost place that has one.
* `occurs_iff`: a text has another one inside if it is an infix of it.
-/

namespace QueryFlow.Text

variable {α : Type} {p : Char → Bool} {k : List Char → List Char → Option α}
  {run cs rest : List Char} {answer : α}

/-- **An answer comes from a split** of the text. -/
theorem exists_of_repeated {cs : List Char} (h : repeated p k cs = some answer) :
    ∃ run rest, cs = run ++ rest ∧ run.all p = true ∧ k run rest = some answer := by
  induction cs generalizing k with
  | nil => exact ⟨[], [], rfl, rfl, h⟩
  | cons c cs ih =>
      rw [repeated] at h
      split at h
      · next hc =>
        split at h
        · next found inner =>
          obtain ⟨run, rest, rfl, all, here⟩ := ih (inner.trans h)
          exact ⟨c :: run, rest, rfl, by simp [hc, all], here⟩
        · exact ⟨[], c :: cs, rfl, rfl, h⟩
      · exact ⟨[], c :: cs, rfl, rfl, h⟩

/-- An answer of a run of at least one character comes from a split. -/
theorem exists_of_repeated1 {cs : List Char} (h : repeated1 p k cs = some answer) :
    ∃ run rest, cs = run ++ rest ∧ run ≠ [] ∧ run.all p = true ∧ k run rest = some answer := by
  cases cs with
  | nil => simp [repeated1] at h
  | cons c cs =>
      rw [repeated1] at h
      split at h
      · next hc =>
        obtain ⟨run, rest, rfl, all, here⟩ := exists_of_repeated h
        exact ⟨c :: run, rest, rfl, by simp, by simp [hc, all], here⟩
      · simp at h

/-- **A split is the answer if all splits with a longer run fail.** By induction on the run, whose
longer alternatives are tried first. -/
theorem repeated_of_longer (run : List Char) (all : ∀ c ∈ run, p c = true)
    (longer : ∀ more rest', more ≠ [] → (∀ c ∈ more, p c = true) → rest = more ++ rest' →
      k (run ++ more) rest' = none)
    (here : k run rest = some answer) : repeated p k (run ++ rest) = some answer := by
  induction run generalizing k with
  | cons c run ih =>
      have found : repeated p (fun run => k (c :: run)) (run ++ rest) = some answer :=
        ih (fun d member => all d (List.mem_cons_of_mem _ member)) longer here
      rw [List.cons_append, repeated, if_pos (all c List.mem_cons_self), found]
  | nil =>
      cases rest with
      | nil => exact here
      | cons c rest =>
          rw [List.nil_append, repeated]
          split
          · next hc =>
            cases found : repeated p (fun run => k (c :: run)) rest with
            | none => exact here
            | some other =>
                obtain ⟨more, rest', rfl, all', given⟩ := exists_of_repeated found
                have none := longer (c :: more) rest' (by simp) (by simpa [hc] using all') rfl
                exact absurd (given.symm.trans none) (by simp)
          · exact here

/-- **The longest run is the answer** if the rest of the pattern succeeds there. -/
theorem repeated_longest (run : List Char) (all : ∀ c ∈ run, p c = true)
    (stop : ∀ c ∈ rest.head?, p c = false) (here : k run rest = some answer) :
    repeated p k (run ++ rest) = some answer := by
  refine repeated_of_longer run all (fun more rest' some all' same => ?_) here
  obtain ⟨c, more, rfl⟩ := List.exists_cons_of_ne_nil some
  have := stop c (by simp [same])
  simp [all' c] at this

/-- The longest run is the answer, also if there must be one. -/
theorem repeated1_longest (run : List Char) (nonempty : run ≠ []) (all : ∀ c ∈ run, p c = true)
    (stop : ∀ c ∈ rest.head?, p c = false) (here : k run rest = some answer) :
    repeated1 p k (run ++ rest) = some answer := by
  obtain ⟨c, run, rfl⟩ := List.exists_cons_of_ne_nil nonempty
  rw [List.cons_append, repeated1, if_pos (all c List.mem_cons_self)]
  exact repeated_longest run (fun d member => all d (List.mem_cons_of_mem _ member)) stop here

/-- A run stops in front of a character that is not of its class. -/
theorem stop_cons {p : Char → Bool} {c : Char} {rest : List Char} (other : p c = false) :
    ∀ d ∈ (c :: rest).head?, p d = false := by
  simpa using other

theorem stop_append {p : Char → Bool} {t rest : List Char}
    (other : t.head?.any (fun c => !p c) = true) : ∀ d ∈ (t ++ rest).head?, p d = false := by
  cases t with
  | nil => simp at other
  | cons c t => simpa using other

/-- White space is passed over if what stands behind it does not start with more. -/
theorem blanks_skipped (blanks : List Char) {rest : List Char} {k : List Char → Option α}
    (blank : blanks.all isBlank = true) (stop : ∀ c ∈ rest.head?, isBlank c = false)
    (here : k rest = some answer) :
    repeated isBlank (fun _ => k) (blanks ++ rest) = some answer :=
  repeated_longest blanks (List.all_eq_true.1 blank) stop here

/-- White space is passed over, also if there must be some. -/
theorem blanks_skipped1 (blanks : List Char) {rest : List Char} {k : List Char → Option α}
    (nonempty : blanks ≠ []) (blank : blanks.all isBlank = true)
    (stop : ∀ c ∈ rest.head?, isBlank c = false) (here : k rest = some answer) :
    repeated1 isBlank (fun _ => k) (blanks ++ rest) = some answer :=
  repeated1_longest blanks nonempty (List.all_eq_true.1 blank) stop here

/-- **White space is passed over** if the rest of the pattern cannot start with some. -/
theorem blanks_passed {blanks : List Char} {k : List Char → Option α}
    (blank : blanks.all isBlank = true) (solid : ∀ c ∈ rest.head?, isBlank c = false)
    (stuck : ∀ c cs, isBlank c = true → k (c :: cs) = none) :
    repeated isBlank (fun _ => k) (blanks ++ rest) = k rest := by
  induction blanks with
  | nil =>
      cases rest with
      | nil => rfl
      | cons c rest => simp [repeated, solid c (by simp)]
  | cons c blanks ih =>
      simp only [List.all_cons, Bool.and_eq_true] at blank
      rw [List.cons_append, repeated, if_pos blank.1, ih blank.2, stuck _ _ blank.1]
      cases k rest <;> rfl

/-- White space is passed over, also if there must be some. -/
theorem blanks_passed1 {blanks : List Char} {k : List Char → Option α} (nonempty : blanks ≠ [])
    (blank : blanks.all isBlank = true) (solid : ∀ c ∈ rest.head?, isBlank c = false)
    (stuck : ∀ c cs, isBlank c = true → k (c :: cs) = none) :
    repeated1 isBlank (fun _ => k) (blanks ++ rest) = k rest := by
  obtain ⟨c, blanks, rfl⟩ := List.exists_cons_of_ne_nil nonempty
  simp only [List.all_cons, Bool.and_eq_true] at blank
  rw [List.cons_append, repeated1, if_pos blank.1]
  exact blanks_passed blank.2 solid stuck

/-- A text that is one run is read as a whole. -/
theorem repeated1_whole (nonempty : run ≠ []) (all : ∀ c ∈ run, p c = true)
    (here : k run [] = some answer) : repeated1 p k run = some answer := by
  have found := repeated1_longest run nonempty all (by simp) here
  rwa [List.append_nil] at found

/-- A literal leaves what stands behind it. -/
theorem literal_append (t rest : List Char) : literal t (t ++ rest) = some rest :=
  (literal_eq_some_iff _ _ _).2 rfl

/-! ### Keywords -/

/-- **A keyword leaves what stands behind it**, in whatever case it is written. -/
theorem keyword_of_map_toLower {t written : List Char} (letters : written.map Char.toLower = t) :
    keyword t (written ++ rest) = some rest := by
  subst letters
  induction written with
  | nil => rfl
  | cons c written ih => simp [keyword, foldsTo, ih]

/-- **What a keyword leaves stands behind its letters.** Other characters than these fold to two
letters, which the keyword does not have. -/
theorem exists_of_keyword {t : List Char} (plain : t.all (fun l => l != 's' && l != 'k') = true)
    (found : keyword t cs = some rest) :
    ∃ written, written.map Char.toLower = t ∧ cs = written ++ rest := by
  induction t generalizing cs with
  | nil => exact ⟨[], rfl, by simpa [keyword] using found⟩
  | cons l t ih =>
      simp only [List.all_cons, Bool.and_eq_true, bne_iff_ne] at plain
      cases cs with
      | nil => simp [keyword] at found
      | cons c cs =>
          simp only [keyword, Option.ite_none_right_eq_some] at found
          obtain ⟨written, rfl, rfl⟩ := ih plain.2 found.2
          exact ⟨c :: written, by simpa [foldsTo, plain.1] using found.1, rfl⟩

/-- The letter that a character folds to. -/
def folded (c : Char) : Char := if c = 'ſ' then 's' else if c = '\u212A' then 'k' else c.toLower

/-- **A character folds to one letter.** -/
theorem eq_folded_of_foldsTo {l c : Char} (ascii : l.toNat < 128) (folds : foldsTo l c = true) :
    l = folded c := by
  simp only [foldsTo, Bool.or_eq_true, Bool.and_eq_true, beq_iff_eq] at folds
  rcases folds with (rfl | ⟨rfl, rfl⟩) | ⟨rfl, rfl⟩
  · have long : c ≠ 'ſ' := by rintro rfl; exact absurd ascii (by decide)
    have kelvin : c ≠ '\u212A' := by rintro rfl; exact absurd ascii (by decide)
    rw [folded, if_neg long, if_neg kelvin]
  · rfl
  · rfl

/-- **Of two keywords at one place one is the start of the other.** -/
theorem prefix_or_prefix_of_keyword {t u rest' : List Char} (ht : ∀ l ∈ t, l.toNat < 128)
    (hu : ∀ l ∈ u, l.toNat < 128) (first : keyword t cs = some rest)
    (second : keyword u cs = some rest') : t <+: u ∨ u <+: t := by
  induction cs generalizing t u with
  | nil =>
      cases t with
      | nil => exact .inl List.nil_prefix
      | cons l t => simp [keyword] at first
  | cons c cs ih =>
      cases t with
      | nil => exact .inl List.nil_prefix
      | cons l t =>
          cases u with
          | nil => exact .inr List.nil_prefix
          | cons m u =>
              simp only [keyword, Option.ite_none_right_eq_some] at first second
              obtain rfl : l = m := (eq_folded_of_foldsTo (ht l List.mem_cons_self) first.1).trans
                (eq_folded_of_foldsTo (hu m List.mem_cons_self) second.1).symm
              simpa using ih (fun l h => ht l (List.mem_cons_of_mem _ h))
                (fun l h => hu l (List.mem_cons_of_mem _ h)) first.2 second.2

/-! ### Places -/

/-- The answer at the first place counts. -/
theorem somewhere_of_start {k : List Char → Option α} {cs : List Char} (here : k cs = some answer) :
    somewhere k cs = some answer := by
  cases cs with
  | nil => exact here
  | cons c cs => rw [somewhere, here]

/-- Places without an answer are passed over. -/
theorem somewhere_passed {k : List Char → Option α} {before here : List Char}
    (passed : ∀ later, later <:+ before → later ≠ [] → k (later ++ here) = none) :
    somewhere k (before ++ here) = somewhere k here := by
  induction before with
  | nil => rfl
  | cons c before ih =>
      have first := passed (c :: before) List.suffix_rfl (by simp)
      rw [List.cons_append] at first ⊢
      rw [somewhere, first]
      exact ih fun later suffix => passed later (suffix.trans (List.suffix_cons c before))

/-- **An answer is found at the leftmost place that has one.** By induction on the text. -/
theorem exists_of_somewhere {k : List Char → Option α} {cs : List Char}
    (found : somewhere k cs = some answer) :
    ∃ before here, cs = before ++ here ∧ k here = some answer
      ∧ ∀ later, later <:+ before → later ≠ [] → k (later ++ here) = none := by
  induction cs with
  | nil => exact ⟨[], [], rfl, found, by simp⟩
  | cons c cs ih =>
      rw [somewhere] at found
      cases first : k (c :: cs) with
      | some other =>
          rw [first] at found
          exact ⟨[], c :: cs, rfl, first.trans found, by simp⟩
      | none =>
          rw [first] at found
          obtain ⟨before, here, rfl, found, passed⟩ := ih found
          refine ⟨c :: before, here, rfl, found, fun later suffix some => ?_⟩
          rcases List.suffix_cons_iff.1 suffix with rfl | suffix
          · exact first
          · exact passed later suffix some

/-- There is no answer at any place if none is found. -/
theorem none_of_somewhere {k : List Char → Option α} {before here : List Char}
    (nothing : somewhere k (before ++ here) = none) : k here = none := by
  induction before with
  | nil =>
      cases answer : k here with
      | none => rfl
      | some _ => rw [List.nil_append, somewhere_of_start answer] at nothing; cases nothing
  | cons c before ih =>
      rw [List.cons_append, somewhere] at nothing
      split at nothing
      · cases nothing
      · exact ih nothing

/-- **A text is searched before what stands behind it**, if the answer at a place in it does not
change with what stands behind. -/
theorem somewhere_append {k : List Char → Option α} {cs rest : List Char} (nothing : k [] = none)
    (same : ∀ later, later <:+ cs → later ≠ [] → k (later ++ rest) = k later) :
    somewhere k (cs ++ rest) = (somewhere k cs).or (somewhere k rest) := by
  induction cs with
  | nil => rw [List.nil_append, somewhere, nothing, Option.none_or]
  | cons c cs ih =>
      have first := same (c :: cs) List.suffix_rfl (by simp)
      rw [List.cons_append] at first ⊢
      rw [somewhere, somewhere, first]
      cases k (c :: cs) with
      | some answer => rfl
      | none => exact ih fun later suffix => same later (suffix.trans (List.suffix_cons c cs))

/-- **A text has another one inside if it is an infix of it.** -/
theorem occurs_iff {t cs : List Char} : occurs t cs = true ↔ t <:+: cs := by
  unfold occurs
  induction cs with
  | nil => simp [somewhere, Option.isSome_iff_exists, literal_eq_some_iff]
  | cons c cs ih =>
      rw [List.infix_cons_iff, ← ih, somewhere]
      cases found : literal t (c :: cs) with
      | some rest =>
          have starts : t <+: c :: cs := ⟨rest, ((literal_eq_some_iff _ _ _).1 found).symm⟩
          simp [starts]
      | none =>
          have starts : ¬ t <+: c :: cs := by
            rintro ⟨rest, same⟩
            rw [(literal_eq_some_iff _ _ _).2 same.symm] at found
            nomatch found
          simp [starts]

end QueryFlow.Text
