import QueryFlow.Text.Blank

/-!
# Matching by first choice

Line and statement patterns are matched the way a reader of regular expressions expects: a repeated
part takes as much as it can and gives characters back one at a time, and the first way through that
succeeds is the answer. A matcher is a function on the characters that follow, and takes the rest of
the pattern as its continuation.

* `repeated p k` — characters of class `p`, longest run first;
* `literal t` — exactly the characters `t`;
* `keyword t` — the ASCII letters `t` in either case, where `ſ` stands for `s` and the Kelvin sign
  for `k`;
* `somewhere k` — the leftmost place from which `k` succeeds.

A pattern is composed by putting one matcher into the continuation of another one. The continuation
is what makes giving back possible: a run is shortened when what follows it fails, and not only when
the next character does not fit. It also carries what has been read: the run is handed to it, and
the answer at the end may be made of all runs on the way.

Matching is by structural recursion on the text. It may take long where runs are nested, but it
always ends, and it needs no bound on the number of tries.

Main statements: `repeated_isSome_iff` says that `repeated` succeeds exactly when some split of the
run does, and `literal_eq_some_iff` that a literal is what it names.
-/

namespace QueryFlow.Text

variable {α β : Type}

/-- Matches a run of characters of class `p`, the longest run for which the rest of the pattern
`k`, given the run and what follows it, succeeds. -/
def repeated (p : Char → Bool) (k : List Char → List Char → Option α) : List Char → Option α
  | [] => k [] []
  | c :: rest =>
    if p c then
      match repeated p (fun run => k (c :: run)) rest with
      | some answer => some answer
      | none => k [] (c :: rest)
    else k [] (c :: rest)

/-- The same with a run of at least one character. -/
def repeated1 (p : Char → Bool) (k : List Char → List Char → Option α) : List Char → Option α
  | [] => none
  | c :: rest => if p c then repeated p (fun run => k (c :: run)) rest else none

/-- What follows the literal `t`, if the text starts with it. -/
def literal : (t : List Char) → List Char → Option (List Char)
  | [], rest => some rest
  | _ :: _, [] => none
  | l :: t, c :: rest => if c == l then literal t rest else none

/-- `c` is the ASCII letter `l`, given in lower case, under simple case folding. Two characters
outside of ASCII fold to a letter of it. -/
def foldsTo (l c : Char) : Bool :=
  c.toLower == l || (l == 's' && c == 'ſ') || (l == 'k' && c == '\u212A')

/-- What follows the keyword `t`, given in lower case, if the text starts with it in any case. -/
def keyword : (t : List Char) → List Char → Option (List Char)
  | [], rest => some rest
  | _ :: _, [] => none
  | l :: t, c :: rest => if foldsTo l c then keyword t rest else none

/-- The answer of `k` at the leftmost place where it has one. -/
def somewhere (k : List Char → Option α) : List Char → Option α
  | [] => k []
  | c :: rest =>
    match k (c :: rest) with
    | some answer => some answer
    | none => somewhere k rest

/-- The text has `t` somewhere inside. -/
def occurs (t cs : List Char) : Bool := (somewhere (literal t) cs).isSome

/-- **A repeated part succeeds exactly when one of its splits does.** -/
theorem repeated_isSome_iff (p : Char → Bool) (k : List Char → List Char → Option α)
    (cs : List Char) :
    (repeated p k cs).isSome = true ↔
      ∃ run rest, cs = run ++ rest ∧ run.all p = true ∧ (k run rest).isSome = true := by
  induction cs generalizing k with
  | nil =>
    constructor
    · intro h; exact ⟨[], [], rfl, rfl, h⟩
    · rintro ⟨run, rest, same, _, h⟩
      obtain ⟨rfl, rfl⟩ := List.append_eq_nil_iff.1 same.symm
      exact h
  | cons c cs ih =>
    rw [repeated]
    by_cases hc : p c = true
    · rw [if_pos hc]
      cases inner : repeated p (fun run => k (c :: run)) cs with
      | some answer =>
        obtain ⟨run, rest, rfl, all, h⟩ := (ih fun run => k (c :: run)).1 (by simp [inner])
        simp only [Option.isSome_some, true_iff]
        exact ⟨c :: run, rest, rfl, by simp [hc, all], h⟩
      | none =>
        constructor
        · intro h; exact ⟨[], c :: cs, rfl, rfl, h⟩
        · rintro ⟨run, rest, same, all, h⟩
          cases run with
          | nil => simp only [List.nil_append] at same; subst same; exact h
          | cons d run =>
            simp only [List.cons_append, List.cons.injEq] at same
            obtain ⟨rfl, rfl⟩ := same
            have := (ih fun run => k (c :: run)).2
              ⟨run, rest, rfl, by simp at all; simpa using all.2, h⟩
            simp [inner] at this
    · rw [if_neg hc]
      constructor
      · intro h; exact ⟨[], c :: cs, rfl, rfl, h⟩
      · rintro ⟨run, rest, same, all, h⟩
        cases run with
        | nil => simp only [List.nil_append] at same; subst same; exact h
        | cons d run =>
          simp only [List.cons_append, List.cons.injEq] at same
          obtain ⟨rfl, rfl⟩ := same
          simp at all
          exact absurd all.1 hc

/-- **A literal is what it names**: matching it leaves exactly the text behind it. -/
theorem literal_eq_some_iff (t cs rest : List Char) :
    literal t cs = some rest ↔ cs = t ++ rest := by
  induction t generalizing cs with
  | nil => simp [literal, eq_comm]
  | cons l t ih =>
    cases cs with
    | nil => simp [literal]
    | cons c cs =>
      by_cases h : c = l
      · simp [literal, h, ih]
      · simp [literal, h]

end QueryFlow.Text
