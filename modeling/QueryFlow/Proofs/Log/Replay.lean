import QueryFlow.Proofs.Log.Lines
import QueryFlow.Proofs.Log.Reading

/-!
# Taking lines and putting them back

A cursor is *used* by taking lines and by putting them back. Whoever uses it in an *orderly* way
puts back only the line that was taken just before. Then there is always room for that line, and
apart from the lines that were put back those that were taken are the lines of the text, in order,
each once and none left out.

## Uses and runs

A use is recorded with what came of it: the line that was taken, that the end was met, that the next
line could not be taken, or the line that was put back. A run is a list of uses that lead from one
cursor to another. The lines that are *kept* are those taken and not put back; they are read off the
list of uses alone, and what is shown compares them with the lines of the text.

## The invariant

The cursor stands in front of the lines behind those that are kept, and has counted these. Taking a
line moves the first of the lines in front to those that are kept. Putting a line back would break
the invariant if another line were given, or if a line were waiting already. Both are excluded by
the use just before, which took this line: so the invariant is carried through the run together with
what is known when the last use has taken a line, that no line is waiting and that it is the last
one kept (`Run.stands`). The induction is on the list of uses from its end, because order in a run
is a matter of what came before.

## Main results

* `Run.stands`: an orderly run ends in front of the lines that are not kept.
* `Run.faithful`: what an orderly run has taken, and what it can take next.
-/

namespace QueryFlow.Log

/-- What is done with a cursor, and what comes of it. The uses of a run are a full account of it,
from which the lines that were kept can be told. -/
inductive Use
  /-- A line is taken. -/
  | took (line : String)
  /-- No line is left to take. -/
  | ended
  /-- The next line cannot be taken. -/
  | failed (cause : IoFault)
  /-- A line is put back. -/
  | gave (line : String)
deriving DecidableEq

/-- The lines that are kept with one use more: a line that is taken joins them, one that is put back
leaves them again. -/
def Use.keep (lines : List String) : Use → List String
  | took line => lines ++ [line]
  | gave _ => lines.dropLast
  | ended | failed _ => lines

/-- The lines that are taken, except for those that are put back. -/
def kept (us : List Use) : List String := us.foldl Use.keep []

@[simp] theorem kept_concat (us : List Use) (u : Use) : kept (us ++ [u]) = u.keep (kept us) := by
  simp [kept]

/-- Only the line that was taken just before is put back. Nothing is asked of the lines that are
taken, nor of how often the end is met. -/
def Orderly (us : List Use) : Prop :=
  ∀ before line behind, us = before ++ .gave line :: behind → before.getLast? = some (.took line)

theorem Orderly.of_append {us vs : List Use} (orderly : Orderly (us ++ vs)) : Orderly us :=
  fun before line behind same => orderly before line (behind ++ vs) (by simp [same])

theorem orderly_nil : Orderly [] := fun before line behind same => by simp at same

theorem orderly_singleton {u : Use} (other : ∀ line, u ≠ .gave line) : Orderly [u] := by
  intro before line behind same
  cases before with
  | nil => exact absurd (List.cons.inj same).1 (other line)
  | cons v before => simp at same

/-- A line is put back right after it was taken. -/
theorem orderly_pair (line : String) : Orderly [.took line, .gave line] := by
  intro before other behind same
  rcases before with _ | ⟨u, _ | ⟨v, before⟩⟩
  · simp at same
  · simp only [List.cons_append, List.nil_append, List.cons.injEq, Use.gave.injEq] at same
    rw [← same.1, same.2.1, List.getLast?_singleton]
  · simp at same

/-- **Uses stay orderly if one orderly work follows another one**, as no orderly work begins by
putting a line back. -/
theorem Orderly.append {us vs : List Use} (first : Orderly us) (second : Orderly vs) :
    Orderly (us ++ vs) := by
  intro before line behind same
  rcases List.append_eq_append_iff.1 same with ⟨more, rfl, tail⟩ | ⟨more, whole, tail⟩
  · have last := second more line behind tail
    rw [List.getLast?_append, last, Option.some_or]
  · cases more with
    | nil => exact absurd (second [] line behind tail.symm) (by simp)
    | cons u more =>
        obtain ⟨rfl, -⟩ := List.cons.inj tail
        exact first before line more whole

/-- One use leads from a cursor to the next one. -/
def Step (c : Cursor) : Use → Cursor → Prop
  | .took line, c' => c.next = (.ok (some line), c')
  | .ended, c' => c.next = (.ok none, c')
  | .failed cause, c' => c.next = (.error cause, c')
  | .gave line, c' => c.putBack line = .ok c'

/-- Uses lead from a cursor to another one, each of them doing to the cursor what it says. -/
def Run (c : Cursor) : List Use → Cursor → Prop
  | [], c' => c = c'
  | u :: us, c' => ∃ c₁, Step c u c₁ ∧ Run c₁ us c'

theorem run_append {c c' : Cursor} {us vs : List Use} :
    Run c (us ++ vs) c' ↔ ∃ c₁, Run c us c₁ ∧ Run c₁ vs c' := by
  induction us generalizing c with
  | nil => simp [Run]
  | cons u us ih =>
      simp only [List.cons_append, Run, ih]
      exact ⟨fun ⟨c₁, step, c₂, first, second⟩ => ⟨c₂, ⟨c₁, step, first⟩, second⟩,
        fun ⟨c₂, ⟨c₁, step, first⟩, second⟩ => ⟨c₁, step, c₂, first, second⟩⟩

theorem run_singleton {c c' : Cursor} {u : Use} : Run c [u] c' ↔ Step c u c' := by
  simp [Run]

namespace Cursor

variable {c c' : Cursor} {n : Nat} {line : String} {lines : List String}

/-- What is taken is the next line, or the end. -/
theorem take_eq_ok_iff {found : Option String} :
    c.take = .ok (found, c') ↔ c.next = (.ok found, c') := by
  unfold take
  split
  · next failed => simp [failed]
  · next found' c₁ taken => simp [taken]

/-- The line that is taken from a cursor is the one in front of it. -/
theorem Stands.of_took (stands : c.Stands n lines) (took : Step c (.took line) c') :
    ∃ rest, lines = line :: rest ∧ c'.Stands (n + 1) rest ∧ c'.held = none := by
  have taken := take_eq_ok_iff.2 took
  cases lines with
  | nil => rw [stands.take_nil] at taken; cases taken
  | cons first rest =>
      obtain ⟨c₁, -, taken', next, -⟩ := stands.exists_take
      rw [taken] at taken'
      cases taken'
      exact ⟨rest, rfl, next, (take_left taken).2⟩

/-- The end is met when no line is in front of the cursor. -/
theorem Stands.of_ended (stands : c.Stands n lines) (ended : Step c .ended c') :
    lines = [] ∧ c' = c := by
  have taken := take_eq_ok_iff.2 ended
  cases lines with
  | nil => exact ⟨rfl, (take_none taken).1⟩
  | cons first rest =>
      obtain ⟨c₁, -, taken', -⟩ := stands.exists_take
      rw [taken] at taken'
      cases taken'

/-- The next line is the one in front of the cursor. -/
theorem Stands.next_eq (stands : c.Stands n lines) : c.next.1 = .ok lines.head? := by
  cases lines with
  | nil => rw [take_eq_ok_iff.1 stands.take_nil]; rfl
  | cons first rest =>
      obtain ⟨c₁, -, taken, -⟩ := stands.exists_take
      rw [take_eq_ok_iff.1 taken]
      rfl

/-- A line is put back where none is waiting. -/
theorem held_of_gave (gave : Step c (.gave line) c') : c.held = none := by
  cases waiting : c.held with
  | none => rfl
  | some other => rw [Step, putBack, waiting] at gave; cases gave

/-- A line that is put back stands in front of the others. -/
theorem Stands.of_gave (stands : c.Stands (n + 1) lines) (gave : Step c (.gave line) c') :
    c'.Stands n (line :: lines) := by
  obtain ⟨ahead, held, number⟩ := c
  obtain ⟨rfl, front⟩ := stands
  cases held with
  | some waiting => cases gave
  | none =>
      cases gave
      exact ⟨rfl, by simpa using front⟩

end Cursor

variable {c₀ c : Cursor} {us : List Use} {lines : List String}

/-- **An orderly run ends in front of the lines that are not kept.** By induction on the uses from
their end: a line that is put back is the last one that was kept, and its slot is free. -/
theorem Run.stands (run : Run c₀ us c) (orderly : Orderly us) (start : c₀.Stands 0 lines) :
    (∃ rest, kept us ++ rest = lines ∧ c.Stands (kept us).length rest)
      ∧ ∀ line, us.getLast? = some (.took line) →
          c.held = none ∧ (kept us).getLast? = some line := by
  induction us using List.reverseRecOn generalizing c with
  | nil =>
      cases run
      exact ⟨⟨lines, rfl, start⟩, by simp⟩
  | append_singleton us u ih =>
      obtain ⟨c₁, before, last⟩ := run_append.1 run
      obtain ⟨⟨rest, rfl, stands⟩, fresh⟩ := ih before orderly.of_append
      rw [run_singleton] at last
      cases u with
      | took line =>
          obtain ⟨rest, rfl, next, free⟩ := stands.of_took last
          refine ⟨⟨rest, by simp [Use.keep], by simpa [Use.keep] using next⟩, ?_⟩
          simp [Use.keep, free]
      | ended =>
          obtain ⟨rfl, rfl⟩ := stands.of_ended last
          exact ⟨⟨[], by simp [Use.keep], by simpa [Use.keep] using stands⟩, by simp⟩
      | failed cause =>
          have next := stands.next_eq
          rw [show c₁.next = (.error cause, c) from last] at next
          cases next
      | gave line =>
          -- the line is the last one that is kept, so it goes back to where it came from
          obtain ⟨-, final⟩ := fresh line (orderly us line [] rfl)
          obtain ⟨others, whole⟩ := List.getLast?_eq_some_iff.1 final
          rw [whole, List.length_append, List.length_singleton] at stands
          refine ⟨⟨line :: rest, by simp [Use.keep, whole], ?_⟩, by simp⟩
          simpa [Use.keep, whole] using stands.of_gave last

/-- What a cursor has given of some lines, and what it gives next. -/
structure Faithful (lines : List String) (us : List Use) (c : Cursor) : Prop where
  /-- The lines that are kept are the first ones. -/
  kept_prefix : kept us <+: lines
  /-- They are counted. -/
  number : c.number = (kept us).length
  /-- The line behind them comes next, or the end. -/
  next : c.next.1 = .ok lines[(kept us).length]?
  /-- The end was met behind all lines only. -/
  ended : ∀ before behind, us = before ++ .ended :: behind → kept before = lines
  /-- Every line could be taken. -/
  unfailed : ∀ cause, .failed cause ∉ us
  /-- There is room for the line that was taken just before. -/
  returnable : ∀ line, us.getLast? = some (.took line) → ∃ c', c.putBack line = .ok c'

/-- **The lines that an orderly run keeps are those of the text**, in order and counted. -/
theorem Run.faithful (run : Run c₀ us c) (orderly : Orderly us) (start : c₀.Stands 0 lines) :
    Faithful lines us c := by
  obtain ⟨⟨rest, whole, stands⟩, fresh⟩ := run.stands orderly start
  refine ⟨⟨rest, whole⟩, stands.number, ?_, ?_, ?_, ?_⟩
  · rw [stands.next_eq, ← whole, List.getElem?_append_right (Nat.le_refl _), Nat.sub_self,
      List.head?_eq_getElem?]
  · rintro before behind rfl
    obtain ⟨c₁, first, c₂, last, -⟩ := run_append.1 run
    obtain ⟨⟨rest, rfl, stands⟩, -⟩ := first.stands orderly.of_append start
    rw [(stands.of_ended last).1, List.append_nil]
  · intro cause member
    obtain ⟨before, behind, rfl⟩ := List.append_of_mem member
    obtain ⟨c₁, first, c₂, last, -⟩ := run_append.1 run
    obtain ⟨⟨rest, -, stands⟩, -⟩ := first.stands orderly.of_append start
    have next := stands.next_eq
    rw [show c₁.next = (.error cause, c₂) from last] at next
    cases next
  · intro line took
    rw [Cursor.putBack, (fresh line took).1]
    exact ⟨_, rfl⟩

end QueryFlow.Log
