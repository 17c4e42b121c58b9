import QueryFlow.Fault
import QueryFlow.Log.Lines

/-!
# A cursor over the lines of a log

The grammar of a slow log looks one line ahead: a line is taken, found not to belong to the
structure at hand, and put back. There is room for one such line; putting back a second one is a
breach.

* `Cursor.next` takes the next line, without its line end;
* `Cursor.putBack` puts back a line, to be taken again;
* `Cursor.left` counts the lines not yet taken.

The cursor counts lines as they are taken and takes the count back with a line, so that the number
is that of the line last taken wherever the reader stands. A line whose bytes are no text cannot be
taken: it is passed over with a fault, and is not counted.

Main statements: `take_left`, taking a line leaves one line less, and `putBack_left`, putting it
back leaves one more.
-/

namespace QueryFlow.Log

/-- A place in a log. -/
structure Cursor where
  /-- The lines not yet read. -/
  ahead : List PhysicalLine
  /-- The line that was put back. -/
  held : Option String
  /-- The number of the line last taken, from one, or zero. -/
  number : Nat
deriving DecidableEq

namespace Cursor

/-- The beginning of a log. -/
def start (lines : List PhysicalLine) : Cursor := ⟨lines, none, 0⟩

/-- Takes the next line: the one that was put back if there is one, and the next of the stream
otherwise. A line that is no text is passed over without being counted. -/
def next (c : Cursor) : Except IoFault (Option String) × Cursor :=
  match c.held with
  | some line => (.ok (some line), { c with held := none, number := c.number + 1 })
  | none =>
    match c.ahead with
    | [] => (.ok none, c)
    | none :: rest => (.error .notText, { c with ahead := rest })
    | some line :: rest =>
      (.ok (some (trimLineEnd line)), { c with ahead := rest, number := c.number + 1 })

/-- Takes the next line, or fails. The cursor behind a failure is not given, since nobody goes on
from there. -/
def take (c : Cursor) : Except Fault (Option String × Cursor) :=
  match c.next with
  | (.error cause, _) => .error (.io cause)
  | (.ok line, c) => .ok (line, c)

/-- Puts back a line, to be taken again and counted again. With a line waiting already this is a
breach, and no line is given up. -/
def putBack (line : String) (c : Cursor) : Except Fault Cursor :=
  match c.held with
  | some _ => .error (.breach .lineWaiting)
  | none => .ok { c with held := some line, number := c.number - 1 }

/-- The number of lines not yet taken. -/
def left (c : Cursor) : Nat := c.ahead.length + c.held.toList.length

/-- **Taking a line leaves one line less and none held.** -/
theorem take_left {c c' : Cursor} {line : String} (h : c.take = .ok (some line, c')) :
    c'.left + 1 = c.left ∧ c'.held = none := by
  obtain ⟨ahead, held, number⟩ := c
  cases held with
  | some l =>
    simp only [take, next, Except.ok.injEq, Prod.mk.injEq, Option.some.injEq] at h
    obtain ⟨-, rfl⟩ := h
    simp [left]
  | none =>
    cases ahead with
    | nil => simp [take, next] at h
    | cons first rest =>
      cases first with
      | none => simp [take, next] at h
      | some l =>
        simp only [take, next, Except.ok.injEq, Prod.mk.injEq, Option.some.injEq] at h
        obtain ⟨-, rfl⟩ := h
        simp [left]

/-- At the end nothing is taken. -/
theorem take_none {c c' : Cursor} (h : c.take = .ok (none, c')) : c' = c ∧ c.left = 0 := by
  obtain ⟨ahead, held, number⟩ := c
  cases held with
  | some l => simp [take, next] at h
  | none =>
    cases ahead with
    | nil =>
      simp only [take, next, Except.ok.injEq, Prod.mk.injEq, true_and] at h
      exact ⟨h.symm, by simp [left]⟩
    | cons first rest => cases first <;> simp [take, next] at h

/-- **Putting a line back leaves one line more.** -/
theorem putBack_left {c c' : Cursor} {line : String} (h : c.putBack line = .ok c') :
    c'.left = c.left + 1 := by
  obtain ⟨ahead, held, number⟩ := c
  cases held with
  | some l => simp [putBack] at h
  | none =>
    simp only [putBack, Except.ok.injEq] at h
    subst h
    simp [left]

end Cursor

end QueryFlow.Log
