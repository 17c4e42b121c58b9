import QueryFlow.Proofs.Log.Scan

/-!
# Slow logs one behind the other

What is read of a log that is put behind another one does not depend on what stands in the first,
but for the numbers of its lines: they count on. The first log may end inside a section, and what
follows must then not go on with a record of that section.

* `Entry.behind`, `Fault.behind`, `behind` — an entry, a fault and an answer behind so many lines.

## What a number changes

The machine that reads a log does the same with every line wherever the line stands: the number of
the line only goes into the entry or the fault. So it commutes with raising all numbers, which is
shown for one line by going through the stages and for a whole log by induction on its lines
(`next_behind`, `run_behind`).

## Where the second log starts

Behind a log that was read the machine stands between sections or inside one, since a log may not
end within a record. These two stages differ only in what they do with a line that starts a record,
and the second log does not start with one; so it is read as from the start. A first log with a
fault is another matter. If the fault is that of a line, the machine never comes to the second log,
and the fault is that of both. A fault at the end of the first log may be mended by what follows,
which is why such a fault is left out.

## Main results

* `run_behind`: the machine does the same behind some lines as at the start.
* `read_append`: a log behind another one is read as it is on its own, and a log with a fault is not
  mended by what comes behind it.
-/

namespace QueryFlow

/-- An entry as it is read behind so many lines. -/
def Log.Entry.behind (count : Nat) (e : Entry) : Entry := { e with line := e.line + count }

/-- A fault as it is found behind so many lines. Of the faults that a slow log can have only that of
a line has a number that counts on. -/
def Fault.behind (count : Nat) : Fault → Fault
  | .format line content expected => .format (line + count) content expected
  | fault => fault

namespace Log.SlowLog

open QueryFlow.Text QueryFlow.Time

/-- What comes of a log behind so many lines, in which some entries were read. -/
def behind (count : Nat) (es : List Entry) :
    Except Fault (List Entry) → Except Fault (List Entry)
  | .ok found => .ok (es ++ found.map (Entry.behind count))
  | .error fault => .error (fault.behind count)

/-- The machine behind so many lines, in which some entries were read. -/
def Progress.behind (count : Nat) (es : List Entry) (p : Progress) : Progress :=
  ⟨p.stage, p.number + count, es ++ p.entries.map (Entry.behind count)⟩

/-! ### What a number changes -/

section Numbers

variable {p q : Progress} {lines : List String} {fault : Fault}

theorem kept_behind (count : Nat) (es : List Entry) :
    kept (es.map (Entry.behind count)) = (kept es).map (Entry.behind count) := by
  rw [kept, kept, List.filter_map]
  rfl

/-- **A line leads to the same stage wherever it stands.** -/
theorem next_behind (count number : Nat) (line : String) (s : Stage) :
    s.next (number + count) line = match s.next number line with
      | .ok (s', found) => .ok (s', found.map (Entry.behind count))
      | .error fault => .error (fault.behind count) := by
  have dated (caller : Caller) (measures : Measures) :
      Stage.date caller measures (number + count) line
        = match Stage.date caller measures number line with
          | .ok (s', found) => .ok (s', found.map (Entry.behind count))
          | .error fault => .error (fault.behind count) := by
    cases timed : timestamp? line <;> simp [Stage.date, timed, Fault.behind]
  cases s with
  | between => rfl
  | within => cases named : caller? line <;> simp [Stage.next, named]
  | called caller => cases counted : measures? line <;> simp [Stage.next, counted, Fault.behind]
  | measured caller measures =>
      cases chooses : isUse line with
      | true => simp [Stage.next, chooses]
      | false => simpa [Stage.next, chooses] using dated caller measures
  | chosen caller measures => exact dated caller measures
  | dated caller measures start =>
      have same : [entryOf caller measures start line (number + count)]
          = [entryOf caller measures start line number].map (Entry.behind count) := rfl
      simp only [Stage.next, same, kept_behind]

/-- **The machine does the same behind some lines as at the start**, with all numbers of lines moved
on. By induction on the lines. -/
theorem run_behind (count : Nat) (es : List Entry) (p : Progress) (lines : List String) :
    run (p.behind count es) lines = behind count es (run p lines) := by
  induction lines generalizing p with
  | nil =>
      obtain ⟨s, n, found⟩ := p
      cases awaited : s.awaited? with
      | none => rw [Progress.behind, run_nil_of_ready awaited, run_nil_of_ready awaited, behind]
      | some expected =>
          rw [Progress.behind, run_nil_of_awaited awaited, run_nil_of_awaited awaited, behind,
            Fault.behind, Nat.add_right_comm]
  | cons line lines ih =>
      obtain ⟨s, n, found⟩ := p
      have moved := next_behind count (n + 1) line s
      rw [Nat.add_right_comm] at moved
      cases next : s.next (n + 1) line with
      | error fault =>
          rw [next] at moved
          rw [Progress.behind, run_cons_of_fault moved, run_cons_of_fault next, behind]
      | ok led =>
          obtain ⟨s', more⟩ := led
          rw [next] at moved
          rw [Progress.behind, run_cons_of_next moved, run_cons_of_next next, ← ih,
            Progress.behind, Nat.add_right_comm, List.map_append, List.append_assoc]

/-- Every line counts. -/
theorem number_of_scan (taken : scan p lines = .ok q) : q.number = p.number + lines.length := by
  induction lines generalizing p with
  | nil =>
      obtain rfl := Except.ok.inj taken
      rfl
  | cons line lines ih =>
      rw [scan, List.foldlM_cons] at taken
      obtain ⟨p', first, rest⟩ := bind_eq_ok_iff.1 taken
      obtain ⟨led, -, same⟩ := bind_eq_ok_iff.1 first
      obtain rfl := Except.ok.inj same
      rw [ih rest, List.length_cons]
      dsimp only
      omega

/-- A log that ends where a line of a record is awaited lacks the line behind its last one. -/
theorem exists_of_finish_eq_error (failed : p.finish = .error fault) :
    ∃ expected, fault = .format (p.number + 1) "<EOF>" expected :=
  (finish_eq_error_iff.1 failed).imp fun _ => And.right

end Numbers

/-! ### Two logs -/

section Logs

variable {headerLines : Nat} {first : String} {es : List Entry} {q : Progress}

/-- What is put behind a log is read by the machine from where the log has led it. -/
theorem read_append_eq_bind (ended : first.toList.getLast? = some '\n')
    (long : headerLines ≤ (linesOf first).length) (second : String) :
    read headerLines (splitLines (first ++ second))
      = scan ⟨.between, headerLines, []⟩ ((linesOf first).drop headerLines)
        >>= fun q => run q (linesOf second) := by
  have longer : headerLines ≤ (linesOf (first ++ second)).length := by
    rw [linesOf_append ended, List.length_append]
    omega
  rw [read_eq_run, if_pos longer, linesOf_append ended, List.drop_append_of_le_length long,
    run_append]

/-- All lines of a log were counted, those of the header too. -/
theorem number_of_scan_drop (long : headerLines ≤ (linesOf first).length)
    (taken : scan ⟨.between, headerLines, []⟩ ((linesOf first).drop headerLines) = .ok q) :
    q.number = (linesOf first).length := by
  rw [number_of_scan taken, List.length_drop, Nat.add_sub_cancel' long]

/-- **A log that is read has led the machine out of all records**, so that what follows starts
afresh. -/
theorem exists_scan_of_read (long : headerLines ≤ (linesOf first).length)
    (accepted : read headerLines (splitLines first) = .ok es) :
    ∃ s : Stage, s.awaited? = none ∧ scan ⟨.between, headerLines, []⟩
      ((linesOf first).drop headerLines) = .ok ⟨s, (linesOf first).length, es⟩ := by
  rw [read_eq_run, if_pos long] at accepted
  obtain ⟨⟨s, n, found⟩, taken, finished⟩ := bind_eq_ok_iff.1 accepted
  obtain ⟨ready, rfl⟩ := finish_eq_ok_iff.1 finished
  exact ⟨s, ready, number_of_scan_drop long taken ▸ taken⟩

/-- Outside the sections lines are read as those of a log without a header. -/
theorem run_between_eq_behind (count : Nat) (es : List Entry) (second : String) :
    run ⟨.between, count, es⟩ (linesOf second) = behind count es (read 0 (splitLines second)) := by
  rw [read_eq_run, if_pos (Nat.zero_le _), List.drop_zero, ← run_behind, Progress.behind,
    Nat.zero_add, List.map_nil, List.append_nil]

/-- **Slow logs compose.** Behind a log that was read another one is read as it is on its own, if it
does not start with a record. A fault of a line of the first log is the fault of both. -/
theorem read_append (ended : first.toList.getLast? = some '\n')
    (long : headerLines ≤ (linesOf first).length) (second : String) :
    (∀ es, read headerLines (splitLines first) = .ok es →
      (∀ line ∈ (linesOf second).head?, isRecord line = false) →
        read headerLines (splitLines (first ++ second))
          = behind (linesOf first).length es (read 0 (splitLines second)))
      ∧ ∀ line content expected,
        read headerLines (splitLines first) = .error (.format line content expected) →
          line ≤ (linesOf first).length →
            read headerLines (splitLines (first ++ second))
              = .error (.format line content expected) := by
  rw [read_append_eq_bind ended long]
  constructor
  · intro es accepted other
    obtain ⟨s, ready, taken⟩ := exists_scan_of_read long accepted
    rw [taken, ok_bind, run_of_ready ready other, run_between_eq_behind]
  · intro line content expected refused inside
    rw [read_eq_run, if_pos long] at refused
    rcases bind_eq_error_iff.1 refused with failed | ⟨q, taken, failed⟩
    · rw [failed, error_bind]
    · -- a fault at the end stands behind the last line
      obtain ⟨_, same⟩ := exists_of_finish_eq_error failed
      have number := number_of_scan_drop long taken
      obtain ⟨rfl, -, -⟩ := Fault.format.inj same
      omega

/-- A log that ends in a section is read on with one behind it, and one with a fault is not. -/
theorem read_append_of_two_sections :
    ∃ (first second torn : String) (es found : List Entry),
      es.map (fun e => (e.sql, e.line)) = [("select 1", 6)]
        ∧ found.map (fun e => (e.sql, e.line)) = [("select 2", 6)]
        ∧ read 0 (splitLines second) = .ok found
        ∧ read 1 (splitLines (first ++ second)) = .ok (es ++ found.map (Entry.behind 6))
        ∧ read 1 (splitLines (torn ++ second))
          = .error (.format 4 "SET timestamp=1;" .queryMetadata) := by
  let caller := "# User@Host: a[b] @ h [10.0.0.1]  Id: 4"
  let metadata := "# Query_time: 1.5  Lock_time: 0 Rows_sent: 0  Rows_examined: 0"
  let section₁ := ["Argument", "# Time: 1", caller, metadata, "SET timestamp=1;", "select 1"]
  let section₂ := ["", "# Time: 2", caller, metadata, "SET timestamp=2;", "select 2"]
  obtain ⟨first, ended₁, lines₁⟩ := @exists_text section₁ (by decide +kernel) (by simp)
  obtain ⟨second, -, lines₂⟩ := @exists_text section₂ (by decide +kernel) (by simp)
  obtain ⟨torn, ended₃, lines₃⟩ :=
    @exists_text ["Argument", "# Time: 1", caller, "SET timestamp=1;"] (by decide +kernel) (by simp)
  obtain ⟨es, here, shown₁⟩ : ∃ es, read 1 (splitLines first) = .ok es
      ∧ es.map (fun e => (e.sql, e.line)) = [("select 1", 6)] := by
    rw [read_eq_run, lines₁]
    exact toOption_map_eq_some_iff.1 (by decide +kernel)
  obtain ⟨found, there, shown₂⟩ : ∃ es, read 0 (splitLines second) = .ok es
      ∧ es.map (fun e => (e.sql, e.line)) = [("select 2", 6)] := by
    rw [read_eq_run, lines₂]
    exact toOption_map_eq_some_iff.1 (by decide +kernel)
  have fault : read 1 (splitLines torn) = .error (.format 4 "SET timestamp=1;" .queryMetadata) := by
    rw [read_eq_run, lines₃]
    decide +kernel
  have whole := (read_append ended₁ (by rw [lines₁]; decide) second).1 es here
    (by rw [lines₂]; decide +kernel)
  rw [there, lines₁] at whole
  exact ⟨first, second, torn, es, found, shown₁, shown₂, there, whole,
    (read_append ended₃ (by rw [lines₃]; decide) second).2 _ _ _ fault (by rw [lines₃]; decide)⟩

end Logs

end Log.SlowLog

end QueryFlow
