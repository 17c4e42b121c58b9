import QueryFlow.Proofs.Log.Composition

/-!
# Damaged records of a slow log

A line of a record that does not have its form is a fault, so that no damaged record is left out of
an account. This does not hold of the first line. Whether a record starts is decided by the whole
form of the line that names the caller; where that is damaged there is no record, hence no required
line. The section ends there, and all that follows up to the next marker is passed over with the
damaged record, complete records too.

## How the damage is followed

The machine reads the part in front of the damaged line as it would read it alone, and this part is
accepted, so that no line of a record is awaited where the damaged line comes. The damaged line
starts no record, and no section either, because it starts as a line that names a caller; it leads
out of the section (`run_of_ready`). The lines behind it, as long as none of them is a marker, only
count (`run_of_passed`, by induction on them). What follows is read as a log of its own, with its
line numbers raised.

That the damaged line is no fault is more than that the log is accepted: the rest may have a fault
of its own. It follows from the place of faults, which is always behind what was read already
(`lt_and_ne_of_run_eq_format`).

## Main results

* `lt_and_ne_of_run_eq_format`: a fault concerns a line that is still to be read, and never the
  first one of a record.
* `read_ne_userHeader`: so no log is refused for such a line.
* `run_of_passed`: outside the sections lines that are no markers only count.
* `read_of_damaged_caller`: a log with a damaged first line of a record is read as if the log went
  on at the next marker, and the damaged line is never a fault.
* `not_format_of_damaged_caller`: it is not true that such a line is always a fault.
-/

namespace QueryFlow.Log.SlowLog

open QueryFlow.Text QueryFlow.Time

/-! ### Faults -/

section Faults

variable {s : Stage} {p : Progress} {number : Nat} {line content : String} {lines : List String}
  {fault : Fault} {expected : RequiredLine}

/-- A line that leads to no stage is a fault of this line, which is not the first of a record. -/
theorem exists_of_next_eq_error (refused : s.next number line = .error fault) :
    ∃ expected, fault = .format number line expected ∧ expected ≠ .userHeader := by
  have dated (caller : Caller) (measures : Measures)
      (refused : Stage.date caller measures number line = .error fault) :
      ∃ expected, fault = .format number line expected ∧ expected ≠ .userHeader := by
    unfold Stage.date at refused
    split at refused
    · cases refused
    · exact ⟨.setStatement, (Except.error.inj refused).symm, by decide⟩
  cases s with
  | between => cases refused
  | within => cases named : caller? line <;> simp [Stage.next, named] at refused
  | called caller =>
      cases counted : measures? line with
      | none => exact ⟨.queryMetadata, by simpa [Stage.next, counted] using refused.symm, by decide⟩
      | some measures => simp [Stage.next, counted] at refused
  | measured caller measures =>
      cases chooses : isUse line with
      | true => simp [Stage.next, chooses] at refused
      | false => exact dated caller measures (by simpa [Stage.next, chooses] using refused)
  | chosen caller measures => exact dated caller measures refused
  | dated caller measures start => cases refused

/-- The end of a log never stands for the first line of a record. -/
theorem awaited?_ne_userHeader (s : Stage) : s.awaited? ≠ some .userHeader := by
  cases s <;> simp [Stage.awaited?]

/-- **A fault concerns a line that is still to be read**, and never the first one of a record. -/
theorem lt_and_ne_of_run_eq_format
    (failed : run p lines = .error (.format number content expected)) :
    p.number < number ∧ expected ≠ .userHeader := by
  induction lines generalizing p with
  | nil =>
      obtain ⟨s, n, es⟩ := p
      cases awaited : s.awaited? with
      | none =>
          rw [run_nil_of_ready awaited] at failed
          cases failed
      | some missing =>
          rw [run_nil_of_awaited awaited] at failed
          obtain ⟨rfl, -, rfl⟩ := Fault.format.inj (Except.error.inj failed)
          refine ⟨Nat.lt_succ_self n, ?_⟩
          rintro rfl
          exact awaited?_ne_userHeader s awaited
  | cons line lines ih =>
      obtain ⟨s, n, es⟩ := p
      cases next : s.next (n + 1) line with
      | error fault =>
          rw [run_cons_of_fault next] at failed
          obtain ⟨_, same, other⟩ := exists_of_next_eq_error next
          obtain ⟨rfl, -, rfl⟩ := Fault.format.inj ((Except.error.inj failed).symm.trans same)
          exact ⟨Nat.lt_succ_self n, other⟩
      | ok led =>
          rw [run_cons_of_next next] at failed
          exact (ih failed).imp_left Nat.lt_of_succ_lt

end Faults

/-- **No log is refused for the first line of a record**: where that is damaged there is none. -/
theorem read_ne_userHeader (headerLines : Nat) (text : String) (line : Nat) (content : String) :
    read headerLines (splitLines text) ≠ .error (.format line content .userHeader) := by
  intro failed
  rw [read_eq_run] at failed
  split at failed
  · exact (lt_and_ne_of_run_eq_format failed).2 rfl
  · split at failed <;> simp at failed

/-! ### Lines that are passed over -/

/-- **Outside the sections lines that are no markers only count.** -/
theorem run_of_passed {lost : List String} (passed : ∀ line ∈ lost, isSection line = false)
    (n : Nat) (es : List Entry) (lines : List String) :
    run ⟨.between, n, es⟩ (lost ++ lines) = run ⟨.between, n + lost.length, es⟩ lines := by
  induction lost generalizing n with
  | nil => rfl
  | cons line lost ih =>
      have next : Stage.between.next (n + 1) line = .ok (.between, []) := by
        simp [Stage.next, Stage.beyond, passed line List.mem_cons_self]
      rw [List.cons_append, run_cons_of_next next, List.append_nil,
        ih (fun line member => passed line (List.mem_cons_of_mem _ member)), List.length_cons,
        Nat.add_assoc, Nat.add_comm 1]

/-- A line that starts like one that names a caller is no marker. -/
theorem isSection_of_names {line : String} (names : "# User@Host:".toList <+: line.toList) :
    isSection line = false := by
  obtain ⟨more, same⟩ := names
  rw [isSection, ← same]
  rfl

/-- **A record whose first line is damaged is passed over**, and with it all that follows up to the
next marker. What is read is what stands before it and what is read of the rest on its own; the
damaged line is no fault. -/
theorem read_of_damaged_caller {headerLines : Nat} {text front rest damaged : String}
    {lost : List String} {es : List Entry}
    (lines : linesOf text = linesOf front ++ damaged :: (lost ++ linesOf rest))
    (long : headerLines ≤ (linesOf front).length)
    (accepted : read headerLines (splitLines front) = .ok es)
    (names : "# User@Host:".toList <+: damaged.toList) (damages : isRecord damaged = false)
    (passed : ∀ line ∈ lost, isSection line = false) :
    read headerLines (splitLines text)
        = behind ((linesOf front).length + 1 + lost.length) es (read 0 (splitLines rest))
      ∧ ∀ expected, read headerLines (splitLines text)
        ≠ .error (.format ((linesOf front).length + 1) damaged expected) := by
  obtain ⟨s, ready, taken⟩ := exists_scan_of_read long accepted
  have longer : headerLines ≤ (linesOf text).length := by
    rw [lines, List.length_append]
    omega
  have next : Stage.between.next ((linesOf front).length + 1) damaged = .ok (.between, []) := by
    simp [Stage.next, Stage.beyond, isSection_of_names names]
  have whole : read headerLines (splitLines text)
      = run ⟨.between, (linesOf front).length + 1 + lost.length, es⟩ (linesOf rest) := by
    rw [read_eq_run, if_pos longer, lines, List.drop_append_of_le_length long, run_append, taken,
      ok_bind, run_of_ready ready (by simpa using damages), run_cons_of_next next, List.append_nil,
      run_of_passed passed]
  refine ⟨whole.trans (run_between_eq_behind _ es rest), fun expected failed => ?_⟩
  have later := (lt_and_ne_of_run_eq_format (whole.symm.trans failed)).1
  dsimp only at later
  omega

/-- A record without its connection takes a complete one with it. -/
theorem read_of_missing_connection :
    ∃ (text front rest : String) (lost : List String) (es found : List Entry),
      linesOf text
          = linesOf front ++ "# User@Host: root[root] @  [10.0.0.1]" :: (lost ++ linesOf rest)
        ∧ "select 3" ∈ lost
        ∧ read 1 (splitLines front) = .ok es ∧ read 0 (splitLines rest) = .ok found
        ∧ es.map (fun e => (e.sql, e.line)) = [("select 1", 6)]
        ∧ found.map (fun e => (e.sql, e.line)) = [("select 4", 5)]
        ∧ read 1 (splitLines text) = .ok (es ++ found.map (Entry.behind 14)) := by
  let caller := "# User@Host: root[root] @  [10.0.0.1]  Id: 4"
  let damaged := "# User@Host: root[root] @  [10.0.0.1]"
  let metadata := "# Query_time: 1.5  Lock_time: 0 Rows_sent: 0  Rows_examined: 0"
  let before := ["Argument", "# Time: 1", caller, metadata, "SET timestamp=1;", "select 1"]
  let lost := [metadata, "SET timestamp=2;", "select 2", caller, metadata, "SET timestamp=3;",
    "select 3"]
  let later := ["# Time: 2", caller, metadata, "SET timestamp=4;", "select 4"]
  have all : ∀ line ∈ before ++ damaged :: (lost ++ later), IsLine line := by decide +kernel
  obtain ⟨text, -, lines⟩ := exists_text all (by simp)
  obtain ⟨front, -, lines₁⟩ :=
    @exists_text before (fun line member => all line (by simp [member])) (by simp)
  obtain ⟨rest, -, lines₂⟩ :=
    @exists_text later (fun line member => all line (by simp [member])) (by simp)
  obtain ⟨es, here, shown₁⟩ : ∃ es, read 1 (splitLines front) = .ok es
      ∧ es.map (fun e => (e.sql, e.line)) = [("select 1", 6)] := by
    rw [read_eq_run, lines₁]
    exact toOption_map_eq_some_iff.1 (by decide +kernel)
  obtain ⟨found, there, shown₂⟩ : ∃ es, read 0 (splitLines rest) = .ok es
      ∧ es.map (fun e => (e.sql, e.line)) = [("select 4", 5)] := by
    rw [read_eq_run, lines₂]
    exact toOption_map_eq_some_iff.1 (by decide +kernel)
  have parts : linesOf text = linesOf front ++ damaged :: (lost ++ linesOf rest) := by
    rw [lines, lines₁, lines₂]
  have whole := (read_of_damaged_caller parts (by rw [lines₁]; decide) here (by decide)
    (by decide +kernel) (by decide +kernel)).1
  rw [there, lines₁] at whole
  exact ⟨text, front, rest, lost, es, found, parts, by simp [lost], here, there, shown₁, shown₂,
    whole⟩

/-- **A damaged first line of a record is not always a fault**, also not where it stands directly
behind a marker. -/
theorem not_format_of_damaged_caller :
    ¬ ∀ (headerLines : Nat) (text : String) (front later : List String) (marker damaged : String),
      linesOf text = front ++ marker :: damaged :: later → headerLines ≤ front.length →
        isSection marker = true → "# User@Host:".toList <+: damaged.toList →
        isRecord damaged = false →
          ∃ expected, read headerLines (splitLines text)
            = .error (.format (front.length + 2) damaged expected) := by
  intro always
  let lines := ["# Time: 1", "# User@Host: root[root] @  [10.0.0.1]",
    "# Query_time: 1.5  Lock_time: 0 Rows_sent: 0  Rows_examined: 0", "SET timestamp=1;", "select 1"]
  obtain ⟨text, -, same⟩ := @exists_text lines (by decide +kernel) (by simp)
  obtain ⟨expected, refused⟩ := always 0 text [] _ _ _ same (Nat.le_refl 0) (by decide +kernel)
    (by decide) (by decide +kernel)
  have accepted : read 0 (splitLines text) = .ok [] := by
    rw [read_eq_run, same]
    decide +kernel
  rw [accepted] at refused
  cases refused

end QueryFlow.Log.SlowLog
