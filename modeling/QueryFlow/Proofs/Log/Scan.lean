import QueryFlow.Proofs.Log.Reading

/-!
# Reading a slow log line by line

What the reader of a slow log does with a line is decided by the line and by the *stage* that the
lines before it have reached: between sections, inside a section where a record may start, or behind
one of the lines of a record. So a log is read by a machine that takes one line after the other,
never looks ahead and never puts a line back. At the end of the log it must not stand inside a
record.

* `Stage.next`, `Stage.finish` — what a line leads to, and whether the log may end;
* `Progress.step`, `scan`, `run` — the machine, on a line, on some lines, and on all that is left.

## Why a second reader

The reader follows the grammar: it has a function for each level, and each of them takes as many
lines as its part of the log has. That is convenient for a log that is known to have the grammar. A
statement about *any* text is another matter: it would have to go through all levels each time. The
machine has one step, and what holds of a whole log is shown by what one line keeps. It is used for
where entries come from, for where a fault is placed, for what a damaged line leads to, and for logs
that follow each other.

## Why the two agree

A part of the reader and the machine are compared by `Continues`: either both fail with the same
fault, or the reader leaves its cursor in front of some lines and the machine goes on with exactly
these. The comparison is made level by level, from the end of a record to its beginning, then for
the records of a section, and then for sections. Only in one place do the two stand at different
stages: when a line behind a record starts no other one, the reader puts it back and returns to the
level of sections, where it is looked at once more, and the machine has taken it in one step. Both
ways lead to the same stage because where no line of a record is awaited the stage matters only to a
line that starts a record (`run_of_ready`).

The recursion of the two upper levels is on the number of lines that are left, and so are the
inductions, on the length of the list of lines.

## Main results

* `run_within`, `run_between`: the machine does what the reader does with records and sections.
* `read_eq_run`: a log is read by running the machine behind the header.
* `run_append`: some lines are read behind others from the stage that these have reached.
-/

namespace QueryFlow.Log.SlowLog

open QueryFlow.Text QueryFlow.Time

/-! ### Stages -/

/-- How far the lines read so far have come in the grammar of a log. -/
inductive Stage
  /-- Outside the sections. -/
  | between
  /-- Behind the marker of a section or behind a record, where a record may start. -/
  | within
  /-- Behind the line that names the caller. -/
  | called (caller : Caller)
  /-- Behind the metadata line. -/
  | measured (caller : Caller) (measures : Measures)
  /-- Behind a line that chooses a database. -/
  | chosen (caller : Caller) (measures : Measures)
  /-- Behind the set line. -/
  | dated (caller : Caller) (measures : Measures) (start : Instant)

/-- What a record says of a query whose text stands in a line of the log. -/
def entryOf (caller : Caller) (measures : Measures) (start : Instant) (sql : String)
    (line : Nat) : Entry :=
  { start := some start
    user := caller.user
    host := caller.host
    address := caller.address
    connection := caller.connection
    queryTime := measures.queryTime
    lockTime := measures.lockTime
    rowsSent := measures.rowsSent
    rowsExamined := measures.rowsExamined
    sql := stripInlineComments sql
    line }

/-- The entries without those that the server ran for its own diagnosis. -/
def kept (es : List Entry) : List Entry := es.filter fun e => !isDiagnostic e.sql

namespace Stage

/-- The stage behind a line that belongs to no record. -/
def beyond (line : String) : Stage := if isSection line then within else between

/-- Reads a set line. -/
def date (caller : Caller) (measures : Measures) (number : Nat) (line : String) :
    Except Fault (Stage × List Entry) :=
  match timestamp? line with
  | some start => .ok (dated caller measures start, [])
  | none => .error (.format number line .setStatement)

/-- The stage that the line with a number leads to, and the entry that it completes. There is one
clause for each stage; a fault arises only where a line of a record is awaited. -/
def next (number : Nat) (line : String) : Stage → Except Fault (Stage × List Entry)
  | between => .ok (beyond line, [])
  | within =>
    match caller? line with
    | some caller => .ok (called caller, [])
    | none => .ok (beyond line, [])
  | called caller =>
    match measures? line with
    | some measures => .ok (measured caller measures, [])
    | none => .error (.format number line .queryMetadata)
  | measured caller measures =>
    if isUse line then .ok (chosen caller measures, []) else date caller measures number line
  | chosen caller measures => date caller measures number line
  | dated caller measures start =>
    .ok (within, kept [entryOf caller measures start line number])

/-- The line of a record that must come next, if the stage stands inside a record. -/
def awaited? : Stage → Option RequiredLine
  | between | within => none
  | called _ => some .queryMetadata
  | measured .. | chosen .. => some .setStatement
  | dated .. => some .sqlText

/-- A log of so many lines may end only where no line of a record is awaited. -/
def finish (number : Nat) (s : Stage) : Except Fault Unit :=
  match s.awaited? with
  | none => .ok ()
  | some expected => .error (.format (number + 1) "<EOF>" expected)

end Stage

/-! ### The machine -/

/-- How far the reading of a log has come: what the lines so far have led to, how many there were,
and what was kept of them. -/
structure Progress where
  /-- What the lines read so far have led to. -/
  stage : Stage
  /-- The number of lines read. -/
  number : Nat
  /-- What was read and kept. -/
  entries : List Entry

namespace Progress

/-- Takes a line into account: the stage says which forms it may have. -/
def step (p : Progress) (line : String) : Except Fault Progress := do
  let (stage, found) ← p.stage.next (p.number + 1) line
  .ok ⟨stage, p.number + 1, p.entries ++ found⟩

/-- What a log that ends here holds. -/
def finish (p : Progress) : Except Fault (List Entry) := do
  p.stage.finish p.number
  .ok p.entries

end Progress

/-- Takes some lines, one after the other, up to the first fault. -/
def scan (p : Progress) (lines : List String) : Except Fault Progress := lines.foldlM Progress.step p

/-- Takes all lines that are left, one by one, until a fault. -/
def run (p : Progress) (lines : List String) : Except Fault (List Entry) :=
  scan p lines >>= Progress.finish

theorem scan_append (p : Progress) (xs ys : List String) :
    scan p (xs ++ ys) = scan p xs >>= fun q => scan q ys := by
  simp [scan, List.foldlM_append]

/-- **Some lines are read behind others from where these have led.** -/
theorem run_append (p : Progress) (xs ys : List String) :
    run p (xs ++ ys) = scan p xs >>= fun q => run q ys := by
  simp [run, scan_append]

/-! ### One line -/

section Line

variable {s s' : Stage} {n : Nat} {line : String} {es found : List Entry} {fault : Fault}

theorem run_nil (p : Progress) : run p [] = p.finish := rfl

/-- Where no line of a record is awaited the log may end. -/
theorem run_nil_of_ready (ready : s.awaited? = none) : run ⟨s, n, es⟩ [] = .ok es := by
  simp [run_nil, Progress.finish, Stage.finish, ready, ok_bind]

/-- Where one is awaited it may not. -/
theorem run_nil_of_awaited {expected : RequiredLine} (awaited : s.awaited? = some expected) :
    run ⟨s, n, es⟩ [] = .error (.format (n + 1) "<EOF>" expected) := by
  simp [run_nil, Progress.finish, Stage.finish, awaited, error_bind]

/-- A line that leads to a stage is taken. -/
theorem run_cons_of_next (next : s.next (n + 1) line = .ok (s', found)) (lines : List String) :
    run ⟨s, n, es⟩ (line :: lines) = run ⟨s', n + 1, es ++ found⟩ lines := by
  simp [run, scan, Progress.step, next, ok_bind]

/-- A line that does not lead to a stage ends the reading. -/
theorem run_cons_of_fault (next : s.next (n + 1) line = .error fault) (lines : List String) :
    run ⟨s, n, es⟩ (line :: lines) = .error fault := by
  simp [run, scan, Progress.step, next, error_bind]

/-- Where a record may start, a line that starts none is taken as one outside the sections. -/
theorem next_within_of_other (other : isRecord line = false) (number : Nat) :
    Stage.within.next number line = Stage.between.next number line := by
  have missing : caller? line = none := by simpa [isRecord] using other
  simp [Stage.next, missing]

/-- Where no line of a record is awaited the stage matters only to a line that starts a record. -/
theorem run_of_ready {lines : List String} (ready : s.awaited? = none)
    (other : ∀ line ∈ lines.head?, isRecord line = false) (n : Nat) (es : List Entry) :
    run ⟨s, n, es⟩ lines = run ⟨.between, n, es⟩ lines := by
  cases lines with
  | nil => rw [run_nil_of_ready ready, run_nil_of_ready rfl]
  | cons line lines =>
      have same : s.next (n + 1) line = Stage.between.next (n + 1) line := by
        cases s with
        | between => rfl
        | within => exact next_within_of_other (other line rfl) (n + 1)
        | called | measured | chosen | dated => cases ready
      simp [run, scan, Progress.step, same]

/-- A log may end where no line of a record is awaited. -/
theorem finish_eq_ok_iff {p : Progress} {es : List Entry} :
    p.finish = .ok es ↔ p.stage.awaited? = none ∧ p.entries = es := by
  unfold Progress.finish Stage.finish
  cases p.stage.awaited? with
  | none => simp [ok_bind]
  | some expected => simp [error_bind]

/-- Where one is awaited it lacks the line behind its last one. -/
theorem finish_eq_error_iff {p : Progress} {fault : Fault} :
    p.finish = .error fault ↔
      ∃ expected, p.stage.awaited? = some expected
        ∧ fault = .format (p.number + 1) "<EOF>" expected := by
  unfold Progress.finish Stage.finish
  cases p.stage.awaited? with
  | none => simp [ok_bind]
  | some expected => simp [error_bind, eq_comm]

end Line

/-! ### Records -/

section Records

variable {α : Type} {c : Cursor} {n : Nat} {line : String} {lines : List String}

theorem required_nil (stands : c.Stands n []) (expected : RequiredLine) :
    required expected c = .error (.format (n + 1) "<EOF>" expected) := by
  simp [required, stands.take_nil, stands.number]

theorem requiredForm_nil (stands : c.Stands n []) (expected : RequiredLine)
    (form : String → Option α) :
    requiredForm expected form c = .error (.format (n + 1) "<EOF>" expected) := by
  simp [requiredForm, required_nil stands]

theorem requiredForm_of_none {form : String → Option α} (stands : c.Stands n (line :: lines))
    (expected : RequiredLine) (fails : form line = none) :
    requiredForm expected form c = .error (.format (n + 1) line expected) := by
  obtain ⟨c', here, next⟩ := exists_required stands expected
  simp [requiredForm, here, fails, next.number]

theorem skipUse_nil (stands : c.Stands n []) : skipUse c = .ok c := by
  simp [skipUse, stands.take_nil]

/-- A line that chooses a database is passed over. -/
theorem exists_skipUse_of_use (stands : c.Stands n (line :: lines)) (chooses : isUse line = true) :
    ∃ c', skipUse c = .ok c' ∧ c'.Stands (n + 1) lines := by
  obtain ⟨c₁, -, taken, next, -⟩ := stands.exists_take
  exact ⟨c₁, by simp [skipUse, taken, chooses], next⟩

/-- Any other line stays. -/
theorem exists_skipUse_of_other (stands : c.Stands n (line :: lines))
    (other : isUse line = false) :
    ∃ c', skipUse c = .ok c' ∧ c'.Stands n (line :: lines) := by
  obtain ⟨c₁, c₂, taken, -, back, again⟩ := stands.exists_take
  exact ⟨c₂, by simp [skipUse, taken, other, back], again⟩

/-- Reads the lines of a record behind those that name the caller, the measures and perhaps the
database. -/
def readQuery (caller : Caller) (measures : Measures) (c : Cursor) :
    Except Fault (Entry × Cursor) := do
  let (start, c) ← requiredForm .setStatement timestamp? c
  let (line, c) ← required .sqlText c
  .ok (entryOf caller measures start line c.number, c)

theorem readRecord_eq (c : Cursor) :
    readRecord c = (do
      let (caller, c) ← requiredForm .userHeader caller? c
      let (measures, c) ← requiredForm .queryMetadata measures? c
      let c ← skipUse c
      readQuery caller measures c) := rfl

end Records

/-! ### The reader and the machine -/

/-- What a part of the reader does with some of the lines that are left, and what the machine does
with all of them: both fail alike, or the machine goes on with the lines that the reader leaves.
There are no more of these than there were before, on which the inductions rest. -/
def Continues {α : Type} (read : Except Fault (α × Cursor)) (left : Nat) (stage : Stage)
    (entries : α → List Entry) (answer : Except Fault (List Entry)) : Prop :=
  match read with
  | .error fault => answer = .error fault
  | .ok (found, c) => ∃ n lines, c.Stands n lines ∧ lines.length ≤ left
      ∧ answer = run ⟨stage, n, entries found⟩ lines

theorem Continues.mono {α : Type} {read : Except Fault (α × Cursor)} {left more : Nat}
    {stage : Stage} {entries : α → List Entry} {answer : Except Fault (List Entry)}
    (continues : Continues read left stage entries answer) (le : left ≤ more) :
    Continues read more stage entries answer := by
  cases read with
  | error fault => exact continues
  | ok found =>
      obtain ⟨n, lines, stands, shorter, same⟩ := continues
      exact ⟨n, lines, stands, shorter.trans le, same⟩

/-- What is made of what the reader finds changes nothing else. -/
theorem Continues.map {α β : Type} {read : Except Fault (α × Cursor)} {left : Nat}
    {stage : Stage} {entries : β → List Entry} {answer : Except Fault (List Entry)} (f : α → β)
    (continues : Continues read left stage (fun found => entries (f found)) answer) :
    Continues (read >>= fun (found, c) => .ok (f found, c)) left stage entries answer := by
  cases read with
  | error fault => exact continues
  | ok found => exact continues

section Agreement

variable {c : Cursor} {n : Nat} {line : String} {lines : List String} {s : Stage}

/-- Behind the set line the text of the query is read. -/
theorem run_dated (stands : c.Stands n lines) (caller : Caller) (measures : Measures)
    (start : Instant) (es : List Entry) :
    Continues (required .sqlText c >>= fun (line, c) =>
        .ok (entryOf caller measures start line c.number, c))
      lines.length .within (fun e => es ++ kept [e])
      (run ⟨.dated caller measures start, n, es⟩ lines) := by
  cases lines with
  | nil =>
      rw [required_nil stands, error_bind]
      exact run_nil_of_awaited rfl
  | cons line lines =>
      obtain ⟨c', here, next⟩ := exists_required stands .sqlText
      rw [here, ok_bind]
      refine ⟨n + 1, lines, next, Nat.le_succ _, ?_⟩
      rw [next.number]
      exact run_cons_of_next rfl lines

/-- Where the set line must come next the rest of the record is read. -/
theorem run_of_date {caller : Caller} {measures : Measures} (stands : c.Stands n lines)
    (awaited : s.awaited? = some .setStatement)
    (dates : ∀ line ∈ lines.head?, s.next (n + 1) line = Stage.date caller measures (n + 1) line)
    (es : List Entry) :
    Continues (readQuery caller measures c) lines.length .within (fun e => es ++ kept [e])
      (run ⟨s, n, es⟩ lines) := by
  cases lines with
  | nil =>
      rw [readQuery, requiredForm_nil stands, error_bind]
      exact run_nil_of_awaited awaited
  | cons line lines =>
      have next := dates line rfl
      cases reads : timestamp? line with
      | none =>
          rw [readQuery, requiredForm_of_none stands _ reads, error_bind]
          exact run_cons_of_fault (by rw [next, Stage.date, reads]) lines
      | some start =>
          obtain ⟨c', here, stands'⟩ := exists_requiredForm stands .setStatement reads
          rw [readQuery, here, ok_bind,
            run_cons_of_next (next.trans (by rw [Stage.date, reads])), List.append_nil]
          exact (run_dated stands' caller measures start es).mono (Nat.le_succ _)

/-- Behind the metadata line the rest of the record is read, with or without a line that chooses a
database. -/
theorem run_measured (stands : c.Stands n lines) (caller : Caller) (measures : Measures)
    (es : List Entry) :
    Continues (skipUse c >>= readQuery caller measures) lines.length .within
      (fun e => es ++ kept [e]) (run ⟨.measured caller measures, n, es⟩ lines) := by
  cases lines with
  | nil =>
      rw [skipUse_nil stands, ok_bind]
      exact run_of_date stands rfl (by simp) es
  | cons line lines =>
      cases chooses : isUse line with
      | true =>
          obtain ⟨c', passed, stands'⟩ := exists_skipUse_of_use stands chooses
          have next : Stage.next (n + 1) line (.measured caller measures)
              = .ok (.chosen caller measures, []) := by simp [Stage.next, chooses]
          rw [passed, ok_bind, run_cons_of_next next, List.append_nil]
          exact (run_of_date stands' rfl (fun _ _ => rfl) es).mono (Nat.le_succ _)
      | false =>
          obtain ⟨c', passed, stands'⟩ := exists_skipUse_of_other stands chooses
          rw [passed, ok_bind]
          refine run_of_date stands' rfl (fun first head => ?_) es
          obtain rfl : line = first := by simpa using head
          simp [Stage.next, chooses]

/-- **Where a record starts, the machine does what the reader of records does.** -/
theorem run_called {caller : Caller} (stands : c.Stands n (line :: lines))
    (starts : caller? line = some caller) (es : List Entry) :
    Continues (readRecord c) lines.length .within (fun e => es ++ kept [e])
      (run ⟨.called caller, n + 1, es⟩ lines) := by
  obtain ⟨c₁, named, stands₁⟩ := exists_requiredForm stands .userHeader starts
  simp only [readRecord_eq, named, ok_bind]
  cases lines with
  | nil =>
      rw [requiredForm_nil stands₁, error_bind]
      exact run_nil_of_awaited rfl
  | cons second lines =>
      cases reads : measures? second with
      | none =>
          rw [requiredForm_of_none stands₁ _ reads, error_bind]
          exact run_cons_of_fault (by simp [Stage.next, reads]) lines
      | some measures =>
          obtain ⟨c₂, measured, stands₂⟩ := exists_requiredForm stands₁ .queryMetadata reads
          have next : Stage.next (n + 1 + 1) second (.called caller)
              = .ok (.measured caller measures, []) := by simp [Stage.next, reads]
          rw [measured, ok_bind, run_cons_of_next next, List.append_nil]
          exact (run_measured stands₂ caller measures es).mono (Nat.le_succ _)

theorem kept_append (es fs : List Entry) : kept (es ++ fs) = kept es ++ kept fs := by
  simp [kept]

/-- A line that starts no record stays, and so does the end of the log. -/
theorem run_within_of_other (stands : c.Stands n lines)
    (other : ∀ line ∈ lines.head?, isRecord line = false) (es : List Entry) :
    Continues (readRecords c) lines.length .between (fun found => es ++ kept found)
      (run ⟨.within, n, es⟩ lines) := by
  obtain ⟨c', none, again⟩ := exists_readRecord?_none stands other
  have nothing : es ++ kept [] = es := by simp [kept]
  rw [readRecords_eq, none, ok_bind]
  refine ⟨n, lines, again, Nat.le_refl _, ?_⟩
  dsimp only
  rw [nothing]
  exact run_of_ready rfl other n es

/-- A line that starts a record is the first of those of the record. -/
theorem readRecord?_of_starts {c₁ c₂ : Cursor} (taken : c.take = .ok (some line, c₁))
    (back : c₁.putBack line = .ok c₂) (starts : isRecord line = true) :
    readRecord? c = readRecord c₂ >>= fun (e, c) => .ok (some e, c) := by
  simp only [readRecord?, taken, back, starts, if_true]
  cases readRecord c₂ <;> rfl

/-- **Inside a section the machine does what the reader of records does**, which leaves it outside
the sections: there a line that starts no record is taken in the same way. -/
theorem run_within (stands : c.Stands n lines) (es : List Entry) :
    Continues (readRecords c) lines.length .between (fun found => es ++ kept found)
      (run ⟨.within, n, es⟩ lines) := by
  induction length : lines.length using Nat.strongRecOn generalizing c n lines es with
  | ind _ ih =>
    subst length
    cases lines with
    | nil => exact run_within_of_other stands (by simp) es
    | cons line lines =>
      cases starts : caller? line with
      | none => exact run_within_of_other stands (by simp [isRecord, starts]) es
      | some caller =>
          obtain ⟨c₁, c₂, taken, -, back, again⟩ := stands.exists_take
          have next : Stage.within.next (n + 1) line = .ok (.called caller, []) := by
            simp [Stage.next, starts]
          have record := run_called again starts es
          rw [readRecords_eq, readRecord?_of_starts taken back (by simp [isRecord, starts]),
            run_cons_of_next next, List.append_nil]
          cases read : readRecord c₂ with
          | error fault =>
              rw [read] at record
              exact record
          | ok found =>
              obtain ⟨e, c₃⟩ := found
              rw [read] at record
              obtain ⟨n', left, stands', shorter, same⟩ := record
              have fewer : left.length < (line :: lines).length := Nat.lt_succ_of_le shorter
              have whole : (fun found => es ++ kept [e] ++ kept found)
                  = fun found => es ++ kept (e :: found) := by
                funext found
                rw [List.append_assoc, ← kept_append, List.singleton_append]
              have rest := ih _ fewer stands' (es ++ kept [e]) rfl
              rw [whole] at rest
              rw [same]
              exact (rest.map (e :: ·)).mono (Nat.le_of_lt fewer)

/-! ### Sections and whole logs -/

/-- **Outside the sections the machine does what the reader of sections does.** -/
theorem run_between (stands : c.Stands n lines) (es : List Entry) :
    run ⟨.between, n, es⟩ lines = (readSections c).map (es ++ ·) := by
  induction length : lines.length using Nat.strongRecOn generalizing c n lines es with
  | ind _ ih =>
    subst length
    cases lines with
    | nil =>
      rw [readSections_nil stands, run_nil_of_ready rfl]
      exact congrArg _ (List.append_nil es).symm
    | cons line lines =>
      obtain ⟨c₁, -, taken, stands₁, -⟩ := stands.exists_take
      have next : Stage.between.next (n + 1) line = .ok (.beyond line, []) := rfl
      rw [run_cons_of_next next, List.append_nil, Stage.beyond]
      cases opens : isSection line with
      | false =>
          rw [readSections_of_other taken opens]
          exact ih _ (Nat.lt_succ_self _) stands₁ es rfl
      | true =>
          have records := run_within stands₁ es
          rw [readSections_of_section taken opens, if_pos rfl]
          cases read : readRecords c₁ with
          | error fault =>
              rw [read] at records
              exact records
          | ok found =>
              obtain ⟨found, c₂⟩ := found
              rw [read] at records
              obtain ⟨n', left, stands₂, shorter, same⟩ := records
              rw [same, ih _ (Nat.lt_succ_of_le shorter) stands₂ _ rfl, ok_bind]
              dsimp only
              cases readSections c₂ with
              | error fault => rfl
              | ok more => simp [Except.map, kept, ok_bind]

end Agreement

/-- A header that the log ends in lacks the lines that are not there. -/
theorem exists_takeHeader_of_lt {c : Cursor} {n count : Nat} {lines : List String}
    (last : Option String) (stands : c.Stands n lines) (short : lines.length < count) :
    ∃ c', takeHeader count last c = .ok (count - lines.length, lines.getLast?.or last, c') := by
  induction lines generalizing c n count last with
  | nil =>
      obtain ⟨count, rfl⟩ := Nat.exists_eq_succ_of_ne_zero (Nat.ne_zero_of_lt short)
      exact ⟨c, by simp [takeHeader, stands.take_nil]⟩
  | cons line lines ih =>
      obtain ⟨count, rfl⟩ := Nat.exists_eq_succ_of_ne_zero (Nat.ne_zero_of_lt short)
      obtain ⟨c₁, -, taken, next, -⟩ := stands.exists_take
      obtain ⟨c', rest⟩ := ih (some line) next (Nat.lt_of_succ_lt_succ short)
      refine ⟨c', ?_⟩
      cases final : lines.getLast? <;> simp [takeHeader, taken, rest, List.getLast?_cons, final]

/-- **A log is read by running the machine behind its header**, from outside the sections. -/
theorem read_eq_run (headerLines : Nat) (text : String) :
    read headerLines (splitLines text) =
      if headerLines ≤ (linesOf text).length then
        run ⟨.between, headerLines, []⟩ ((linesOf text).drop headerLines)
      else if (linesOf text).getLast?.any saysNone then .ok []
      else .error (.shortHeader (linesOf text).length) := by
  have stands := Cursor.stands_start text
  generalize linesOf text = lines at stands ⊢
  rw [read, readFrom]
  rcases Nat.lt_or_ge lines.length headerLines with short | long
  · obtain ⟨c', taken⟩ := exists_takeHeader_of_lt none stands short
    have missing : headerLines - lines.length ≠ 0 := Nat.sub_ne_zero_of_lt short
    rw [taken, Option.or_none, if_neg (Nat.not_le_of_lt short)]
    simp [missing, Nat.sub_sub_self (Nat.le_of_lt short)]
  · have header : (lines.take headerLines).length = headerLines := List.length_take_of_le long
    rw [← List.take_append_drop headerLines lines] at stands
    obtain ⟨last, c', taken, next⟩ := exists_takeHeader none stands
    rw [header] at taken next
    rw [Nat.zero_add] at next
    rw [taken, run_between next, if_pos long]
    cases sections : readSections c' <;> simp [sections, Except.map]

end QueryFlow.Log.SlowLog
