import QueryFlow.Log.Cursor
import QueryFlow.Log.Entry
import QueryFlow.Log.Pattern
import QueryFlow.Number.Decimal
import QueryFlow.Text.Blank

/-!
# Slow logs

A slow log has a header of a fixed number of lines and then sections, each of which is opened by its
marker and holds records one after the other. A record has

* the line that names its caller,
* the metadata line,
* perhaps a line that chooses a database,
* the set line with the time stamp, and
* one line with the text of the query.

Lines between sections are passed over. A required line that does not have its form ends the
reading: a log from which damaged records were left out would not be a trustworthy account.

* `readRecord`, `readRecords`, `readSections` — the three levels of the grammar;
* `read` — a whole log.

## How the levels meet

The reader holds a cursor, which knows how many lines it has taken and can put one line back. Twice
it has to look at a line before it knows whose it is: at the line behind the metadata, which may
choose a database or be the set line already, and at the line behind a record, which starts another
one or ends the section. In either case the line is put back if it belongs to what follows.

None of the levels is recursive on the structure of the log. That the reading ends is seen from the
number of lines that are left, which a record makes smaller and which putting a line back never
raises above what it was when the line was taken. So the lemmas on progress stand between the
levels: each of them is what the recursion of the next level is allowed by.

Main statements: `readRecord_left` and `readRecords_left`, reading a record takes lines and reading
records never puts back more than it took.
-/

namespace QueryFlow.Log.SlowLog

open QueryFlow.Text QueryFlow.Time QueryFlow.Decimal

/-! ### Records -/

/-- Takes a line that must be there. The end of the log counts as the line behind the last, with a
text of its own in the fault. -/
def required (expected : RequiredLine) (c : Cursor) : Except Fault (String × Cursor) :=
  match c.take with
  | .error fault => .error fault
  | .ok (none, c) => .error (.format (c.number + 1) "<EOF>" expected)
  | .ok (some line, c) => .ok (line, c)

/-- Takes a line and reads it; a line that cannot be read does not have its form, and the fault
names the line, its text, and the form that was expected. -/
def requiredForm {α : Type} (expected : RequiredLine) (form : String → Option α) (c : Cursor) :
    Except Fault (α × Cursor) :=
  match required expected c with
  | .error fault => .error fault
  | .ok (line, c) =>
    match form line with
    | none => .error (.format c.number line expected)
    | some found => .ok (found, c)

/-- A count of 64 bits: digits whose number is too large for that make no count, and the line that
holds them does not have its form. -/
def count? (digits : List Char) : Option Nat :=
  (readNat? digits).filter (· < 18446744073709551616)

/-- The numbers of a metadata line. -/
structure Measures where
  queryTime : Binary64
  lockTime : Binary64
  rowsSent : Nat
  rowsExamined : Nat
deriving DecidableEq

/-- The numbers of a metadata line. The time of the query must be one that a span can hold, so that
no entry of a slow log lacks its duration. -/
def measures? (line : String) : Option Measures := do
  let written ← metadata? line
  let queryTime ← readDecimal? written.queryTime
  let _ ← { Entry.blank with queryTime := queryTime }.duration?
  let lockTime ← readDecimal? written.lockTime
  let rowsSent ← count? written.rowsSent
  let rowsExamined ← count? written.rowsExamined
  some ⟨queryTime, lockTime, rowsSent, rowsExamined⟩

/-- The instant that a set line carries. -/
def timestamp? (line : String) : Option Instant := do
  let digits ← setTimestamp? line
  let seconds ← readNat? digits
  if seconds < 9223372036854775808 then Instant.ofSeconds? seconds 0 else none

/-- Passes over a line that chooses a database, if there is one. -/
def skipUse (c : Cursor) : Except Fault Cursor :=
  match c.take with
  | .error fault => .error fault
  | .ok (none, c) => .ok c
  | .ok (some line, c) => if isUse line then .ok c else c.putBack line

/-- Reads one record: its lines in their order, each of them required. The entry has the number of
the last line, which holds the text of the query. -/
def readRecord (c : Cursor) : Except Fault (Entry × Cursor) := do
  let (caller, c) ← requiredForm .userHeader caller? c
  let (measures, c) ← requiredForm .queryMetadata measures? c
  let c ← skipUse c
  let (start, c) ← requiredForm .setStatement timestamp? c
  let (line, c) ← required .sqlText c
  .ok ({ start := some start
         user := caller.user
         host := caller.host
         address := caller.address
         connection := caller.connection
         queryTime := measures.queryTime
         lockTime := measures.lockTime
         rowsSent := measures.rowsSent
         rowsExamined := measures.rowsExamined
         sql := stripInlineComments line
         line := c.number }, c)

/-! ### Progress -/

theorem required_left {expected : RequiredLine} {c c' : Cursor} {line : String}
    (h : required expected c = .ok (line, c')) : c'.left + 1 = c.left := by
  unfold required at h
  split at h
  · simp at h
  · simp at h
  · next l c'' taken =>
    simp only [Except.ok.injEq, Prod.mk.injEq] at h
    obtain ⟨rfl, rfl⟩ := h
    exact (Cursor.take_left taken).1

theorem requiredForm_left {α : Type} {expected : RequiredLine} {form : String → Option α}
    {c c' : Cursor} {found : α} (h : requiredForm expected form c = .ok (found, c')) :
    c'.left + 1 = c.left := by
  unfold requiredForm at h
  split at h
  · simp at h
  · next line c'' taken =>
    split at h
    · simp at h
    · simp only [Except.ok.injEq, Prod.mk.injEq] at h
      obtain ⟨-, rfl⟩ := h
      exact required_left taken

theorem skipUse_left {c c' : Cursor} (h : skipUse c = .ok c') : c'.left ≤ c.left := by
  unfold skipUse at h
  split at h
  · simp at h
  · next c'' taken =>
    simp only [Except.ok.injEq] at h
    subst h
    exact Nat.le_of_eq (by rw [(Cursor.take_none taken).1])
  · next line c'' taken =>
    have step := (Cursor.take_left taken).1
    split at h
    · simp only [Except.ok.injEq] at h
      subst h
      omega
    · have := Cursor.putBack_left h
      omega

/-- **Reading a record takes lines.** -/
theorem readRecord_left {c c' : Cursor} {e : Entry} (h : readRecord c = .ok (e, c')) :
    c'.left < c.left := by
  simp only [readRecord, bind, Except.bind] at h
  split at h
  · simp at h
  next first h₁ =>
  split at h
  · simp at h
  next second h₂ =>
  split at h
  · simp at h
  next third h₃ =>
  split at h
  · simp at h
  next fourth h₄ =>
  split at h
  · simp at h
  next fifth h₅ =>
  simp only [Except.ok.injEq, Prod.mk.injEq] at h
  obtain ⟨-, rfl⟩ := h
  have := requiredForm_left h₁
  have := requiredForm_left h₂
  have := skipUse_left h₃
  have := requiredForm_left h₄
  have := required_left h₅
  omega

/-! ### Sections -/

/-- Reads a record if one comes next; any other line is put back. Whether one comes next is decided
by the line that would name the caller, which is then read again as the first of the record. -/
def readRecord? (c : Cursor) : Except Fault (Option Entry × Cursor) :=
  match c.take with
  | .error fault => .error fault
  | .ok (none, c) => .ok (none, c)
  | .ok (some line, c) =>
    match c.putBack line with
    | .error fault => .error fault
    | .ok c =>
      if isRecord line then
        match readRecord c with
        | .error fault => .error fault
        | .ok (entry, c) => .ok (some entry, c)
      else .ok (none, c)

theorem readRecord?_left {c c' : Cursor} {found : Option Entry}
    (h : readRecord? c = .ok (found, c')) :
    c'.left ≤ c.left ∧ (found.isSome = true → c'.left < c.left) := by
  unfold readRecord? at h
  split at h
  · simp at h
  · next c'' taken =>
    simp only [Except.ok.injEq, Prod.mk.injEq] at h
    obtain ⟨rfl, rfl⟩ := h
    rw [(Cursor.take_none taken).1]
    simp
  · next line c₁ taken =>
    have step := (Cursor.take_left taken).1
    split at h
    · simp at h
    next c₂ returned =>
    have back := Cursor.putBack_left returned
    split at h
    · split at h
      · simp at h
      next entry c₃ record =>
      simp only [Except.ok.injEq, Prod.mk.injEq] at h
      obtain ⟨rfl, rfl⟩ := h
      have := readRecord_left record
      exact ⟨by omega, fun _ => by omega⟩
    · simp only [Except.ok.injEq, Prod.mk.injEq] at h
      obtain ⟨rfl, rfl⟩ := h
      exact ⟨by omega, by simp⟩

/-- Reads the records that follow each other. -/
def readRecords (c : Cursor) : Except Fault (List Entry × Cursor) :=
  match step : readRecord? c with
  | .error fault => .error fault
  | .ok (none, c) => .ok ([], c)
  | .ok (some entry, c₁) =>
    have : c₁.left < c.left := (readRecord?_left step).2 rfl
    match readRecords c₁ with
    | .error fault => .error fault
    | .ok (entries, c₂) => .ok (entry :: entries, c₂)
termination_by c.left

/-- **Reading records never puts back more than it took.** -/
theorem readRecords_left {c c' : Cursor} {entries : List Entry}
    (h : readRecords c = .ok (entries, c')) : c'.left ≤ c.left := by
  induction n : c.left using Nat.strongRecOn generalizing c c' entries with
  | ind n ih =>
    rw [readRecords] at h
    split at h
    · simp at h
    · next c₁ step =>
      simp only [Except.ok.injEq, Prod.mk.injEq] at h
      obtain ⟨-, rfl⟩ := h
      have := (readRecord?_left step).1
      omega
    · next entry c₁ step =>
      have less := (readRecord?_left step).2 rfl
      split at h
      · simp at h
      next more c₂ rest =>
      simp only [Except.ok.injEq, Prod.mk.injEq] at h
      obtain ⟨-, rfl⟩ := h
      have := ih c₁.left (by omega) rest rfl
      omega

/-- Reads all sections. The records that the server ran for its own diagnosis are left out, and
lines outside the sections are passed over, whatever they hold. -/
def readSections (c : Cursor) : Except Fault (List Entry) :=
  match taken : c.take with
  | .error fault => .error fault
  | .ok (none, _) => .ok []
  | .ok (some line, c₁) =>
    have := (Cursor.take_left taken).1
    if isSection line then
      match records : readRecords c₁ with
      | .error fault => .error fault
      | .ok (entries, c₂) =>
        have := readRecords_left records
        match readSections c₂ with
        | .error fault => .error fault
        | .ok more => .ok (entries.filter (fun e => !isDiagnostic e.sql) ++ more)
    else readSections c₁
termination_by c.left

/-! ### The header -/

/-- Takes the lines of the header: how many were missing, the last one taken, and the place
reached. -/
def takeHeader : (count : Nat) → (last : Option String) → Cursor →
    Except Fault (Nat × Option String × Cursor)
  | 0, last, c => .ok (0, last, c)
  | count + 1, last, c =>
    match c.take with
    | .error fault => .error fault
    | .ok (none, c) => .ok (count + 1, last, c)
    | .ok (some line, c) => takeHeader count (some line) c

/-- The last line of a header that ends early says that the log is empty: the server writes `None`
for a log without records. -/
def saysNone (line : String) : Bool := (literal "None".toList (trimStart line.toList)).isSome

/-- Reads a log from a cursor: the header, and then the sections. A log that ends in its header is
empty if its last line says so, and too short otherwise. -/
def readFrom (headerLines : Nat) (c : Cursor) : Except Fault (List Entry) :=
  match takeHeader headerLines none c with
  | .error fault => .error fault
  | .ok (missing, last, c) =>
    if missing == 0 then readSections c
    else if last.any saysNone then .ok []
    else .error (.shortHeader (headerLines - missing))

/-- Reads a log with a header of so many lines. -/
def read (headerLines : Nat) (lines : List PhysicalLine) : Except Fault (List Entry) :=
  readFrom headerLines (Cursor.start lines)

end QueryFlow.Log.SlowLog
