import QueryFlow.Proofs.Log.History
import QueryFlow.Proofs.Log.HistoryRow
import QueryFlow.Proofs.Log.Transcript

/-!
# What a history is read as

A line is *sound* if it is blank, or holds the row of an aborted query, or a row whose ends can be
read and are in order. Only the last of these gives an entry, so that neither blank lines nor
aborted queries raise a fault or shift the number of a line.

## One line and all lines

What a line is read as has two cases, and `entryOfLine?_cases` states them together: either the line
is sound and gives the entry of its active row, if it has one, or it is not sound and the fault is
one of this line. The reader goes from line to line and stops at the first fault, so the same two
cases hold of any list of lines, by induction (`readFrom_cases`): either every line is sound, and
the entries are those of the active rows in their order, or there is a first line that is not sound,
and the fault is its own. The theorem about a whole history takes this apart into who is read, as
what, and what is reported otherwise.

## Histories that were written

Lines on which rows were written, in any of the ways to write a row, decode as these rows, none of
them is blank, and they are sound if each query was aborted or lasted from one instant to another.
That every list of rows can be written so, one on a line, needs that the text for a row contains no
line feed, which is shown in the module on rows.

## Main results

* `entryOfLine?_cases`: what a line is read as.
* `activeRows_of_writes`: the active rows of written rows are those that are not aborted.
* `rows_of_read`: **what a history is read as**, and that written rows are read back.
-/

namespace QueryFlow.Log.History

open QueryFlow.Text QueryFlow.Time

/-- The line raises no fault: it is blank, or it holds a row of which no entry is asked, or one that
has an entry. -/
def Sound (text : String) : Prop :=
  isBlankText text = true
    ∨ ∃ row, HistoryRow.read text = .ok row
      ∧ (row.aborted = true ∨ ∃ start finish, row.Lasts start finish)

/-- The row of a line, unless the line is blank or the query was aborted. -/
def activeRow? (text : String) : Option HistoryRow :=
  if isBlankText text then none
  else (HistoryRow.read text).toOption.filter fun row => !row.aborted

/-- The rows of some lines with the numbers of these, blank lines and aborted queries left out. -/
def activeRows (number : Nat) (lines : List String) : List (HistoryRow × Nat) :=
  (lines.zipIdx number).filterMap fun (line, n) =>
    (activeRow? (dropLineFeed line)).map fun row => (row, n)

/-! ### Lines -/

/-- A row without an entry raises a fault of its line. -/
theorem exists_of_entryOfRow_eq_error {line : Nat} {row : HistoryRow} {fault : Fault}
    (broken : entryOfRow line row = .error fault) : ∃ cause, fault = .history line cause := by
  have stamp {value : String} (broken : timestamp line value = .error fault) :
      ∃ cause, fault = .history line cause := by
    unfold timestamp at broken
    dsimp only at broken
    split at broken
    · cases broken
    · injection broken with same
      exact ⟨_, same.symm⟩
  rcases bind_eq_error_iff.1 broken with first | ⟨start, -, broken⟩
  · exact stamp first
  · rcases bind_eq_error_iff.1 broken with last | ⟨finish, -, broken⟩
    · exact stamp last
    · split at broken
      · injection broken with same
        exact ⟨_, same.symm⟩
      · cases broken

section Row

variable {text : String} {row : HistoryRow} (shown : isBlankText text = false)
  (decoded : HistoryRow.read text = .ok row)

include shown decoded

/-- **A row is sound if its query was aborted or lasted from one instant to another.** -/
theorem sound_iff : Sound text ↔ row.aborted = true ∨ ∃ start finish, row.Lasts start finish := by
  constructor
  · rintro (blank | ⟨row', found, sound⟩)
    · exact absurd (shown.symm.trans blank) Bool.false_ne_true
    · obtain rfl : row = row' := by simpa [decoded] using found
      exact sound
  · exact fun sound => .inr ⟨row, decoded, sound⟩

/-- A row is active unless its query was aborted. -/
theorem activeRow?_eq : activeRow? text = if row.aborted then none else some row := by
  cases aborted : row.aborted <;>
    simp [activeRow?, shown, decoded, aborted, Except.toOption, Option.filter]

end Row

/-- **A sound line is read as its active row, if it has one, and any other raises a fault.** -/
theorem entryOfLine?_cases (number : Nat) (line : String) :
    (Sound (dropLineFeed line) ∧ ∃ found, entryOfLine? number (some line) = .ok found
        ∧ List.Forall₂ (EntryOf number) (activeRow? (dropLineFeed line)).toList found.toList)
      ∨ (¬ Sound (dropLineFeed line)
        ∧ ∃ cause, entryOfLine? number (some line) = .error (.history number cause)) := by
  cases shown : isBlankText (dropLineFeed line) with
  | true =>
      refine .inl ⟨.inl shown, none, by simp [entryOfLine?, shown], ?_⟩
      simp [activeRow?, shown]
  | false =>
      cases decoded : HistoryRow.read (dropLineFeed line) with
      | error flaw =>
          refine .inr ⟨?_, _, by simp [entryOfLine?, shown, decoded]; rfl⟩
          rintro (blank | ⟨row, found, -⟩)
          · exact absurd (shown.symm.trans blank) Bool.false_ne_true
          · rw [decoded] at found
            cases found
      | ok row =>
          rw [sound_iff shown decoded, activeRow?_eq shown decoded]
          cases aborted : row.aborted with
          | true =>
              exact .inl ⟨.inl rfl, none, by simp [entryOfLine?, shown, decoded, aborted],
                by simp⟩
          | false =>
              have read : entryOfLine? number (some line) = (entryOfRow number row).map some := by
                simp [entryOfLine?, shown, decoded, aborted]
              rw [read]
              cases made : entryOfRow number row with
              | ok entry =>
                  have stands := entryOfRow_eq_ok_iff.1 made
                  obtain ⟨start, finish, lasts, -⟩ := id stands
                  exact .inl ⟨.inr ⟨start, finish, lasts⟩, some entry, rfl, by simpa using stands⟩
              | error fault =>
                  obtain ⟨cause, rfl⟩ := exists_of_entryOfRow_eq_error made
                  refine .inr ⟨?_, cause, rfl⟩
                  rintro (none | ⟨start, finish, lasts⟩)
                  · cases none
                  · have entry : entryOfRow number row = .ok _ :=
                      entryOfRow_eq_ok_iff.2 ⟨start, finish, lasts, rfl⟩
                    rw [made] at entry
                    cases entry

/-! ### Histories -/

/-- The active rows of lines are those of the first and of the others. -/
theorem activeRows_cons (number : Nat) (line : String) (rest : List String) :
    activeRows number (line :: rest)
      = (activeRow? (dropLineFeed line)).toList.map (fun row => (row, number))
        ++ activeRows (number + 1) rest := by
  cases found : activeRow? (dropLineFeed line) <;> simp [activeRows, found]

/-- **Either all lines are sound and read as their active rows, or the first that is not raises a
fault.** The induction is on the lines, with the number of the first of them free. -/
theorem readFrom_cases (number : Nat) (lines : List String) :
    ((∀ line ∈ lines, Sound (dropLineFeed line))
        ∧ ∃ entries, readFrom number (lines.map some) = .ok entries
          ∧ List.Forall₂ (fun p e => EntryOf p.2 p.1 e) (activeRows number lines) entries)
      ∨ ∃ before line after cause, lines = before ++ line :: after
        ∧ (∀ line ∈ before, Sound (dropLineFeed line)) ∧ ¬ Sound (dropLineFeed line)
        ∧ readFrom number (lines.map some)
          = .error (.history (number + before.length) cause) := by
  induction lines generalizing number with
  | nil => exact .inl ⟨by simp, [], rfl, .nil⟩
  | cons line rest ih =>
      rw [List.map_cons, readFrom]
      obtain ⟨sound, found, here, stands⟩ | ⟨broken, cause, here⟩ := entryOfLine?_cases number line
      · obtain ⟨all, entries, more, others⟩ | ⟨before, bad, after, cause, rfl, all, broken, more⟩ :=
          ih (number + 1)
        · refine .inl ⟨List.forall_mem_cons.2 ⟨sound, all⟩, found.toList ++ entries,
            by simp only [here, more], ?_⟩
          have first : List.Forall₂ (fun (p : HistoryRow × Nat) e => EntryOf p.2 p.1 e)
              ((activeRow? (dropLineFeed line)).toList.map fun row => (row, number))
              found.toList := List.forall₂_map_left_iff.2 stands
          rw [activeRows_cons]
          exact List.rel_append first others
        · refine .inr ⟨line :: before, bad, after, cause, rfl,
            List.forall_mem_cons.2 ⟨sound, all⟩, broken, ?_⟩
          simp only [here, more, List.length_cons]
          rw [Nat.add_right_comm, Nat.add_assoc]
      · exact .inr ⟨[], line, rest, cause, rfl, by simp, broken, by simp only [here]; rfl⟩

/-! ### Written rows -/

section Written

variable {lines : List String} {rows : List HistoryRow}
  (written : List.Forall₂ (fun line row => row.Writes (dropLineFeed line)) lines rows)

include written

/-- **Lines that rows are written on decode as these rows.** -/
theorem read_map_of_writes :
    lines.map (fun line => HistoryRow.read (dropLineFeed line)) = rows.map .ok := by
  induction written with
  | nil => rfl
  | cons here _ ih => rw [List.map_cons, List.map_cons, HistoryRow.read_of_writes here, ih]

/-- They are sound if each query was aborted or lasted from one instant to another. -/
theorem sound_of_writes :
    (∀ line ∈ lines, Sound (dropLineFeed line))
      ↔ ∀ row ∈ rows, row.aborted = true ∨ ∃ start finish, row.Lasts start finish := by
  induction written with
  | nil => simp
  | cons here _ ih =>
      rw [List.forall_mem_cons, List.forall_mem_cons, ih,
        sound_iff (HistoryRow.isBlankText_of_writes here) (HistoryRow.read_of_writes here)]

/-- Their active rows are those of queries that were not aborted. -/
theorem activeRows_of_writes (number : Nat) :
    activeRows number lines = (rows.zipIdx number).filter fun p => !p.1.aborted := by
  induction written generalizing number with
  | nil => rfl
  | @cons _ row _ _ here _ ih =>
      rw [activeRows_cons, ih, List.zipIdx_cons, activeRow?_eq
        (HistoryRow.isBlankText_of_writes here) (HistoryRow.read_of_writes here)]
      cases aborted : row.aborted <;> simp [aborted]

end Written

/-- The line feed behind a line without carriage returns is dropped. -/
theorem dropLineFeed_append {line : String} (plain : '\r' ∉ line.toList) :
    dropLineFeed (line ++ "\n") = line := by
  have whole : (line ++ "\n").toList.reverse = '\n' :: line.toList.reverse := by simp
  rw [dropLineFeed, whole]
  split
  · next same =>
    obtain ⟨-, same⟩ := List.cons.inj same
    have member : '\r' ∈ line.toList.reverse := by rw [same]; exact List.mem_cons_self
    exact absurd (List.mem_reverse.1 member) plain
  · next same =>
    obtain ⟨-, rfl⟩ := List.cons.inj same
    simp
  · next other => exact (other _ rfl).elim

/-- Texts of one line each that are written one behind the other are the lines of what is written. -/
theorem splitLines_join {lines : List String} (unmarked : ∀ line ∈ lines, '\n' ∉ line.toList) :
    splitLines (String.join (lines.map (· ++ "\n"))) = (lines.map (· ++ "\n")).map some := by
  induction lines with
  | nil => simp [splitLines, splitBehind]
  | cons line lines ih =>
      obtain ⟨here, others⟩ := List.forall_mem_cons.1 unmarked
      have whole : (String.join ((line :: lines).map (· ++ "\n"))).toList
          = line.toList ++ '\n' :: (String.join (lines.map (· ++ "\n"))).toList := by simp
      rw [splitLines, whole, splitBehind_append here, List.map_cons]
      refine congrArg₂ _ ?_ (ih others)
      rw [String.ofList_append, String.ofList_toList]

/-- **Rows can be written one on each line.** -/
theorem writes_lines {rows : List HistoryRow} (words : ∀ row ∈ rows, row.InWords) :
    splitLines (String.join ((rows.map HistoryRow.written).map (· ++ "\n")))
        = ((rows.map HistoryRow.written).map (· ++ "\n")).map some
      ∧ List.Forall₂ (fun line row => row.Writes (dropLineFeed line))
        ((rows.map HistoryRow.written).map (· ++ "\n")) rows := by
  have visible {row : HistoryRow} (member : row ∈ rows) {c : Char} (control : c.toNat < 32) :
      c ∉ row.written.toList := fun inside =>
    absurd (HistoryRow.visible_written (words row member) c inside) (Nat.not_le.2 control)
  constructor
  · exact splitLines_join (List.forall_mem_map.2 fun row member => visible member (by decide))
  · rw [List.map_map, List.forall₂_map_left_iff, List.forall₂_same]
    intro row member
    rw [Function.comp_apply, dropLineFeed_append (visible member (by decide))]
    exact HistoryRow.writes_written (words row member)

/-! ### Main result -/

/-- **What a history is read as.** A history is read if all of its lines are sound, as one entry for
each active row, in their order and with the numbers of their lines; otherwise the fault is that of
the first line that is not sound, which is not the row of an aborted query. Rows that are written
one on each line, in whatever way, are read back, and every list of rows can be written so. -/
theorem rows_of_read :
    (∀ lines : List String,
      ((∃ entries, read (lines.map some) = .ok entries)
          ↔ ∀ line ∈ lines, Sound (dropLineFeed line))
        ∧ (∀ entries, read (lines.map some) = .ok entries →
          List.Forall₂ (fun p e => EntryOf p.2 p.1 e) (activeRows 1 lines) entries)
        ∧ (∀ fault, read (lines.map some) = .error fault →
          ∃ before line after cause, lines = before ++ line :: after
            ∧ (∀ line ∈ before, Sound (dropLineFeed line)) ∧ ¬ Sound (dropLineFeed line)
            ∧ (∀ row, HistoryRow.read (dropLineFeed line) = .ok row → row.aborted = false)
            ∧ fault = .history (before.length + 1) cause)
        ∧ ∀ rows, List.Forall₂ (fun line row => row.Writes (dropLineFeed line)) lines rows →
          lines.map (fun line => HistoryRow.read (dropLineFeed line)) = rows.map .ok
            ∧ ((∃ entries, read (lines.map some) = .ok entries)
              ↔ ∀ row ∈ rows, row.aborted = true ∨ ∃ start finish, row.Lasts start finish)
            ∧ ∀ entries, read (lines.map some) = .ok entries →
              List.Forall₂ (fun p e => EntryOf p.2 p.1 e)
                ((rows.zipIdx 1).filter fun p => !p.1.aborted) entries)
      ∧ ∀ rows : List HistoryRow, (∀ row ∈ rows, row.InWords) →
        ∃ text lines, splitLines text = lines.map some
          ∧ List.Forall₂ (fun line row => row.Writes (dropLineFeed line)) lines rows := by
  refine ⟨fun lines => ?_, fun rows words => ⟨_, _, writes_lines words⟩⟩
  have accepted : (∃ entries, read (lines.map some) = .ok entries)
      ↔ ∀ line ∈ lines, Sound (dropLineFeed line) := by
    obtain ⟨sound, entries, ok, -⟩ | ⟨before, line, after, cause, rfl, -, broken, error⟩ :=
      readFrom_cases 1 lines
    · exact ⟨fun _ => sound, fun _ => ⟨entries, ok⟩⟩
    · constructor
      · rintro ⟨entries, ok⟩
        rw [read, error] at ok
        cases ok
      · exact fun sound => absurd (sound line (by simp)) broken
  have made {entries : List Entry} (ok : read (lines.map some) = .ok entries) :
      List.Forall₂ (fun p e => EntryOf p.2 p.1 e) (activeRows 1 lines) entries := by
    obtain ⟨-, others, ok', stands⟩ | ⟨_, _, _, _, -, -, -, error⟩ := readFrom_cases 1 lines
    · rw [read, ok'] at ok
      injection ok with same
      exact same ▸ stands
    · rw [read, error] at ok
      cases ok
  refine ⟨accepted, fun entries => made, fun fault error => ?_, fun rows written => ?_⟩
  · obtain ⟨-, entries, ok, -⟩ | ⟨before, line, after, cause, same, sound, broken, error'⟩ :=
      readFrom_cases 1 lines
    · rw [read, ok] at error
      cases error
    · refine ⟨before, line, after, cause, same, sound, broken, fun row decoded => ?_, ?_⟩
      · rw [Bool.eq_false_iff]
        exact fun aborted => broken (.inr ⟨row, decoded, .inl aborted⟩)
      · rw [read, error', Nat.add_comm] at error
        injection error with same
        exact same.symm
  · refine ⟨read_map_of_writes written, accepted.trans (sound_of_writes written),
      fun entries ok => ?_⟩
    rw [← activeRows_of_writes written]
    exact made ok

/-- Of two written rows, that of an aborted query whose ends cannot be read gives no entry and raises
no fault, and the other one gives that of the second line. A list that is no row is a fault of its
line. -/
theorem rows_of_aborted_query :
    (∃ (lines : List String) (entries : List Entry),
      read (lines.map some) = .ok entries ∧ entries.map Entry.line = [2]
        ∧ entries.map Entry.sql = ["select '\"\\\t\"', 'ü'"])
      ∧ ∃ cause, read [some "[7]\n"] = .error (.history 1 cause) := by
  let aborted : HistoryRow := ⟨1, 7, "yesterday", "today", "", true, "select 1"⟩
  let active : HistoryRow :=
    ⟨-1, 8, "1970-01-01 00:00:00", "1970-01-01T00:01:30", "", false, " select '\"\\\t\"', 'ü'\n"⟩
  have lasts : active.Lasts default ⟨0, 90, 0, by decide, by decide, by decide⟩ :=
    ⟨by decide +kernel, by decide +kernel, by decide +kernel⟩
  constructor
  · obtain ⟨_, lines, -, written⟩ := rows_of_read.2 [aborted, active]
      (by simp [aborted, active, HistoryRow.InWords, HistoryRow.IsWord])
    obtain ⟨-, -, -, back⟩ := rows_of_read.1 lines
    obtain ⟨-, accepted, made⟩ := back _ written
    have each : ∀ row ∈ [aborted, active],
        row.aborted = true ∨ ∃ start finish, row.Lasts start finish := by
      simp only [List.forall_mem_cons, List.not_mem_nil, false_imp_iff, implies_true, and_true]
      exact ⟨.inl rfl, .inr ⟨_, _, lasts⟩⟩
    obtain ⟨entries, ok⟩ := accepted.2 each
    have stands := made entries ok
    have one : ([aborted, active].zipIdx 1).filter (fun p => !p.1.aborted) = [(active, 2)] := rfl
    rw [one, List.forall₂_cons_left_iff] at stands
    obtain ⟨_, _, ⟨_, _, -, rfl⟩, others, rfl⟩ := stands
    cases others
    have trimmed : trim " select '\"\\\t\"', 'ü'\n" = "select '\"\\\t\"', 'ü'" := by decide +kernel
    exact ⟨lines, _, ok, rfl, congrArg (· :: []) trimmed⟩
  · obtain ⟨-, -, broken, -⟩ := rows_of_read.1 ["[7]\n"]
    obtain ⟨fault, found⟩ : ∃ fault, read (["[7]\n"].map some) = .error fault := ⟨_, rfl⟩
    obtain ⟨before, line, after, cause, same, -, -, -, rfl⟩ := broken fault found
    have alone : before = [] := by
      have := congrArg List.length same
      simp only [List.length_append, List.length_cons, List.length_nil] at this
      exact List.length_eq_zero_iff.1 (by omega)
    exact ⟨cause, by rw [alone] at found; exact found⟩

end QueryFlow.Log.History
