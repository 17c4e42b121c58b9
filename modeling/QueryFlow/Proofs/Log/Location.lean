import QueryFlow.Proofs.Log.Provenance
import QueryFlow.Proofs.Text.Blank

/-!
# Where the faults of a slow log are

A slow log is refused for one of its lines, or for its end, and the fault names the place. Whatever
the text, the place is that of the next line of a record that is not complete: the lines up to it
are those of complete records and then the first lines of this one, each of which has its form. The
line at the place does not have the form that is named, or there is no such line because the log has
ended. A log whose header is not complete is refused for that, unless its last line says that the
log is empty. In no case is there anything that was read.

* `HasForm` — the pattern of a required line, and the ranges of the numbers in it;
* `Awaits` — the first lines of a record, and the line that must come next;
* `Unfinished` — some lines of a log end inside of a record.

## How a fault is traced

The machine takes all lines up to the one that it refuses, or up to the end
(`exists_of_run_eq_error`, by induction on the lines). Of the lines that it has taken the invariant
on provenance holds, which was shown without regard to how the reading ends: they are complete
records and the beginning of one more, and the stage of the machine holds what was read in that
beginning. The stage also says which line is awaited, so the lines end inside of a record that
awaits this line (`Follows.unfinished`). What is left is a look at one step: a line is refused only
if it does not have the form that is awaited, and the fault names this line and this form.

## Forms without the reader

That a line has a form is said by its pattern and by the ranges of its numbers and not by what the
reader does with it. Two theorems make the connection, one for each line that carries numbers; the
form of the text of a query is that it is there.

## Main results

* `measures?_isSome_iff` and `timestamp?_isSome_iff`: a line that can be read is one that has its
  form.
* `exists_of_run_eq_error`: the machine takes all lines up to the one that it refuses.
* `located_of_read`: where the faults of a log are.
-/

namespace QueryFlow.Log.SlowLog

open QueryFlow.Text QueryFlow.Time QueryFlow.Decimal

/-! ### The forms of lines -/

/-- The numbers of a metadata line can be held: times are numbers, that of the query is a span, and
counts have 64 bits. The pattern alone admits more, such as two decimal points. -/
structure InRange (written : Metadata) : Prop where
  queryTime : ∃ x, readDecimal? written.queryTime = some x
    ∧ ({ Entry.blank with queryTime := x }.duration?).isSome
  lockTime : (readDecimal? written.lockTime).isSome
  rowsSent : (count? written.rowsSent).isSome
  rowsExamined : (count? written.rowsExamined).isSome

/-- A line has the pattern of a required line, and the numbers in it are in range. Every line is the
text of a query, so that only the end of the log can be at fault there. -/
def HasForm : RequiredLine → String → Prop
  | .userHeader, line => isRecord line = true
  | .queryMetadata, line => ∃ written, metadata? line = some written ∧ InRange written
  | .setStatement, line => ∃ digits seconds, setTimestamp? line = some digits
      ∧ readNat? digits = some seconds ∧ seconds < 9223372036854775808
      ∧ (Instant.ofSeconds? seconds 0).isSome
  | .sqlText, _ => True

/-- **A metadata line is read if it has its form.** -/
theorem measures?_isSome_iff {line : String} :
    (measures? line).isSome ↔ HasForm .queryMetadata line := by
  constructor
  · intro read
    obtain ⟨measures, read⟩ := Option.isSome_iff_exists.1 read
    simp only [measures?, Option.bind_eq_bind, Option.bind_eq_some_iff] at read
    obtain ⟨written, pattern, queryTime, timed, span, held, lockTime, locked, rowsSent, sent,
      rowsExamined, examined, -⟩ := read
    exact ⟨written, pattern, ⟨queryTime, timed, by rw [held]; rfl⟩, by rw [locked]; rfl,
      by rw [sent]; rfl, by rw [examined]; rfl⟩
  · rintro ⟨written, pattern, ⟨queryTime, timed, held⟩, locked, sent, examined⟩
    obtain ⟨span, held⟩ := Option.isSome_iff_exists.1 held
    obtain ⟨lockTime, locked⟩ := Option.isSome_iff_exists.1 locked
    obtain ⟨rowsSent, sent⟩ := Option.isSome_iff_exists.1 sent
    obtain ⟨rowsExamined, examined⟩ := Option.isSome_iff_exists.1 examined
    simp [measures?, pattern, timed, held, locked, sent, examined]

/-- **A set line is read if it has its form.** -/
theorem timestamp?_isSome_iff {line : String} :
    (timestamp? line).isSome ↔ HasForm .setStatement line := by
  constructor
  · intro read
    obtain ⟨start, read⟩ := Option.isSome_iff_exists.1 read
    simp only [timestamp?, Option.bind_eq_bind, Option.bind_eq_some_iff] at read
    obtain ⟨digits, pattern, seconds, value, named⟩ := read
    split at named
    · next small => exact ⟨digits, seconds, pattern, value, small, by rw [named]; rfl⟩
    · cases named
  · rintro ⟨digits, seconds, pattern, value, small, named⟩
    simpa [timestamp?, pattern, value, small] using named

/-! ### Records that are not complete -/

/-- The first lines of a record have their forms, and the next line must have this one. Where a
database may be chosen next, the set line is what must come. -/
inductive Awaits : RequiredLine → List String → Prop
  /-- Right behind the line that names the caller. -/
  | queryMetadata {first : String} (named : HasForm .userHeader first) :
      Awaits .queryMetadata [first]
  /-- Right behind the metadata line, or behind a line that chooses a database and follows that. -/
  | setStatement {first second : String} {use : Option String} (named : HasForm .userHeader first)
      (counted : HasForm .queryMetadata second) (chooses : ∀ line ∈ use, isUse line = true) :
      Awaits .setStatement ([first, second] ++ use.toList)
  /-- Right behind the set line. -/
  | sqlText {first second set : String} {use : Option String} (named : HasForm .userHeader first)
      (counted : HasForm .queryMetadata second) (chooses : ∀ line ∈ use, isUse line = true)
      (timed : HasForm .setStatement set) :
      Awaits .sqlText ([first, second] ++ use.toList ++ [set])

/-- Some lines of a log end inside of a record, which stands in a section behind the header. -/
def Unfinished (headerLines : Nat) (lines : List String) (expected : RequiredLine) : Prop :=
  ∃ front part, lines = front ++ part ∧ Opens headerLines front ∧ Awaits expected part

section Stages

variable {headerLines number : Nat} {s : Stage} {front part lines : List String} {line : String}
  {expected : RequiredLine} {fault : Fault} {p q : Progress}

/-- What the machine holds of a record are the first lines of it. -/
theorem Stage.Tells.awaits (tells : s.Tells part) (awaited : s.awaited? = some expected) :
    Awaits expected part := by
  cases tells with
  | between => cases awaited
  | within => cases awaited
  | called named =>
      obtain rfl := Option.some.inj awaited
      exact .queryMetadata (by simp [HasForm, isRecord, named])
  | @measured first second caller measures named counted =>
      obtain rfl := Option.some.inj awaited
      have counts : HasForm .queryMetadata second := measures?_isSome_iff.1 (by rw [counted]; rfl)
      show Awaits .setStatement ([first, second] ++ (none : Option String).toList)
      exact .setStatement (by simp [HasForm, isRecord, named]) counts (by simp)
  | @chosen first second use caller measures named counted chooses =>
      obtain rfl := Option.some.inj awaited
      have counts : HasForm .queryMetadata second := measures?_isSome_iff.1 (by rw [counted]; rfl)
      show Awaits .setStatement ([first, second] ++ (some use).toList)
      exact .setStatement (by simp [HasForm, isRecord, named]) counts (by simpa using chooses)
  | @dated first second set use caller measures start named counted chooses sets timed =>
      obtain rfl := Option.some.inj awaited
      have counts : HasForm .queryMetadata second := measures?_isSome_iff.1 (by rw [counted]; rfl)
      have times : HasForm .setStatement set := timestamp?_isSome_iff.1 (by rw [timed]; rfl)
      exact .sqlText (by simp [HasForm, isRecord, named]) counts chooses times

/-- Where a line of a record is awaited the lines read so far end inside of it. -/
theorem Follows.unfinished (follows : Follows headerLines q front part)
    (awaited : q.stage.awaited? = some expected) :
    Unfinished headerLines (front ++ part) expected := by
  refine ⟨front, part, rfl, follows.opened ?_, follows.tells.awaits awaited⟩
  intro outside
  rw [outside] at awaited
  cases awaited

/-- **A line that is refused does not have the form that is awaited.** One case for each stage:
three of them await a form, and the others take any line. -/
theorem awaited_of_next_eq_error (refused : s.next number line = .error fault) :
    ∃ expected, s.awaited? = some expected ∧ fault = .format number line expected
      ∧ ¬ HasForm expected line := by
  have dated (caller : Caller) (measures : Measures)
      (refused : Stage.date caller measures number line = .error fault) :
      fault = .format number line .setStatement ∧ ¬ HasForm .setStatement line := by
    unfold Stage.date at refused
    split at refused
    · cases refused
    · next none =>
      refine ⟨(Except.error.inj refused).symm, fun form => ?_⟩
      rw [← timestamp?_isSome_iff, none] at form
      cases form
  cases s with
  | between => cases refused
  | within => cases named : caller? line <;> simp [Stage.next, named] at refused
  | called caller =>
      cases counted : measures? line with
      | some measures => simp [Stage.next, counted] at refused
      | none =>
          refine ⟨.queryMetadata, rfl, by simpa [Stage.next, counted] using refused.symm, ?_⟩
          rw [← measures?_isSome_iff, counted]
          exact Bool.false_ne_true
  | measured caller measures =>
      cases chooses : isUse line with
      | true => simp [Stage.next, chooses] at refused
      | false =>
          exact ⟨_, rfl, dated caller measures (by simpa [Stage.next, chooses] using refused)⟩
  | chosen caller measures => exact ⟨_, rfl, dated caller measures refused⟩
  | dated caller measures start => cases refused

/-- **The machine takes all lines up to the one that it refuses**, or up to the end. Either way
there is a progress that it has made, of which an invariant can be used. -/
theorem exists_of_run_eq_error (failed : run p lines = .error fault) :
    ∃ earlier q, scan p earlier = .ok q
      ∧ ((∃ line later, lines = earlier ++ line :: later
            ∧ q.stage.next (q.number + 1) line = .error fault)
        ∨ lines = earlier ∧ q.finish = .error fault) := by
  induction lines generalizing p with
  | nil => exact ⟨[], p, rfl, .inr ⟨rfl, failed⟩⟩
  | cons line lines ih =>
      rcases bind_eq_error_iff.1 failed with broken | ⟨r, taken, finished⟩
      · rw [scan, List.foldlM_cons] at broken
        rcases bind_eq_error_iff.1 broken with refused | ⟨q, first, rest⟩
        · -- this line is refused
          rcases bind_eq_error_iff.1 refused with refused | ⟨_, _, passed⟩
          · exact ⟨[], p, rfl, .inl ⟨line, lines, rfl, refused⟩⟩
          · cases passed
        · -- or a later one is
          obtain ⟨earlier, r, taken, stops⟩ :=
            ih (p := q) (bind_eq_error_iff.2 (.inl rest))
          refine ⟨line :: earlier, r, ?_, ?_⟩
          · rw [scan, List.foldlM_cons, first]
            exact taken
          · rcases stops with ⟨other, later, rfl, refused⟩ | ⟨rfl, ended⟩
            · exact .inl ⟨other, later, rfl, refused⟩
            · exact .inr ⟨rfl, ended⟩
      · exact ⟨line :: lines, r, taken, .inr ⟨rfl, finished⟩⟩

end Stages

/-! ### Whole logs -/

section Logs

variable {headerLines : Nat} {lines : List String} {fault : Fault}

/-- Where the machine fails behind the header: at the line that lacks its form, or at the end where
one is still awaited. -/
theorem located_of_run (long : headerLines ≤ lines.length)
    (failed : run ⟨.between, headerLines, []⟩ (lines.drop headerLines) = .error fault) :
    ∃ expected,
      (∃ k content, lines[k]? = some content ∧ fault = .format (k + 1) content expected
        ∧ ¬ HasForm expected content ∧ Unfinished headerLines (lines.take k) expected)
      ∨ fault = .format (lines.length + 1) "<EOF>" expected
        ∧ Unfinished headerLines lines expected := by
  obtain ⟨earlier, q, taken, stops⟩ := exists_of_run_eq_error failed
  obtain ⟨front, part, same, follows⟩ := (follows_header long).scan taken
  rw [List.append_nil] at same
  have number : q.number = (front ++ part).length := follows.number
  rcases stops with ⟨line, later, rest, refused⟩ | ⟨rest, ended⟩
  · obtain ⟨expected, awaited, rfl, formless⟩ := awaited_of_next_eq_error refused
    have whole : lines = (front ++ part) ++ line :: later := by
      rw [same, List.append_assoc, ← rest, List.take_append_drop]
    refine ⟨expected, .inl ⟨q.number, line, ?_, rfl, formless, ?_⟩⟩
    · rw [whole, number, List.getElem?_append_right (Nat.le_refl _), Nat.sub_self]
      rfl
    · rw [whole, number, List.take_left]
      exact follows.unfinished awaited
  · rw [← rest, List.take_append_drop] at same
    obtain ⟨expected, awaited, rfl⟩ := finish_eq_error_iff.1 ended
    refine ⟨expected, .inr ⟨?_, ?_⟩⟩
    · rw [number, same]
    · rw [← same]
      exact follows.unfinished awaited

/-- A line says that the log is empty if it starts with the word for it, blanks apart. -/
theorem saysNone_iff {line : String} :
    saysNone line = true ↔ "None".toList <+: (trim line).toList := by
  obtain ⟨blanks, same, -⟩ := exists_trimEnd_append (trimStart line.toList)
  have trimmed : (trim line).toList = trimEnd (trimStart line.toList) := String.toList_ofList
  rw [saysNone, Option.isSome_iff_exists, trimmed]
  constructor
  · rintro ⟨rest, starts⟩
    rw [literal_eq_some_iff] at starts
    -- the last letter of the word is not blank, so that trimming stops behind it
    have solid : trimEnd (['N', 'o', 'n'] ++ 'e' :: rest) = ['N', 'o', 'n'] ++ 'e' :: trimEnd rest :=
      trimEnd_append_cons (by decide)
    exact ⟨trimEnd rest, by rw [starts]; exact solid.symm⟩
  · rintro ⟨rest, starts⟩
    refine ⟨rest ++ blanks, (literal_eq_some_iff _ _ _).2 ?_⟩
    rw [← List.append_assoc, starts]
    exact same

/-- The last line says that the log is empty. -/
theorem getLast?_any_saysNone_iff :
    lines.getLast?.any saysNone = true ↔
      ∃ k line, lines.length = k + 1 ∧ lines[k]? = some line
        ∧ "None".toList <+: (trim line).toList := by
  simp only [← saysNone_iff]
  rcases List.eq_nil_or_concat' lines with rfl | ⟨earlier, last, rfl⟩
  · simp
  · constructor
    · intro empty
      exact ⟨earlier.length, last, by simp, by simp, by simpa using empty⟩
    · rintro ⟨k, line, length, stands, empty⟩
      obtain rfl : earlier.length = k := by simpa using length
      obtain rfl : last = line := by simpa using stands
      simpa using empty

/-- **A log is refused where a record goes wrong**, at the line that does not have its form or at
the end, or for its header, and then nothing is read. -/
theorem located_of_read (headerLines : Nat) (text : String) :
    (∀ number content expected,
        read headerLines (splitLines text) = .error (.format number content expected) →
          (∃ k, number = k + 1 ∧ (linesOf text)[k]? = some content ∧ ¬ HasForm expected content
            ∧ Unfinished headerLines ((linesOf text).take k) expected)
          ∨ number = (linesOf text).length + 1 ∧ content = "<EOF>"
            ∧ Unfinished headerLines (linesOf text) expected)
      ∧ (∀ n, read headerLines (splitLines text) = .error (.shortHeader n) ↔
          (linesOf text).length = n ∧ n < headerLines
            ∧ ¬ ∃ k line, n = k + 1 ∧ (linesOf text)[k]? = some line
              ∧ "None".toList <+: (trim line).toList)
      ∧ ∀ fault, read headerLines (splitLines text) = .error fault →
          (fault.isFormat = true ∨ fault.isHeader = true)
            ∧ ∀ es, read headerLines (splitLines text) ≠ .ok es := by
  have nothing (fault : Fault) (failed : read headerLines (splitLines text) = .error fault)
      (es : List Entry) : read headerLines (splitLines text) ≠ .ok es := by
    rw [failed]
    rintro ⟨⟩
  by_cases long : headerLines ≤ (linesOf text).length
  · have whole := read_eq_run headerLines text
    rw [if_pos long] at whole
    refine ⟨fun number content expected failed => ?_, fun n => ?_, fun fault failed => ?_⟩
    · obtain ⟨_, ⟨k, _, stands, same, formless, unfinished⟩ | ⟨same, unfinished⟩⟩ :=
        located_of_run long (whole ▸ failed)
      · obtain ⟨rfl, rfl, rfl⟩ := Fault.format.inj same
        exact .inl ⟨k, rfl, stands, formless, unfinished⟩
      · obtain ⟨rfl, rfl, rfl⟩ := Fault.format.inj same
        exact .inr ⟨rfl, rfl, unfinished⟩
    · constructor
      · intro failed
        obtain ⟨_, ⟨_, _, -, same, -⟩ | ⟨same, -⟩⟩ := located_of_run long (whole ▸ failed)
        · cases same
        · cases same
      · rintro ⟨rfl, short, -⟩
        exact absurd long (Nat.not_le_of_lt short)
    · refine ⟨.inl ?_, nothing fault failed⟩
      obtain ⟨_, ⟨_, _, -, rfl, -⟩ | ⟨rfl, -⟩⟩ := located_of_run long (whole ▸ failed)
      · rfl
      · rfl
  · have whole := read_eq_run headerLines text
    rw [if_neg long] at whole
    have short : (linesOf text).length < headerLines := Nat.lt_of_not_le long
    refine ⟨fun number content expected failed => ?_, fun n => ?_, fun fault failed => ?_⟩
    · rw [whole] at failed
      split at failed <;> cases failed
    · rw [whole]
      constructor
      · intro failed
        split at failed
        · cases failed
        · next full =>
          obtain rfl := Fault.shortHeader.inj (Except.error.inj failed)
          exact ⟨rfl, short, mt getLast?_any_saysNone_iff.2 full⟩
      · rintro ⟨rfl, -, full⟩
        rw [if_neg (mt getLast?_any_saysNone_iff.1 full)]
    · refine ⟨.inr ?_, nothing fault failed⟩
      rw [whole] at failed
      split at failed
      · cases failed
      · obtain rfl := Except.error.inj failed
        rfl

/-- The second record of a log counts more rows than 64 bits hold. A log that ends behind its set
line lacks the text of the query, and a header of three lines lacks one of them. -/
theorem located_of_large_count :
    ∃ large torn short : String,
      read 1 (splitLines large) = .error (.format 8
          "# Query_time: 1.5  Lock_time: 0 Rows_sent: 18446744073709551616  Rows_examined: 0"
          .queryMetadata)
        ∧ Unfinished 1 ((linesOf large).take 7) .queryMetadata
        ∧ read 0 (splitLines torn) = .error (.format 6 "<EOF>" .sqlText)
        ∧ Unfinished 0 (linesOf torn) .sqlText
        ∧ (linesOf short)[1]? = some "Not None"
        ∧ read 3 (splitLines short) = .error (.shortHeader 2) := by
  let caller := "# User@Host: a[b] @ h [10.0.0.1]  Id: 4"
  let metadata := "# Query_time: 1.5  Lock_time: 0 Rows_sent: 0  Rows_examined: 0"
  let counted := "# Query_time: 1.5  Lock_time: 0 Rows_sent: 18446744073709551616  Rows_examined: 0"
  obtain ⟨large, -, lines₁⟩ := @exists_text ["None", "# Time: 1", caller, metadata,
    "SET timestamp=1;", "select 1", caller, counted, "select 2"] (by decide +kernel) (by simp)
  obtain ⟨torn, -, lines₂⟩ := @exists_text ["# Time: 1", caller, metadata, "use db;",
    "SET timestamp=1;"] (by decide +kernel) (by simp)
  obtain ⟨short, -, lines₃⟩ := @exists_text ["None", "Not None"] (by decide +kernel) (by simp)
  have fault₁ : read 1 (splitLines large) = .error (.format 8 counted .queryMetadata) := by
    rw [read_eq_run, lines₁]
    decide +kernel
  have fault₂ : read 0 (splitLines torn) = .error (.format 6 "<EOF>" .sqlText) := by
    rw [read_eq_run, lines₂]
    decide +kernel
  have place₁ : Unfinished 1 ((linesOf large).take 7) .queryMetadata := by
    rcases (located_of_read 1 large).1 _ _ _ fault₁ with ⟨k, number, -, -, unfinished⟩ | ⟨ended, -⟩
    · obtain rfl : 7 = k := Nat.succ.inj number
      exact unfinished
    · rw [lines₁] at ended
      cases ended
  have place₂ : Unfinished 0 (linesOf torn) .sqlText := by
    rcases (located_of_read 0 torn).1 _ _ _ fault₂ with ⟨_, -, -, formless, -⟩ | ⟨-, -, unfinished⟩
    · exact absurd trivial formless
    · exact unfinished
  have header : read 3 (splitLines short) = .error (.shortHeader 2) := by
    refine ((located_of_read 3 short).2.1 2).2 ⟨by rw [lines₃]; rfl, by omega, ?_⟩
    rintro ⟨k, line, length, stands, empty⟩
    obtain rfl : 1 = k := Nat.succ.inj length
    rw [lines₃] at stands
    obtain rfl : "Not None" = line := Option.some.inj stands
    revert empty
    decide +kernel
  exact ⟨large, torn, short, fault₁, place₁, fault₂, place₂, by rw [lines₃]; rfl, header⟩

end Logs

end QueryFlow.Log.SlowLog
