import QueryFlow.Proofs.Log.History
import QueryFlow.Proofs.Log.Provenance
import QueryFlow.Proofs.Text.Splice

/-!
# Comments in the texts of queries

The text of an entry is found in one line of the log that it is read from. In a slow log it is the
last line of a record, without the comments that one pass over the line removes; there is a comment
in it if and only if the line splices one. In a history it is a field of a row, of which only the
blanks at the ends are taken away, so that every comment stays.

Both halves rest on what is known of where an entry comes from. An entry of a slow log is backed by
a record, whose query stands in its last line, and has the number of that line. An entry of a
history stands for the row of a line. What remains is about texts alone: when one pass over a line
leaves a comment is the subject of the theory of splices, and trimming a text neither makes a
comment nor destroys one, because a comment neither starts nor ends with white space.

## Main results

* `SlowLog.exists_line_of_mem_read`: every entry of a slow log has the text of a line of the log,
  without the comments.
* `commented_iff_of_read`: when there is a comment in the text of an entry.
* `not_uncommented_of_read`: neither reader gives texts without comments only.
-/

namespace QueryFlow.Log

open QueryFlow.Text

namespace SlowLog

variable {headerLines before : Nat} {text : String} {lines : List String} {e : Entry}
  {es : List Entry}

/-- The query of a record stands in its last line. -/
theorem Record.exists_lines_eq (r : Record) : ∃ earlier, r.lines = earlier ++ [r.sqlLine] :=
  ⟨[r.callerLine, r.metadataLine] ++ r.useLine.toList ++ [r.setLine], by simp [Record.lines]⟩

/-- An entry has the text of the line that has its number, without the comments. -/
theorem Backs.exists_line (backs : Backs headerLines lines before e) :
    ∃ k line, e.line = k + 1 ∧ lines[k]? = some line ∧ e.sql = stripInlineComments line := by
  obtain ⟨front, r, later, rfl, rfl, -, rfl, -⟩ := backs
  obtain ⟨earlier, last⟩ := r.exists_lines_eq
  refine ⟨front.length + earlier.length, r.sqlLine, ?_, ?_, rfl⟩
  · simp [Record.entry, entryOf, last, Nat.add_assoc]
  · simp [last]

/-- **Every entry of a slow log has the text of a line of the log**, without the comments. -/
theorem exists_line_of_mem_read (accepted : read headerLines (splitLines text) = .ok es)
    (member : e ∈ es) :
    ∃ k line, e.line = k + 1 ∧ (linesOf text)[k]? = some line
      ∧ e.sql = stripInlineComments line := by
  rw [read_eq_run] at accepted
  split at accepted
  · next long =>
    obtain ⟨placed, rfl, backs, -⟩ := accounted_of_run long accepted
    obtain ⟨p, inside, rfl⟩ := List.mem_map.1 member
    exact (backs p inside).exists_line
  · split at accepted
    · obtain rfl := Except.ok.inj accepted
      cases member
    · cases accepted

end SlowLog

/-- **There is a comment in the text of an entry** of a slow log if and only if removing those of
its line splices one, and in the text of an entry of a history if and only if there is one in the
query of its row. -/
theorem commented_iff_of_read (headerLines : Nat) (text : String) (lines : List PhysicalLine) :
    (∀ es, SlowLog.read headerLines (splitLines text) = .ok es → ∀ e ∈ es,
      ∃ k line, e.line = k + 1 ∧ (linesOf text)[k]? = some line ∧ e.sql = stripInlineComments line
        ∧ (Commented e.sql.toList ↔ Splices line.toList))
      ∧ ∀ es, History.read lines = .ok es → ∀ e ∈ es,
        ∃ k written row, e.line = k + 1 ∧ lines[k]? = some (some written)
          ∧ HistoryRow.read (dropLineFeed written) = .ok row
          ∧ e.sql = trim row.query
          ∧ (Commented e.sql.toList ↔ Commented row.query.toList) := by
  constructor
  · intro es accepted e member
    obtain ⟨k, line, number, stands, sql⟩ := SlowLog.exists_line_of_mem_read accepted member
    refine ⟨k, line, number, stands, sql, ?_⟩
    rw [sql, stripInlineComments, String.toList_ofList, commented_stripComments_iff]
  · intro es accepted e member
    obtain ⟨k, written, row, stands, holds, made⟩ := History.exists_row_of_mem_read accepted member
    obtain ⟨sql, number⟩ := History.text_of_entryOfRow made
    refine ⟨k, written, row, number, stands, holds, sql, ?_⟩
    rw [sql, trim, String.toList_ofList, commented_trimChars_iff]

/-! ### Logs with comments -/

/-- A slow log with two queries, the first of which splices a comment. -/
theorem exists_read_of_spliced : ∃ text es,
    (linesOf text)[4]? = some "select 1//**/* x */"
      ∧ (linesOf text)[8]? = some "select /* x */2"
      ∧ SlowLog.read 0 (splitLines text) = .ok es
      ∧ es.map (fun e => (e.sql, e.line)) = [("select 1/* x */", 5), ("select 2", 9)] := by
  let caller := "# User@Host: a[b] @ h [10.0.0.1]  Id: 4"
  let metadata := "# Query_time: 1.5  Lock_time: 0 Rows_sent: 0  Rows_examined: 0"
  let lines := ["# Time: 1", caller, metadata, "SET timestamp=1;", "select 1//**/* x */",
    caller, metadata, "SET timestamp=2;", "select /* x */2"]
  have entries : (SlowLog.run ⟨.between, 0, []⟩ (lines.drop 0)).toOption.map
      (List.map fun e => (e.sql, e.line)) = some [("select 1/* x */", 5), ("select 2", 9)] := by
    decide +kernel
  obtain ⟨text, -, same⟩ := @exists_text lines (by decide +kernel) (by simp)
  obtain ⟨es, found, shown⟩ := toOption_map_eq_some_iff.1 entries
  have accepted : SlowLog.read 0 (splitLines text) = .ok es := by
    rw [SlowLog.read_eq_run, same]
    exact found
  exact ⟨text, es, by rw [same]; rfl, by rw [same]; rfl, accepted, shown⟩

/-- A history with a comment in its query. -/
theorem exists_read_of_commented : ∃ lines es,
    History.read lines = .ok es
      ∧ es.map (fun e => (e.sql, e.line)) = [("select /* a */1", 1)] := by
  let lines : List PhysicalLine :=
    [some ("[1, 1, \"2024-01-01 00:00:00\", \"2024-01-01 00:00:01\", \"\", false, "
      ++ "\" select /* a */1 \"]")]
  have entries : (History.read lines).toOption.map (List.map fun e => (e.sql, e.line))
      = some [("select /* a */1", 1)] := by
    decide +kernel
  obtain ⟨es, accepted, shown⟩ := toOption_map_eq_some_iff.1 entries
  exact ⟨lines, es, accepted, shown⟩

/-- Of two queries of a slow log only the one whose line splices a comment has one, and that of a
history has the comment of its row. -/
theorem commented_of_spliced_line :
    ∃ (text : String) (es : List Entry) (lines : List PhysicalLine) (found : List Entry),
      SlowLog.read 0 (splitLines text) = .ok es
        ∧ es.map (fun e => (e.sql, e.line)) = [("select 1/* x */", 5), ("select 2", 9)]
        ∧ (∀ e ∈ es, Commented e.sql.toList ↔ e.line = 5)
        ∧ History.read lines = .ok found
        ∧ found.map (fun e => (e.sql, e.line)) = [("select /* a */1", 1)]
        ∧ ∀ e ∈ found, ∃ row : HistoryRow, e.sql = trim row.query
          ∧ Commented row.query.toList := by
  obtain ⟨text, es, fifth, ninth, accepted, shown⟩ := exists_read_of_spliced
  obtain ⟨lines, found, accepted', shown'⟩ := exists_read_of_commented
  have texts := commented_iff_of_read 0 text lines
  refine ⟨text, es, lines, found, accepted, shown, fun e member => ?_, accepted', shown',
    fun e member => ?_⟩
  · obtain ⟨k, line, number, stands, -, commented⟩ := texts.1 es accepted e member
    have listed := shown ▸ List.mem_map_of_mem member
    rw [commented, number]
    rcases List.mem_pair.1 listed with first | second
    · obtain rfl : 4 = k := Nat.succ.inj ((Prod.mk.inj first).2.symm.trans number)
      obtain rfl := Option.some.inj (fifth.symm.trans stands)
      exact iff_of_true (by decide +kernel) rfl
    · obtain rfl : 8 = k := Nat.succ.inj ((Prod.mk.inj second).2.symm.trans number)
      obtain rfl := Option.some.inj (ninth.symm.trans stands)
      exact iff_of_false (by decide +kernel) (by decide)
  · obtain ⟨-, -, row, -, -, -, sql, commented⟩ := texts.2 found accepted' e member
    have listed := shown' ▸ List.mem_map_of_mem member
    refine ⟨row, sql, commented.1 ?_⟩
    rw [(Prod.mk.inj (List.mem_singleton.1 listed)).1]
    decide +kernel

/-- **Neither reader gives texts without comments only**: that of a history keeps all of them, and
removing one may join the ends of another. -/
theorem not_uncommented_of_read :
    (¬ ∀ headerLines text es, SlowLog.read headerLines (splitLines text) = .ok es →
        ∀ e ∈ es, ¬ Commented e.sql.toList)
      ∧ ¬ ∀ lines es, History.read lines = .ok es → ∀ e ∈ es, ¬ Commented e.sql.toList := by
  constructor
  · intro uncommented
    obtain ⟨text, es, -, -, accepted, shown⟩ := exists_read_of_spliced
    obtain ⟨e, member, same⟩ : ∃ e ∈ es, (e.sql, e.line) = ("select 1/* x */", 5) :=
      List.mem_map.1 (shown ▸ List.mem_cons_self)
    refine uncommented 0 text es accepted e member ?_
    rw [(Prod.mk.inj same).1]
    decide +kernel
  · intro uncommented
    obtain ⟨lines, es, accepted, shown⟩ := exists_read_of_commented
    obtain ⟨e, member, same⟩ : ∃ e ∈ es, (e.sql, e.line) = ("select /* a */1", 1) :=
      List.mem_map.1 (shown ▸ List.mem_cons_self)
    refine uncommented lines es accepted e member ?_
    rw [(Prod.mk.inj same).1]
    decide +kernel

end QueryFlow.Log
