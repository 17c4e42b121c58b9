import Mathlib.Data.List.Basic
import Mathlib.Data.List.TakeWhile
import QueryFlow.Proofs.Log.Transcript
import QueryFlow.Proofs.Number.Digits
import QueryFlow.Proofs.Text.Matching
import QueryFlow.Proofs.Time.Line

/-!
# What the patterns read in the lines of a block

Every line of a block has the pattern of its kind, and the pattern reads from it what was written.
This is where the way in which the patterns search must be gone into; behind this module a line is
known by what is read in it.

## Runs up to a mark

A pattern reads a run of characters up to a mark, trying longer runs before shorter ones. A run is
found if the rest of the pattern succeeds behind it and behind no longer one. For most lines the
longest run is the right one, because the mark does not occur again or because no character of the
mark can be part of the run; then `repeated_marked_only` closes the case.

The line that names the caller is different. Both the account and the address are texts up to a
bracket, and the longest account would go up to the bracket of the address. It is given up for the
bracket before only because no `@` follows the address. So the line is taken apart from its end: the
connection and the address first, then the host, and then it is shown that no account beyond the
right bracket has anything to follow it (`repeated_marked_eq_none`, `at_connectionText`).

## Numbers

Digits are read as the number that they write and a numeral as the double nearest to it, in both
spellings, with a decimal point and without one.

## Main results

* `caller?_callerLine`, `measures?_metadataLine`, `timestamp?_setLine`: what is read in the lines.
* `isUse_useLine`, `isUse_setLine`: which of them chooses a database.
* `isRecord_eq_false`: lines that do not start with the marker of a record start none.
-/

namespace QueryFlow.Log

open QueryFlow.Text QueryFlow.Time QueryFlow.Decimal

variable {α : Type} {answer : α}

/-! ### Marks -/

@[simp] theorem marked_cons (l : Char) (k : List Char → Option α) (rest : List Char) :
    marked l k (l :: rest) = k rest := by
  simp [marked]

/-- What is read behind a mark stands behind one. -/
theorem exists_of_marked {l : Char} {k : List Char → Option α} {cs : List Char}
    (h : marked l k cs = some answer) : ∃ rest, cs = l :: rest ∧ k rest = some answer := by
  cases cs with
  | nil => simp [marked] at h
  | cons c rest =>
      rw [marked] at h
      split at h
      · next same => exact ⟨rest, by rw [eq_of_beq same], h⟩
      · cases h

section Marked

variable {p : Char → Bool} {l : Char} {k : List Char → List Char → Option α} {run rest : List Char}

/-- A run up to a mark is the answer if nothing can be read behind a later one. Later marks stand in
what follows the run, so that the condition speaks of the ways to split that text at a mark. -/
theorem repeated_marked (all : ∀ c ∈ run, p c = true)
    (later : ∀ more rest', rest = more ++ l :: rest' → k (run ++ l :: more) rest' = none)
    (here : k run rest = some answer) :
    repeated p (fun run => marked l (k run)) (run ++ l :: rest) = some answer := by
  refine repeated_of_longer run all (fun longer rest' longer_ne _ same => ?_) (by simpa using here)
  obtain ⟨c, more, rfl⟩ := List.exists_cons_of_ne_nil longer_ne
  obtain ⟨rfl, same⟩ := List.cons.inj same
  cases found : marked l (k (run ++ l :: more)) rest' with
  | none => rfl
  | some other =>
      obtain ⟨rest'', rfl, given⟩ := exists_of_marked found
      have missing := later more rest'' (by simpa using same)
      exact absurd (given.symm.trans missing) (by simp)

/-- A run up to the only mark is the answer. -/
theorem repeated_marked_only (all : ∀ c ∈ run, p c = true) (only : l ∉ rest)
    (here : k run rest = some answer) :
    repeated p (fun run => marked l (k run)) (run ++ l :: rest) = some answer := by
  refine repeated_marked all (fun more rest' same => ?_) here
  exact absurd (by simp [same]) only

/-- Nothing is read up to the only mark if nothing is read behind it. -/
theorem repeated_marked_eq_none (before : l ∉ run) (behind : l ∉ rest)
    (missing : ∀ run, k run rest = none) :
    repeated p (fun run => marked l (k run)) (run ++ l :: rest) = none := by
  cases found : repeated p (fun run => marked l (k run)) (run ++ l :: rest) with
  | none => rfl
  | some answer =>
      obtain ⟨run', rest', same, -, given⟩ := exists_of_repeated found
      obtain ⟨rest'', rfl, read⟩ := exists_of_marked given
      obtain ⟨-, -, rfl⟩ := (List.append_cons_inj_of_notMem before behind).1 same
      exact absurd (read.symm.trans (missing run')) (by simp)

end Marked

/-! ### The line that names the caller -/

section Caller

variable {user account host address digits : List Char}

/-- What stands behind the address. -/
def connectionText (digits : List Char) : List Char := [' ', ' ', 'I', 'd', ':', ' '] ++ digits

/-- No `@` follows the bracket behind the address. -/
theorem at_connectionText (k : List Char → Option α) (digits : List Char) :
    repeated isBlank (fun _ => marked '@' k) (connectionText digits) = none := by
  cases found : repeated isBlank (fun _ => marked '@' k) (connectionText digits) with
  | none => rfl
  | some answer =>
      obtain ⟨run, rest, same, blank, given⟩ := exists_of_repeated found
      obtain ⟨rest, rfl, -⟩ := exists_of_marked given
      have solid := congrArg (List.dropWhile isBlank) same
      rw [List.dropWhile_append_of_pos (List.all_eq_true.1 blank)] at solid
      nomatch (List.cons.inj solid).1

/-- The connection is read up to the end of the line. -/
theorem connection?_connectionText {make : List Char → Caller} (nonempty : digits ≠ [])
    (all : ∀ c ∈ digits, c.isDigit = true) :
    repeated isBlank (fun _ => connection? make) (connectionText digits) = some (make digits) := by
  have solid : ∀ c ∈ digits.head?, isBlank c = false := fun c first =>
    isBlank_of_isDigit (all c (List.mem_of_head? first))
  have written : connectionText digits = [' ', ' '] ++ ("Id:".toList ++ ([' '] ++ digits)) := by
    simp [connectionText]
  rw [written]
  refine blanks_skipped _ (by decide) (stop_append (by decide)) ?_
  rw [connection?, literal_append, Option.bind_some]
  refine blanks_skipped _ (by decide) solid ?_
  exact repeated1_whole nonempty (fun c member => isDigit_of_ascii (all c member)) rfl

/-- No bracket stands behind the address. -/
theorem notMem_connectionText {c : Char} (other : c.isDigit = false)
    (absent : c ∉ [' ', ' ', 'I', 'd', ':', ' ']) (all : ∀ c ∈ digits, c.isDigit = true) :
    c ∉ connectionText digits := by
  rw [connectionText, List.mem_append, not_or]
  exact ⟨absent, fun member => by simp [all c member] at other⟩

/-- The address is read up to the last bracket. -/
theorem address_found (make : List Char → List Char → Caller)
    (inline : ∀ c ∈ address, isInline c = true) (nonempty : digits ≠ [])
    (all : ∀ c ∈ digits, c.isDigit = true) :
    repeated isInline (fun address => marked ']' <| repeated isBlank fun _ =>
      connection? (make address)) (address ++ ']' :: connectionText digits)
      = some (make address digits) :=
  repeated_marked_only inline (notMem_connectionText (by decide) (by decide) all)
    (connection?_connectionText nonempty all)

/-- The host is read up to the blank in front of the address. The white space before a host and
behind it is read in runs of its own, and neither run can take a character of the host. -/
theorem host_found {k : List Char → List Char → Option α} {rest : List Char}
    (solid : ∀ c ∈ host, isBlank c = false) (only : '[' ∉ rest) (here : k host rest = some answer) :
    repeated isBlank (fun _ => repeated (fun c => !isBlank c) fun host => repeated isBlank fun _ =>
      marked '[' (k host)) (' ' :: (host ++ ' ' :: '[' :: rest)) = some answer := by
  cases host with
  | nil =>
      refine blanks_skipped [' ', ' '] (by decide) (stop_cons (by decide)) ?_
      refine repeated_of_longer [] (by simp) (fun longer rest' longer_ne _ same => ?_) ?_
      · cases found : repeated isBlank (fun _ => marked '[' (k ([] ++ longer))) rest' with
        | none => rfl
        | some other =>
            obtain ⟨blanks, opened, rfl, -, given⟩ := exists_of_repeated found
            obtain ⟨behind, rfl, -⟩ := exists_of_marked given
            obtain ⟨c, more, rfl⟩ := List.exists_cons_of_ne_nil longer_ne
            obtain ⟨-, rfl⟩ := List.cons.inj same
            simp at only
      · exact repeated_longest [] (by simp) (stop_cons (by decide)) (by simpa using here)
  | cons c host =>
      refine blanks_skipped [' '] (by decide) (stop_cons (solid c List.mem_cons_self)) ?_
      refine repeated_longest (p := fun c => !isBlank c) (c :: host) (by simpa using solid)
        (stop_cons (by decide)) ?_
      exact blanks_skipped [' '] (by decide) (stop_cons (by decide)) (by simpa using here)

end Caller

/-- A trimmed text does not start with white space. -/
theorem head?_of_trim {s : String} (trimmed : trim s = s) :
    ∀ c ∈ s.toList.head?, isBlank c = false := by
  have whole : trimEnd (trimStart s.toList) = s.toList := by
    rw [← trimChars, ← String.toList_ofList (l := trimChars _), ← trim, trimmed]
  have last : (trimEnd (trimStart s.toList)).Sublist (trimStart s.toList) := by
    rw [trimEnd, ← List.reverse_sublist, List.reverse_reverse]
    exact List.dropWhile_sublist isBlank
  rw [whole] at last
  exact (trimStart_eq_self_iff _).1 ((List.dropWhile_sublist isBlank).antisymm last)

/-- An account is trimmed if its name is. -/
theorem trim_account {user account : String} (trimmed : trim user = user) :
    trim (String.ofList (user.toList ++ '[' :: account.toList ++ [']']))
      = user ++ "[" ++ account ++ "]" := by
  have first : "[".toList = ['['] := by decide
  have last : "]".toList = [']'] := by decide
  have start : trimStart (user.toList ++ '[' :: account.toList ++ [']'])
      = user.toList ++ '[' :: account.toList ++ [']'] := by
    refine (trimStart_eq_self_iff _).2 fun c leading => ?_
    cases name : user.toList with
    | nil =>
        simp only [name, List.nil_append, List.cons_append, List.head?_cons, Option.some.injEq]
          at leading
        rw [← leading]
        decide
    | cons d more =>
        refine head?_of_trim trimmed c ?_
        simpa [name] using leading
  have closed : isBlank ']' = false := by decide
  rw [← String.toList_inj, trim, String.toList_ofList, String.toList_ofList, trimChars, start,
    trimEnd, List.reverse_append]
  simp [closed, first, last]

theorem Block.toList_callerLine (b : Block) :
    b.callerLine.toList = "# User@Host: ".toList ++ (b.user.toList ++ '[' ::
      (b.account.toList ++ ']' :: ' ' :: '@' :: ' ' :: (b.host.toList ++ ' ' :: '[' ::
        (b.address.toList ++ ']' :: connectionText b.connection.text.toList)))) := by
  have first : "[".toList = ['['] := by decide
  have second : "] @ ".toList = [']', ' ', '@', ' '] := by decide
  have third : " [".toList = [' ', '['] := by decide
  have fourth : "]  Id: ".toList = [']', ' ', ' ', 'I', 'd', ':', ' '] := by decide
  unfold callerLine connectionText
  simp only [String.toList_append, List.append_assoc, first, second, third, fourth,
    List.cons_append, List.nil_append]

/-- **The line that names the caller is read as it was written.** The pattern goes along the line
part by part; the texts between brackets have none inside, so each part ends where it was written to
end. -/
theorem Block.caller?_callerLine (b : Block) :
    caller? b.callerLine = some
      ⟨b.user ++ "[" ++ b.account ++ "]", b.host, b.address, b.connection.text⟩ := by
  have unopened : '[' ∉ connectionText b.connection.text.toList :=
    notMem_connectionText (by decide) (by decide) b.connection.digits
  have unclosed : ']' ∉ connectionText b.connection.text.toList :=
    notMem_connectionText (by decide) (by decide) b.connection.digits
  unfold caller?
  rw [b.toList_callerLine]
  refine Option.bind_eq_some_iff.2 ⟨_, literal_append _ _, ?_⟩
  refine repeated_marked b.user_plain.inline (fun more rest' same => ?_) ?_
  · -- no `@` follows the bracket that closes the address
    have split : (b.account.toList ++ ']' :: ' ' :: '@' :: ' ' :: (b.host.toList ++ [' ']))
        ++ '[' :: (b.address.toList ++ ']' :: connectionText b.connection.text.toList)
          = more ++ '[' :: rest' := by
      simpa using same
    obtain ⟨-, -, rfl⟩ := (List.append_cons_inj_of_notMem
      (by simp [b.account_plain.unopened, b.host_plain.unopened])
      (by simp [b.address_plain.unopened, unopened])).1 split
    exact repeated_marked_eq_none b.address_plain.unclosed unclosed fun _ => at_connectionText _ _
  refine repeated_marked b.account_plain.inline (fun more rest' same => ?_) ?_
  · have split : (' ' :: '@' :: ' ' :: (b.host.toList ++ ' ' :: '[' :: b.address.toList)) ++ ']' ::
        connectionText b.connection.text.toList = more ++ ']' :: rest' := by
      simpa using same
    obtain ⟨-, -, rfl⟩ := (List.append_cons_inj_of_notMem
      (by simp [b.address_plain.unclosed, b.host_plain.unclosed]) unclosed).1 split
    exact at_connectionText _ _
  refine blanks_skipped [' '] (by decide) (stop_cons (by decide)) ?_
  rw [marked_cons]
  refine host_found b.host_solid ?_ ?_
  · simp [b.address_plain.unopened, unopened]
  refine (address_found (fun address digits => ⟨trim (String.ofList (b.user.toList ++ '[' ::
    b.account.toList ++ [']'])), String.ofList b.host.toList, String.ofList address,
    String.ofList digits⟩) b.address_plain.inline b.connection.nonempty
    b.connection.digits).trans ?_
  simp only [trim_account b.user_trimmed, String.ofList_toList]

/-! ### The metadata line -/

namespace Digits

variable (d : Digits)

theorem isDigit_text : ∀ c ∈ d.text.toList, Text.isDigit c = true := fun c member =>
  isDigit_of_ascii (d.digits c member)

/-- Digits are read as the number that they write. -/
theorem readNat?_text : readNat? d.text.toList = some d.value := by
  have all : d.text.toList.all Char.isDigit = true := List.all_eq_true.2 d.digits
  simp [readNat?, all, d.nonempty, value]

theorem count?_text (bound : d.value < 18446744073709551616) :
    SlowLog.count? d.text.toList = some d.value := by
  simp [SlowLog.count?, d.readNat?_text, Option.filter, bound]

end Digits

namespace Numeral

variable (n : Numeral)

theorem toList_text :
    n.text.toList = n.whole.toList ++ n.fraction.elim [] fun f => '.' :: f.toList := by
  cases digits : n.fraction <;> simp [text, digits]

theorem text_ne_nil : n.text.toList ≠ [] := by
  have nonempty := n.nonempty
  rw [n.toList_text]
  cases digits : n.fraction with
  | none => simpa [digits] using nonempty
  | some f => simp

theorem isNumeral_text : ∀ c ∈ n.text.toList, isNumeral c = true := by
  have part (c : Char) (member : c ∈ n.whole.toList ++ (n.fraction.getD "").toList) :
      isNumeral c = true := by simp [isNumeral, isDigit_of_ascii (n.digits c member)]
  intro c member
  rw [n.toList_text, List.mem_append] at member
  rcases member with member | member
  · exact part c (List.mem_append_left _ member)
  · cases digits : n.fraction with
    | none => simp [digits] at member
    | some f =>
        rw [digits, Option.elim_some, List.mem_cons] at member
        rcases member with rfl | member
        · rfl
        · exact part c (List.mem_append_right _ (by simpa [digits] using member))

/-- **A numeral is read as the double nearest to it**, with a fraction or without one. -/
theorem readDecimal?_text : readDecimal? n.text.toList = some n.value := by
  have whole : ∀ c ∈ n.whole.toList, c.isDigit = true := fun c member =>
    n.digits c (List.mem_append_left _ member)
  have nonempty := n.nonempty
  rw [n.toList_text]
  cases digits : n.fraction with
  | none =>
      have left : n.whole.toList ≠ [] := by simpa [digits] using nonempty
      have taken : n.whole.toList.takeWhile Char.isDigit = n.whole.toList :=
        List.takeWhile_eq_self_iff.2 whole
      have dropped : n.whole.toList.dropWhile Char.isDigit = [] :=
        List.dropWhile_eq_nil_iff.2 whole
      simp [readDecimal?, taken, dropped, left, value, behind, digits, tens]
  | some f =>
      have fraction : ∀ c ∈ f.toList, c.isDigit = true := fun c member =>
        n.digits c (List.mem_append_right _ (by simpa [digits] using member))
      have point : Char.isDigit '.' = false := by decide
      have taken : (n.whole.toList ++ '.' :: f.toList).takeWhile Char.isDigit = n.whole.toList := by
        simp [List.takeWhile_append_of_pos whole, point]
      have dropped :
          (n.whole.toList ++ '.' :: f.toList).dropWhile Char.isDigit = '.' :: f.toList := by
        simp [List.dropWhile_append_of_pos whole, point]
      have fits : f.toList.all Char.isDigit = true := List.all_eq_true.2 fraction
      have written : (n.whole.toList.isEmpty && f.toList.isEmpty) = false := by
        simpa [digits] using nonempty
      simp [readDecimal?, taken, dropped, fits, written, value, behind, digits]

end Numeral

namespace Block

variable (b : Block)

theorem toList_metadataLine :
    b.metadataLine.toList = "# Query_time: ".toList ++ (b.queryTime.text.toList ++ ([' ', ' '] ++
      ("Lock_time: ".toList ++ (b.lockTime.text.toList ++ ([' '] ++
        ("Rows_sent: ".toList ++ (b.rowsSent.text.toList ++ ([' ', ' '] ++
          ("Rows_examined: ".toList ++ b.rowsExamined.text.toList))))))))) := by
  have first : "  Lock_time: ".toList = [' ', ' '] ++ "Lock_time: ".toList := by simp
  have second : " Rows_sent: ".toList = [' '] ++ "Rows_sent: ".toList := by simp
  have third : "  Rows_examined: ".toList = [' ', ' '] ++ "Rows_examined: ".toList := by simp
  unfold metadataLine
  simp only [String.toList_append, List.append_assoc, first, second, third]

theorem metadata?_metadataLine :
    metadata? b.metadataLine = some ⟨b.queryTime.text.toList, b.lockTime.text.toList,
      b.rowsSent.text.toList, b.rowsExamined.text.toList⟩ := by
  unfold metadata?
  rw [b.toList_metadataLine]
  refine somewhere_of_start (Option.bind_eq_some_iff.2 ⟨_, literal_append _ _, ?_⟩)
  refine repeated1_longest _ b.queryTime.text_ne_nil b.queryTime.isNumeral_text
    (stop_append (by decide)) ?_
  refine blanks_skipped _ (by decide) (stop_append (by decide)) ?_
  refine Option.bind_eq_some_iff.2 ⟨_, literal_append _ _, ?_⟩
  refine repeated1_longest _ b.lockTime.text_ne_nil b.lockTime.isNumeral_text
    (stop_append (by decide)) ?_
  refine blanks_skipped _ (by decide) (stop_append (by decide)) ?_
  refine Option.bind_eq_some_iff.2 ⟨_, literal_append _ _, ?_⟩
  refine repeated1_longest _ b.rowsSent.nonempty b.rowsSent.isDigit_text
    (stop_append (by decide)) ?_
  refine blanks_skipped _ (by decide) (stop_append (by decide)) ?_
  refine Option.bind_eq_some_iff.2 ⟨_, literal_append _ _, ?_⟩
  exact repeated1_whole b.rowsExamined.nonempty b.rowsExamined.isDigit_text rfl

/-- **The metadata line is read as the numbers that are written.** -/
theorem measures?_metadataLine :
    SlowLog.measures? b.metadataLine = some
      ⟨b.queryTime.value, b.lockTime.value, b.rowsSent.value, b.rowsExamined.value⟩ := by
  obtain ⟨duration, spanned⟩ := Option.isSome_iff_exists.1 b.duration_isSome
  simp [SlowLog.measures?, b.metadata?_metadataLine, b.queryTime.readDecimal?_text, spanned,
    b.lockTime.readDecimal?_text, b.rowsSent.count?_text b.rowsSent_lt,
    b.rowsExamined.count?_text b.rowsExamined_lt]

/-! ### The other lines -/

/-- **A line that chooses a database is passed over**, whatever the name of the database. -/
theorem isUse_useLine {name : String} (nonempty : name.toList ≠ []) (inline : Inline name) :
    isUse (useLine name) = true := by
  obtain ⟨c, more, same⟩ := List.exists_cons_of_ne_nil nonempty
  have written : (useLine name).toList = 'u' :: 's' :: 'e' :: ' ' :: c :: (more ++ [';']) := by
    simp [useLine, same]
  have first : isInline c = true := inline c (by simp [same])
  have all : more.all isInline = true :=
    List.all_eq_true.2 fun d member => inline d (by simp [same, member])
  have use (rest : List Char) : keyword "use".toList ('u' :: 's' :: 'e' :: rest) = some rest := by
    simp [keyword, foldsTo]
  -- the name is read up to the last semicolon, even if it starts with white space
  unfold isUse
  rw [written, use, Option.bind_some, repeated1, if_pos (by decide), repeated_isSome_iff]
  refine ⟨[], c :: (more ++ [';']), rfl, rfl, ?_⟩
  rw [repeated1, if_pos first, repeated_isSome_iff]
  exact ⟨more, [';'], rfl, all, rfl⟩

/-- **The set line chooses no database.** -/
theorem isUse_setLine : isUse b.setLine = false := by
  have written : b.setLine.toList
      = 'S' :: ("ET timestamp=".toList ++ (b.timestamp.text.toList ++ [';'])) := by
    unfold setLine
    simp
  have other (rest : List Char) : keyword "use".toList ('S' :: rest) = none := by
    simp [keyword, foldsTo]
  unfold isUse
  rw [written, other]
  rfl

/-- **The set line is read as the instant that it names**, which the block has because of its own
form. -/
theorem timestamp?_setLine :
    SlowLog.timestamp? b.setLine = Instant.ofSeconds? b.timestamp.value 0 := by
  have written : b.setLine.toList = "SET".toList ++ ([' '] ++ ("timestamp=".toList ++
      (b.timestamp.text.toList ++ [';']))) := by
    unfold setLine
    simp
  have stamp : setTimestamp? b.setLine = some b.timestamp.text.toList := by
    unfold setTimestamp?
    rw [written]
    refine somewhere_of_start (Option.bind_eq_some_iff.2 ⟨_, literal_append _ _, ?_⟩)
    refine repeated1_longest [' '] (by decide) (List.all_eq_true.1 (by decide))
      (stop_append (by decide)) ?_
    refine Option.bind_eq_some_iff.2 ⟨_, literal_append _ _, ?_⟩
    exact repeated1_longest _ b.timestamp.nonempty b.timestamp.digits (stop_cons (by decide)) rfl
  have bound : b.timestamp.value < 9223372036854775808 := by
    obtain ⟨t, start⟩ := Option.isSome_iff_exists.1 b.start_isSome
    have day := (Instant.ofParts?_eq_some_iff.1 start).1
    have last := t.day_mem.2
    rw [day, lastDay] at last
    omega
  simp [SlowLog.timestamp?, stamp, b.timestamp.readNat?_text, bound]

end Block

/-! ### Records and sections -/

/-- The line that names the caller starts a record. -/
theorem Block.isRecord_callerLine (b : Block) : isRecord b.callerLine = true := by
  rw [isRecord, b.caller?_callerLine]
  rfl

/-- **A line without the marker of a record starts none.** -/
theorem isRecord_eq_false {line : String}
    (unmarked : ∀ rest, line.toList ≠ "# User@Host: ".toList ++ rest) : isRecord line = false := by
  have missing : literal "# User@Host: ".toList line.toList = none :=
    Option.eq_none_iff_forall_ne_some.2 fun rest found =>
      unmarked rest ((literal_eq_some_iff _ _ _).1 found)
  unfold isRecord caller?
  rw [missing]
  rfl

/-- The marker of a section starts one, and no record. -/
theorem Section.isSection_marker (s : Section) : isSection ("# Time: " ++ s.time.text) = true :=
  (isSection_iff _).2 ⟨s.time.text.toList, String.toList_append⟩

theorem Section.isRecord_marker (s : Section) : isRecord ("# Time: " ++ s.time.text) = false :=
  isRecord_eq_false fun rest => by simp

namespace Aside

variable (a : Aside)

/-- A line between sections starts no section and no record. -/
theorem isSection_text : isSection a.text = false := by
  rw [Bool.eq_false_iff, Ne, isSection_iff]
  rintro ⟨rest, same⟩
  exact a.unmarked (by simp [same])

theorem isRecord_text : isRecord a.text = false :=
  isRecord_eq_false fun rest same => a.unmarked (by simp [same])

end Aside

end QueryFlow.Log
