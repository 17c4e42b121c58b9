import Mathlib.Data.List.Infix
import QueryFlow.Log.SlowLog

/-!
# Slow logs as they are written

A slow log is written as a *transcript*: some lines of a header, then sections, each with its marker
and its *blocks*, and other lines between the sections. A block is the record of one query, by what
stands in its lines. That these parts have the form that a server gives them is part of the data:
accounts and addresses have no brackets, counts are digits, and no part goes on behind the end of
its line.

* `Block.lines`, `Section.lines`, `Transcript.lines` — how they are written, line by line;
* `Transcript.placed` — the blocks, each with the number of the line that holds its query;
* `Transcript.entries` — what there is to read in a transcript;
* `linesOf` — the lines of a text, without their line ends.

## Two ways to say where a query stands

A block is placed by counting the lines of everything in front of it. That this number is the one of
a line with the text of the query is a theorem and not part of the definition: it compares the
counting, which goes through sections and blocks, with the list of all lines of the transcript
(`getElem?_of_mem_placed`).

## Lines and texts

The text of a transcript is its lines with line ends behind them, and the lines of that text are
those of the transcript, with either kind of line end. This needs that no line of a block contains a
line feed or ends in a character that would be taken off with its line end, which every part of a
block brings with it. Texts that end with a line can be put one behind the other, and so can their
lines (`linesOf_append`).

## Main results

* `blocks_placed`: every block is placed, once and in the order of the transcript.
* `getElem?_of_mem_placed`: the line at the place of a block holds its query.
* `linesOf_append`: a text that ends with a line is followed by the lines of what is put behind it.
* `linesOf_text`: the text of a transcript has the lines of the transcript.
-/

namespace QueryFlow.Log

open QueryFlow.Text QueryFlow.Time QueryFlow.Decimal

/-! ### The parts of lines -/

/-- A text without line feeds. It may end in a carriage return, which a line may not. -/
def Inline (s : String) : Prop := ∀ c ∈ s.toList, isInline c = true

instance (s : String) : Decidable (Inline s) := List.decidableBAll _ _

/-- A text that is one line without its line end: nothing would be taken off its end. -/
structure IsLine (s : String) : Prop where
  inline : Inline s
  ended : ∀ c ∈ s.toList.getLast?, isLineEnd c = false

instance (s : String) : Decidable (IsLine s) :=
  decidable_of_iff (Inline s ∧ s.toList.getLast?.all (fun c => !isLineEnd c) = true) <| by
    rw [Option.all_eq_true]
    exact ⟨fun ⟨inline, ended⟩ => ⟨inline, by simpa using ended⟩,
      fun ⟨inline, ended⟩ => ⟨inline, by simpa using ended⟩⟩

/-- A line without its line end, given with the proof that a reader takes it for one line. -/
structure Line where
  text : String
  isLine : IsLine text

/-- One or more ASCII digits. Leading zeros are allowed, and there is no bound on the number that
they write. -/
structure Digits where
  text : String
  nonempty : text.toList ≠ []
  digits : ∀ c ∈ text.toList, c.isDigit = true

/-- The number that is written with some digits, however many of them are leading zeros. -/
def Digits.value (d : Digits) : Nat := digitsValue d.text.toList

/-- A decimal numeral: the digits before the decimal point and, if there is one, those behind it. -/
structure Numeral where
  whole : String
  fraction : Option String
  nonempty : whole.toList ++ (fraction.getD "").toList ≠ []
  digits : ∀ c ∈ whole.toList ++ (fraction.getD "").toList, c.isDigit = true

namespace Numeral

/-- The digits behind the decimal point. -/
def behind (n : Numeral) : List Char := (n.fraction.getD "").toList

/-- The numeral as it is written. -/
def text (n : Numeral) : String := n.whole ++ (n.fraction.map ("." ++ ·)).getD ""

/-- The double nearest to a numeral. -/
def value (n : Numeral) : Binary64 :=
  .ofRatio false (digitsValue (n.whole.toList ++ n.behind)) (tens n.behind.length)

end Numeral

/-- A text without line feeds and brackets, as an account, a host or an address is. The pattern for
the caller finds where such texts end. -/
structure Plain (s : String) : Prop where
  inline : Inline s
  unopened : '[' ∉ s.toList
  unclosed : ']' ∉ s.toList

/-! ### Blocks, sections and transcripts -/

/-- The record of one query, by what stands in its lines. The fields behind the texts say that these
have the form in which a server writes them; a block without such a form cannot be built. -/
structure Block where
  /-- The account. -/
  user : String
  /-- The name behind the account, in brackets. -/
  account : String
  /-- The name of the machine, which may be empty. -/
  host : String
  address : String
  connection : Digits
  queryTime : Numeral
  lockTime : Numeral
  rowsSent : Digits
  rowsExamined : Digits
  /-- The database that is chosen, if one is. -/
  database : Option String
  timestamp : Digits
  sql : Line
  user_trimmed : trim user = user
  user_plain : Plain user
  account_plain : Plain account
  host_plain : Plain host
  host_solid : ∀ c ∈ host.toList, isBlank c = false
  address_plain : Plain address
  /-- A span can hold the time of the query. -/
  duration_isSome : { Entry.blank with queryTime := queryTime.value }.duration?.isSome = true
  rowsSent_lt : rowsSent.value < 18446744073709551616
  rowsExamined_lt : rowsExamined.value < 18446744073709551616
  database_inline : ∀ name ∈ database, name.toList ≠ [] ∧ Inline name
  /-- The time stamp names an instant. -/
  start_isSome : (Instant.ofSeconds? timestamp.value 0).isSome = true

namespace Block

/-- The line that names the caller. -/
def callerLine (b : Block) : String :=
  "# User@Host: " ++ b.user ++ "[" ++ b.account ++ "] @ " ++ b.host ++ " [" ++ b.address
    ++ "]  Id: " ++ b.connection.text

/-- The metadata line. -/
def metadataLine (b : Block) : String :=
  "# Query_time: " ++ b.queryTime.text ++ "  Lock_time: " ++ b.lockTime.text ++ " Rows_sent: "
    ++ b.rowsSent.text ++ "  Rows_examined: " ++ b.rowsExamined.text

/-- The line that chooses a database. -/
def useLine (name : String) : String := "use " ++ name ++ ";"

/-- The set line. -/
def setLine (b : Block) : String := "SET timestamp=" ++ b.timestamp.text ++ ";"

/-- The lines of a block. The last of them holds the query. -/
def lines (b : Block) : List String :=
  [b.callerLine, b.metadataLine] ++ b.database.toList.map useLine ++ [b.setLine, b.sql.text]

/-- What there is to read in a block whose query stands on a line. -/
def entry (b : Block) (line : Nat) : Entry :=
  { start := Instant.ofSeconds? b.timestamp.value 0
    user := b.user ++ "[" ++ b.account ++ "]"
    host := b.host
    address := b.address
    connection := b.connection.text
    queryTime := b.queryTime.value
    lockTime := b.lockTime.value
    rowsSent := b.rowsSent.value
    rowsExamined := b.rowsExamined.value
    sql := stripInlineComments b.sql.text
    line }

/-- The server ran the query on its own, to tell that no index was used. -/
def Diagnostic (b : Block) : Prop :=
  "index not used".toList <:+: (stripInlineComments b.sql.text).toList

instance (b : Block) : Decidable b.Diagnostic := List.decidableInfix _ _

end Block

/-- A line between sections. It is passed over whatever it says, as long as it does not start like a
line of a record. -/
structure Aside extends Line where
  unmarked : text.toList.head? ≠ some '#'

/-- A section, with the lines between it and the next one. A section may hold any number of blocks,
also none. -/
structure Section where
  /-- What stands behind the marker. -/
  time : Line
  blocks : List Block
  asides : List Aside

/-- The lines of a section. -/
def Section.lines (s : Section) : List String :=
  ("# Time: " ++ s.time.text) :: s.blocks.flatMap Block.lines ++ s.asides.map fun a => a.text

/-- A slow log by its parts: a header of any lines, the lines up to the first section, and the
sections. Every text that is made of such parts is a transcript, in any form of line ends. -/
structure Transcript where
  header : List Line
  /-- The lines between the header and the first section. -/
  asides : List Aside
  sections : List Section

/-- Some blocks behind so many lines, each with the number of the line that holds its query, which
is its last one. -/
def placeBlocks : Nat → List Block → List (Nat × Block)
  | _, [] => []
  | before, b :: bs =>
    (before + b.lines.length, b) :: placeBlocks (before + b.lines.length) bs

/-- The blocks of some sections behind so many lines. The marker of a section is one line, and the
blocks follow it directly. -/
def placeSections : Nat → List Section → List (Nat × Block)
  | _, [] => []
  | before, s :: ss =>
    placeBlocks (before + 1) s.blocks ++ placeSections (before + s.lines.length) ss

/-- What there is to read in placed blocks: an entry for each, apart from those that the server ran
for its own diagnosis. -/
def readable (placed : List (Nat × Block)) : List Entry :=
  (placed.filter fun (_, b) => !decide b.Diagnostic).map fun (line, b) => b.entry line

namespace Transcript

/-- The lines of a transcript. -/
def lines (d : Transcript) : List String :=
  d.header.map Line.text ++ d.asides.map (fun a => a.text) ++ d.sections.flatMap Section.lines

/-- The text of a transcript whose lines end alike. -/
def text (d : Transcript) (ending : String) : String := String.join (d.lines.map (· ++ ending))

/-- The blocks of a transcript, each with the number of the line that holds its query. -/
def placed (d : Transcript) : List (Nat × Block) :=
  placeSections (d.header.length + d.asides.length) d.sections

/-- What there is to read in a transcript: an entry for each block, except for those that the server
ran for its own diagnosis. -/
def entries (d : Transcript) : List Entry := readable d.placed

end Transcript

/-- The lines of a text, without their line ends. -/
def linesOf (text : String) : List String :=
  (splitBehind '\n' text.toList).map fun line => trimLineEnd (String.ofList line)

/-! ### Places -/

section Places

variable {before n : Nat} {b : Block}

theorem blocks_placeBlocks (before : Nat) (bs : List Block) :
    (placeBlocks before bs).map Prod.snd = bs := by
  induction bs generalizing before with
  | nil => rfl
  | cons b bs ih => simp [placeBlocks, ih]

theorem blocks_placeSections (before : Nat) (ss : List Section) :
    (placeSections before ss).map Prod.snd = ss.flatMap Section.blocks := by
  induction ss generalizing before with
  | nil => rfl
  | cons s ss ih => simp [placeSections, blocks_placeBlocks, ih]

/-- The line of a block that holds its query is the last one. -/
theorem exists_of_mem_placeBlocks {bs : List Block} (placed : (n, b) ∈ placeBlocks before bs) :
    ∃ earlier later, bs.flatMap Block.lines = earlier ++ b.sql.text :: later
      ∧ n = before + earlier.length + 1 := by
  induction bs generalizing before with
  | nil => simp [placeBlocks] at placed
  | cons first bs ih =>
      rw [placeBlocks, List.mem_cons] at placed
      rcases placed with same | placed
      · obtain ⟨rfl, rfl⟩ := Prod.mk.inj same
        refine ⟨[b.callerLine, b.metadataLine] ++ b.database.toList.map Block.useLine
          ++ [b.setLine], bs.flatMap Block.lines, by simp [Block.lines], ?_⟩
        simp [Block.lines]
        omega
      · obtain ⟨earlier, later, same, rfl⟩ := ih placed
        exact ⟨first.lines ++ earlier, later, by simp [same], by simp; omega⟩

theorem exists_of_mem_placeSections {ss : List Section}
    (placed : (n, b) ∈ placeSections before ss) :
    ∃ earlier later, ss.flatMap Section.lines = earlier ++ b.sql.text :: later
      ∧ n = before + earlier.length + 1 := by
  induction ss generalizing before with
  | nil => simp [placeSections] at placed
  | cons s ss ih =>
      rw [placeSections, List.mem_append] at placed
      rcases placed with placed | placed
      · obtain ⟨earlier, later, same, rfl⟩ := exists_of_mem_placeBlocks placed
        refine ⟨("# Time: " ++ s.time.text) :: earlier, later ++ s.asides.map (fun a => a.text)
          ++ ss.flatMap Section.lines, by simp [Section.lines, same], ?_⟩
        simp
        omega
      · obtain ⟨earlier, later, same, rfl⟩ := ih placed
        exact ⟨s.lines ++ earlier, later, by simp [same], by simp; omega⟩

/-- **Every block is placed**, once and in the order of the transcript, so each has its own line. -/
theorem blocks_placed (d : Transcript) :
    d.placed.map Prod.snd = d.sections.flatMap Section.blocks :=
  blocks_placeSections _ _

/-- **The line at the place of a block holds its query.** -/
theorem getElem?_of_mem_placed {d : Transcript} (placed : (n, b) ∈ d.placed) :
    ∃ k, n = k + 1 ∧ d.lines[k]? = some b.sql.text := by
  obtain ⟨earlier, later, same, rfl⟩ := exists_of_mem_placeSections placed
  refine ⟨d.header.length + d.asides.length + earlier.length, rfl, ?_⟩
  rw [Transcript.lines, same, ← List.append_assoc,
    List.getElem?_append_right (by simp [Nat.add_assoc])]
  simp [Nat.add_assoc]

end Places

/-! ### Lines of a text -/

/-- A line that is cut off stands before all others. -/
theorem splitBehind_append {α : Type} [BEq α] [LawfulBEq α] {mark : α} {line rest : List α}
    (unmarked : mark ∉ line) :
    splitBehind mark (line ++ mark :: rest) = (line ++ [mark]) :: splitBehind mark rest := by
  have before : ∀ a ∈ line, (a != mark) = true := by
    rintro a member
    simp only [bne_iff_ne]
    rintro rfl
    exact unmarked member
  have cut : (line ++ mark :: rest).dropWhile (· != mark) = mark :: rest := by
    rw [List.dropWhile_append_of_pos before]
    simp
  have kept : (line ++ mark :: rest).takeWhile (· != mark) = line := by
    rw [List.takeWhile_append_of_pos before]
    simp
  cases whole : line ++ mark :: rest with
  | nil => simp at whole
  | cons x more =>
      rw [whole] at cut kept
      rw [splitBehind]
      split
      · next none =>
        rw [cut] at none
        cases none
      · next found behind some =>
        rw [cut] at some
        obtain ⟨rfl, rfl⟩ := List.cons.inj some
        rw [kept]

/-- Taking its line end off a line gives the line. -/
theorem trimLineEnd_append {line ending : List Char}
    (ended : ∀ c ∈ line.getLast?, isLineEnd c = false) (ends : ∀ c ∈ ending, isLineEnd c = true) :
    trimLineEnd (String.ofList (line ++ ending)) = String.ofList line := by
  have kept : line.reverse.dropWhile isLineEnd = line.reverse := by
    rw [dropWhile_eq_self_iff_head, List.head?_reverse]
    exact ended
  have reversed : ∀ c ∈ ending.reverse, isLineEnd c = true := by simpa using ends
  rw [trimLineEnd, String.toList_ofList, List.reverse_append,
    List.dropWhile_append_of_pos reversed, kept, List.reverse_reverse]

@[simp] theorem inline_append {s t : String} : Inline (s ++ t) ↔ Inline s ∧ Inline t := by
  simp [Inline, or_imp, forall_and]

/-- A text without line feeds is a line if its end is one. -/
theorem IsLine.of_append {s t : String} (inline : Inline s) (line : IsLine t)
    (nonempty : t.toList ≠ []) : IsLine (s ++ t) where
  inline := inline_append.2 ⟨inline, line.inline⟩
  ended := by
    rw [String.toList_append, List.getLast?_append_of_ne_nil _ nonempty]
    exact line.ended

/-- A digit is no part of a line end. -/
theorem isLineEnd_of_isDigit {c : Char} (digit : c.isDigit = true) : isLineEnd c = false := by
  rw [isLineEnd, Bool.or_eq_false_iff, beq_eq_false_iff_ne, beq_eq_false_iff_ne]
  constructor <;> (rintro rfl; revert digit; decide)

/-- A character that belongs to no line end does not end a line. -/
theorem isInline_of_isLineEnd {c : Char} (other : isLineEnd c = false) : isInline c = true := by
  rw [isLineEnd, Bool.or_eq_false_iff] at other
  simpa [isInline, bne] using other.1

theorem Digits.isLine (d : Digits) : IsLine d.text where
  inline c member := isInline_of_isLineEnd (isLineEnd_of_isDigit (d.digits c member))
  ended c last := isLineEnd_of_isDigit (d.digits c (List.mem_of_getLast? last))

theorem Numeral.inline (n : Numeral) : Inline n.text := by
  have part (c : Char) (member : c ∈ n.whole.toList ++ (n.fraction.getD "").toList) :
      isInline c = true := isInline_of_isLineEnd (isLineEnd_of_isDigit (n.digits c member))
  have whole : Inline n.whole := fun c member => part c (List.mem_append_left _ member)
  have behind : Inline (n.fraction.getD "") := fun c member =>
    part c (List.mem_append_right _ member)
  cases digits : n.fraction with
  | none => simpa [text, digits] using whole
  | some digits =>
      rw [digits] at behind
      simpa [text, digits] using ⟨whole, by decide, behind⟩

namespace Block

variable (b : Block)

theorem isLine_callerLine : IsLine b.callerLine := by
  refine .of_append ?_ b.connection.isLine b.connection.nonempty
  simp only [inline_append, b.user_plain.inline, b.account_plain.inline, b.host_plain.inline,
    b.address_plain.inline]
  decide

theorem isLine_metadataLine : IsLine b.metadataLine := by
  refine .of_append ?_ b.rowsExamined.isLine b.rowsExamined.nonempty
  simp only [inline_append, b.queryTime.inline, b.lockTime.inline, b.rowsSent.isLine.inline]
  decide

theorem isLine_useLine {name : String} (inline : Inline name) : IsLine (useLine name) := by
  refine .of_append ?_ (t := ";") (by decide) (by decide)
  simp only [inline_append, inline]
  decide

theorem isLine_setLine : IsLine b.setLine := by
  refine .of_append ?_ (t := ";") (by decide) (by decide)
  simp only [inline_append, b.timestamp.isLine.inline]
  decide

theorem isLine_of_mem_lines {line : String} (member : line ∈ b.lines) : IsLine line := by
  simp only [lines, List.mem_append, List.mem_cons, List.not_mem_nil, or_false, List.mem_map,
    Option.mem_toList] at member
  obtain ((rfl | rfl) | ⟨name, chosen, rfl⟩) | (rfl | rfl) := member
  · exact b.isLine_callerLine
  · exact b.isLine_metadataLine
  · exact isLine_useLine (b.database_inline name chosen).2
  · exact b.isLine_setLine
  · exact b.sql.isLine

end Block

theorem Section.isLine_of_mem_lines {s : Section} {line : String} (member : line ∈ s.lines) :
    IsLine line := by
  simp only [lines, List.cons_append, List.mem_cons, List.mem_append, List.mem_flatMap,
    List.mem_map] at member
  obtain rfl | ⟨b, -, member⟩ | ⟨a, -, rfl⟩ := member
  · by_cases empty : s.time.text.toList = []
    · rw [String.toList_eq_nil_iff.1 empty]
      decide
    · exact .of_append (by decide) s.time.isLine empty
  · exact b.isLine_of_mem_lines member
  · exact a.isLine

/-- The lines of a transcript are lines. -/
theorem Transcript.isLine_of_mem_lines {d : Transcript} {line : String} (member : line ∈ d.lines) :
    IsLine line := by
  simp only [lines, List.append_assoc, List.mem_append, List.mem_map, List.mem_flatMap] at member
  obtain ⟨l, -, rfl⟩ | ⟨a, -, rfl⟩ | ⟨s, -, member⟩ := member
  · exact l.isLine
  · exact a.isLine
  · exact Section.isLine_of_mem_lines member

/-- Lines that are written one behind the other are the lines of what is written. -/
theorem linesOf_join {lines : List String} (all : ∀ line ∈ lines, IsLine line) {ending : String}
    (ends : ending ∈ ["\n", "\r\n"]) :
    linesOf (String.join (lines.map (· ++ ending))) = lines := by
  obtain ⟨returns, same, returned, unmarked⟩ : ∃ returns, ending.toList = returns ++ ['\n']
      ∧ (∀ c ∈ returns ++ ['\n'], isLineEnd c = true) ∧ '\n' ∉ returns := by
    simp only [List.mem_cons, List.not_mem_nil, or_false] at ends
    rcases ends with rfl | rfl
    · exact ⟨[], by simp, List.all_eq_true.1 (by decide), by simp⟩
    · exact ⟨['\r'], by simp, List.all_eq_true.1 (by decide), by simp⟩
  induction lines with
  | nil => simp [linesOf, splitBehind]
  | cons line lines ih =>
      obtain ⟨inline, ended⟩ := all line List.mem_cons_self
      have unmarked : '\n' ∉ line.toList ++ returns := by
        rw [List.mem_append, not_or]
        exact ⟨fun member => by simpa [isInline] using inline _ member, unmarked⟩
      have whole : (String.join ((line :: lines).map (· ++ ending))).toList
          = line.toList ++ returns ++ '\n' :: (String.join (lines.map (· ++ ending))).toList := by
        simp [same]
      rw [linesOf, whole, splitBehind_append unmarked, List.map_cons, List.append_assoc,
        trimLineEnd_append ended returned, String.ofList_toList]
      exact congrArg _ (ih fun line member => all line (List.mem_cons_of_mem _ member))

/-- Some lines are those of a text that ends with the last of them. -/
theorem exists_text {lines : List String} (all : ∀ line ∈ lines, IsLine line)
    (nonempty : lines ≠ []) :
    ∃ text : String, text.toList.getLast? = some '\n' ∧ linesOf text = lines := by
  refine ⟨String.join (lines.map (· ++ "\n")), ?_, linesOf_join all (by simp)⟩
  obtain ⟨before, last, rfl⟩ := (List.eq_nil_or_concat' lines).resolve_left nonempty
  simp

/-- A list behind one that ends with a mark is cut on its own. -/
theorem splitBehind_append_of_ended {α : Type} [BEq α] [LawfulBEq α] {mark : α} {xs : List α}
    (ended : xs.getLast? = some mark) (ys : List α) :
    splitBehind mark (xs ++ ys) = splitBehind mark xs ++ splitBehind mark ys := by
  induction length : xs.length using Nat.strongRecOn generalizing xs with
  | ind _ ih =>
    subst length
    obtain ⟨line, rest, rfl, unmarked⟩ :=
      List.eq_append_cons_of_mem (List.mem_of_getLast? ended)
    rw [List.append_assoc, List.cons_append, splitBehind_append unmarked,
      splitBehind_append unmarked, List.cons_append]
    cases rest with
    | nil => rw [List.nil_append, splitBehind, List.nil_append]
    | cons x rest =>
        have ended' : (x :: rest).getLast? = some mark := by simpa using ended
        rw [ih _ (by simp; omega) ended' rfl]

/-- **The lines of a text behind one that ends with a line are those of both.** -/
theorem linesOf_append {first : String} (ended : first.toList.getLast? = some '\n')
    (second : String) : linesOf (first ++ second) = linesOf first ++ linesOf second := by
  rw [linesOf, String.toList_append, splitBehind_append_of_ended ended, List.map_append]
  rfl

/-- **The text of a transcript has the lines of the transcript.** -/
theorem linesOf_text (d : Transcript) {ending : String} (ends : ending ∈ ["\n", "\r\n"]) :
    linesOf (d.text ending) = d.lines :=
  linesOf_join (fun _ member => Transcript.isLine_of_mem_lines member) ends

end QueryFlow.Log
