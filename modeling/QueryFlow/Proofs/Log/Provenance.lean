import QueryFlow.Proofs.Log.Scan

/-!
# Where the entries of a slow log come from

Whatever text is read as a slow log, every entry that comes of it is *backed* by the log: it tells
what stands in the lines of one complete record, and the number of its line is that of the last of
them. The record stands in a section of the log, with nothing but complete records between it and
the marker of the section. The records of different entries do not overlap and come in the order of
the entries, so that nothing is made up, put together from two records or told twice.

* `Record` — the lines of a complete record, with what is read in them;
* `Opens` — some lines lead up to a place in a section where a record may start;
* `Backs`, `Accounted` — an entry is backed by a part of the log, and entries are by parts in order.

## The invariant

The proof follows the machine that reads a log line by line, for this is a statement about every
text that is accepted and not about those of a certain form. After any number of lines there are two
parts of the log: the lines up to the last complete record, `front`, and behind them those of a
record that is not complete yet, `part`. The invariant `Follows` says that

* the entries so far are accounted for by `front` alone,
* if the machine stands in a section, `front` leads up to a place where a record may start,
* `part` is what the stage of the machine holds (`Stage.Tells`): one line for each thing that it has
  read of the record, and each of these read in its line.

## How a line keeps it

There are three kinds of lines. A line that belongs to no record is put behind `front`, and opens a
section or leaves it. A line of a record that is not complete is put behind `part`, and the stage
remembers what was read in it. The last line of a record completes it: `part` and the line are the
lines of a `Record`, whose fields are what the stage remembers, and they move behind `front`
together with the entry. That entry is the only new one, its record lies wholly behind all earlier
ones, and its line is the number of lines read, so that the entries stay accounted for in order
(`Accounted.concat`). The cases of the step are the constructors of `Tells`.

The machine may stop only where no line of a record is awaited, and there `part` is empty.

## Main results

* `Follows.step`, `Follows.scan`: every line keeps what the machine holds backed by the log.
* `accounted_of_read`: the entries that are read are accounted for by the log.
-/

namespace QueryFlow.Log.SlowLog

open QueryFlow.Text QueryFlow.Time

/-! ### Records and their places -/

/-- The lines of a complete record, with what is read in them. The last fields tie the one to the
other, so that a record cannot tell what does not stand in its lines. -/
structure Record where
  callerLine : String
  metadataLine : String
  /-- The line that chooses a database, if there is one. -/
  useLine : Option String
  setLine : String
  sqlLine : String
  caller : Caller
  measures : Measures
  start : Instant
  caller_eq : caller? callerLine = some caller
  measures_eq : measures? metadataLine = some measures
  chooses : ∀ line ∈ useLine, isUse line = true
  /-- A set line that could also choose a database is not taken for a set line at first. -/
  sets : useLine = none → isUse setLine = false
  start_eq : timestamp? setLine = some start

namespace Record

/-- The lines of a record. The last of them holds the query. -/
def lines (r : Record) : List String :=
  [r.callerLine, r.metadataLine] ++ r.useLine.toList ++ [r.setLine, r.sqlLine]

/-- What a record tells if its query stands in a line of the log. -/
def entry (r : Record) (line : Nat) : Entry := entryOf r.caller r.measures r.start r.sqlLine line

end Record

/-- Some lines of a log end in a section, with nothing but complete records behind its marker. The
marker does not stand in the header, where lines are not looked at. -/
def Opens (headerLines : Nat) (lines : List String) : Prop :=
  ∃ (earlier : List String) (marker : String) (records : List Record),
    lines = earlier ++ marker :: records.flatMap Record.lines
      ∧ headerLines ≤ earlier.length ∧ isSection marker = true

/-- An entry is that of a record with so many lines of the log before it. The record stands where
one may start, and the entry has the number of its last line, which holds the query. The entry is
none of those that the server makes for its own diagnosis. -/
def Backs (headerLines : Nat) (lines : List String) (before : Nat) (e : Entry) : Prop :=
  ∃ (front : List String) (r : Record) (later : List String),
    lines = front ++ r.lines ++ later ∧ front.length = before ∧ Opens headerLines front
      ∧ e = r.entry (before + r.lines.length) ∧ ¬ "index not used".toList <:+: e.sql.toList

/-- Entries are backed one by one by records of the log that follow each other without overlapping:
each one has the lines of those before it among the lines before it. The number that goes with an
entry is that of the lines in front of its record. -/
def Accounted (headerLines : Nat) (lines : List String) (es : List Entry) : Prop :=
  ∃ placed : List (Nat × Entry), placed.map Prod.snd = es
    ∧ (∀ p ∈ placed, Backs headerLines lines p.1 p.2)
    ∧ placed.Pairwise fun p q => p.2.line ≤ q.1

section Places

variable {headerLines before : Nat} {lines front : List String} {e : Entry} {es : List Entry}

/-- A marker behind the header opens a section. -/
theorem opens_marker {marker : String} (behind : headerLines ≤ lines.length)
    (marks : isSection marker = true) : Opens headerLines (lines ++ [marker]) :=
  ⟨lines, marker, [], by simp, behind, marks⟩

/-- Behind a complete record another one may start. -/
theorem Opens.concat (opens : Opens headerLines front) (r : Record) :
    Opens headerLines (front ++ r.lines) := by
  obtain ⟨earlier, marker, records, rfl, behind, marks⟩ := opens
  exact ⟨earlier, marker, records ++ [r], by simp, behind, marks⟩

/-- What comes later changes nothing. -/
theorem Backs.append (backs : Backs headerLines lines before e) (more : List String) :
    Backs headerLines (lines ++ more) before e := by
  obtain ⟨front, r, later, rfl, rest⟩ := backs
  exact ⟨front, r, later ++ more, by simp, rest⟩

/-- The line of an entry is one of the log. -/
theorem Backs.line_le (backs : Backs headerLines lines before e) : e.line ≤ lines.length := by
  obtain ⟨front, r, later, rfl, rfl, -, rfl, -⟩ := backs
  simp [Record.entry, entryOf]

theorem Accounted.append (accounted : Accounted headerLines lines es) (more : List String) :
    Accounted headerLines (lines ++ more) es := by
  obtain ⟨placed, same, backs, apart⟩ := accounted
  exact ⟨placed, same, fun p member => (backs p member).append more, apart⟩

/-- **A complete record accounts for its entry**, if that is kept. An entry that the server made for
its own diagnosis is dropped, and then there is nothing to account for; otherwise its record lies
behind the lines of all others. -/
theorem Accounted.concat (accounted : Accounted headerLines front es)
    (opens : Opens headerLines front) (r : Record) :
    Accounted headerLines (front ++ r.lines)
      (es ++ kept [r.entry (front.length + r.lines.length)]) := by
  have before := accounted.append r.lines
  cases diagnostic : isDiagnostic (r.entry (front.length + r.lines.length)).sql with
  | true => simpa [kept, diagnostic] using before
  | false =>
      obtain ⟨placed, rfl, backs, apart⟩ := accounted
      have plain : ¬ "index not used".toList
          <:+: (r.entry (front.length + r.lines.length)).sql.toList := by
        rw [← occurs_iff, ← isDiagnostic, diagnostic]
        exact Bool.false_ne_true
      refine ⟨placed ++ [(front.length, r.entry (front.length + r.lines.length))],
        by simp [kept, diagnostic], fun p member => ?_, ?_⟩
      · rcases List.mem_append.1 member with member | member
        · exact (backs p member).append r.lines
        · obtain rfl := List.mem_singleton.1 member
          exact ⟨front, r, [], by simp, rfl, opens, rfl, plain⟩
      · refine List.pairwise_append.2 ⟨apart, List.pairwise_singleton _ _, fun p member q last => ?_⟩
        obtain rfl := List.mem_singleton.1 last
        exact (backs p member).line_le

end Places

/-! ### What the machine holds -/

/-- The lines behind the last complete record, with what the stage of the machine holds of them.
There is one constructor for each stage, and no line is told of where no record was started. -/
inductive Stage.Tells : Stage → List String → Prop
  | between : Tells .between []
  | within : Tells .within []
  | called {first : String} {caller : Caller} (named : caller? first = some caller) :
      Tells (.called caller) [first]
  | measured {first second : String} {caller : Caller} {measures : Measures}
      (named : caller? first = some caller) (counted : measures? second = some measures) :
      Tells (.measured caller measures) [first, second]
  | chosen {first second use : String} {caller : Caller} {measures : Measures}
      (named : caller? first = some caller) (counted : measures? second = some measures)
      (chooses : isUse use = true) :
      Tells (.chosen caller measures) [first, second, use]
  | dated {first second set : String} {use : Option String} {caller : Caller} {measures : Measures}
      {start : Instant}
      (named : caller? first = some caller) (counted : measures? second = some measures)
      (chooses : ∀ line ∈ use, isUse line = true) (sets : use = none → isUse set = false)
      (timed : timestamp? set = some start) :
      Tells (.dated caller measures start) ([first, second] ++ use.toList ++ [set])

/-- What the machine holds after some lines: `front` are those up to the last complete record, and
`part` those of one that is not complete. Every step of the machine keeps it, with the line at the
end of one of the two. -/
structure Follows (headerLines : Nat) (p : Progress) (front part : List String) : Prop where
  number : p.number = (front ++ part).length
  behind : headerLines ≤ front.length
  accounted : Accounted headerLines front p.entries
  opened : p.stage ≠ .between → Opens headerLines front
  tells : p.stage.Tells part

section Steps

variable {headerLines n : Nat} {s s' : Stage} {front part : List String} {line : String}
  {es : List Entry}

/-- A line that belongs to no record is put behind the others. -/
theorem Follows.beyond (follows : Follows headerLines ⟨s, n, es⟩ front []) (line : String) :
    Follows headerLines ⟨.beyond line, n + 1, es⟩ (front ++ [line]) [] := by
  have number : n = (front ++ []).length := follows.number
  have behind := follows.behind
  refine ⟨by simp [number], by simp; omega, follows.accounted.append _, fun inside => ?_, ?_⟩
  · have marks : isSection line = true := by
      by_contra other
      exact inside (by simp [Stage.beyond, other])
    exact opens_marker behind marks
  · dsimp only [Stage.beyond]
    split
    · exact .within
    · exact .between

/-- A line of a record that is not complete is put behind the others of the record. -/
theorem Follows.more (follows : Follows headerLines ⟨s, n, es⟩ front part) (inside : s ≠ .between)
    (tells : s'.Tells (part ++ [line])) :
    Follows headerLines ⟨s', n + 1, es⟩ front (part ++ [line]) := by
  have number : n = (front ++ part).length := follows.number
  exact ⟨by simp [number, Nat.add_assoc], follows.behind, follows.accounted,
    fun _ => follows.opened inside, tells⟩

/-- The last line of a record completes it: its lines move in front, as the record of one more
entry. -/
theorem Follows.complete {caller : Caller} {measures : Measures} {start : Instant}
    (follows : Follows headerLines ⟨.dated caller measures start, n, es⟩ front part)
    (line : String) :
    Follows headerLines ⟨.within, n + 1, es ++ kept [entryOf caller measures start line (n + 1)]⟩
      (front ++ (part ++ [line])) [] := by
  have opens := follows.opened (by simp)
  have number : n = (front ++ part).length := follows.number
  obtain ⟨r, lines, entry⟩ : ∃ r : Record, r.lines = part ++ [line]
      ∧ ∀ k, r.entry k = entryOf caller measures start line k := by
    cases follows.tells with
    | @dated first second set use _ _ _ named counted chooses sets timed =>
        exact ⟨⟨first, second, use, set, line, caller, measures, start, named, counted, chooses,
          sets, timed⟩, by simp [Record.lines], fun _ => rfl⟩
  have last : n + 1 = front.length + r.lines.length := by
    rw [number, lines]
    simp [Nat.add_assoc]
  rw [← entry, ← lines, last]
  exact ⟨by simp, by simpa using Nat.le_add_right_of_le follows.behind,
    follows.accounted.concat opens r, fun _ => opens.concat r, .within⟩

/-- A set line that is read has a time stamp. -/
theorem exists_of_date {caller : Caller} {measures : Measures} {found : List Entry}
    (dates : Stage.date caller measures n line = .ok (s', found)) :
    ∃ start, timestamp? line = some start ∧ s' = .dated caller measures start ∧ found = [] := by
  unfold Stage.date at dates
  split at dates
  · next start timed =>
    obtain ⟨rfl, rfl⟩ := Prod.mk.inj (Except.ok.inj dates)
    exact ⟨start, timed, rfl, rfl⟩
  · cases dates

/-- **Every line keeps what the machine holds backed by the log.** By cases on the stage: a line
outside joins those in front, one inside joins the record that is being read, and the last one of a
record completes it. -/
theorem Follows.step {p q : Progress} (follows : Follows headerLines p front part)
    (taken : p.step line = .ok q) :
    ∃ front' part', front' ++ part' = front ++ part ++ [line]
      ∧ Follows headerLines q front' part' := by
  obtain ⟨stage, n, es⟩ := p
  obtain ⟨⟨stage', found⟩, next, same⟩ := bind_eq_ok_iff.1 taken
  obtain rfl := Except.ok.inj same
  -- outside of records the line joins those before it
  have outside (none : part = []) (passes : (stage', found) = (Stage.beyond line, [])) :
      ∃ front' part', front' ++ part' = front ++ part ++ [line]
        ∧ Follows headerLines ⟨stage', n + 1, es ++ found⟩ front' part' := by
    subst none
    obtain ⟨rfl, rfl⟩ := Prod.mk.inj passes
    refine ⟨front ++ [line], [], by simp, ?_⟩
    rw [List.append_nil]
    exact follows.beyond line
  -- inside of a record it joins those of the record
  have inside (opened : stage ≠ .between) (none : found = [])
      (tells : stage'.Tells (part ++ [line])) :
      ∃ front' part', front' ++ part' = front ++ part ++ [line]
        ∧ Follows headerLines ⟨stage', n + 1, es ++ found⟩ front' part' := by
    subst none
    refine ⟨front, part ++ [line], by simp, ?_⟩
    rw [List.append_nil]
    exact follows.more opened tells
  cases tells : follows.tells with
  | between => exact outside rfl (Except.ok.inj next).symm
  | within =>
      cases named : caller? line with
      | none => exact outside rfl (by simpa [Stage.next, named] using next.symm)
      | some caller =>
          obtain ⟨rfl, rfl⟩ : .called caller = stage' ∧ [] = found := by
            simpa [Stage.next, named] using next
          exact inside (by simp) rfl (.called named)
  | @called first caller named =>
      cases counted : measures? line with
      | none => simp [Stage.next, counted] at next
      | some measures =>
          obtain ⟨rfl, rfl⟩ : .measured caller measures = stage' ∧ [] = found := by
            simpa [Stage.next, counted] using next
          exact inside (by simp) rfl (.measured named counted)
  | @measured first second caller measures named counted =>
      cases chooses : isUse line with
      | true =>
          obtain ⟨rfl, rfl⟩ : .chosen caller measures = stage' ∧ [] = found := by
            simpa [Stage.next, chooses] using next
          exact inside (by simp) rfl (.chosen named counted chooses)
      | false =>
          have dates : Stage.date caller measures (n + 1) line = .ok (stage', found) := by
            simpa [Stage.next, chooses] using next
          obtain ⟨start, timed, rfl, rfl⟩ := exists_of_date dates
          have tells : Stage.Tells (.dated caller measures start)
              ([first, second] ++ none.toList ++ [line]) :=
            .dated named counted (by simp) (fun _ => chooses) timed
          exact inside (by simp) rfl tells
  | @chosen first second use caller measures named counted chooses =>
      obtain ⟨start, timed, rfl, rfl⟩ := exists_of_date next
      have tells : Stage.Tells (.dated caller measures start)
          ([first, second] ++ (some use).toList ++ [line]) :=
        .dated named counted (by simpa using chooses) (by simp) timed
      exact inside (by simp) rfl tells
  | @dated first second set use caller measures start named counted chooses sets timed =>
      obtain ⟨rfl, rfl⟩ := Prod.mk.inj (Except.ok.inj next)
      exact ⟨_, [], by simp, follows.complete line⟩

/-- **Some lines keep what the machine holds backed by the log.** By induction on the lines. -/
theorem Follows.scan {p q : Progress} {lines : List String}
    (follows : Follows headerLines p front part) (taken : scan p lines = .ok q) :
    ∃ front' part', front' ++ part' = front ++ part ++ lines
      ∧ Follows headerLines q front' part' := by
  induction lines generalizing p front part with
  | nil =>
      obtain rfl := Except.ok.inj taken
      exact ⟨front, part, by simp, follows⟩
  | cons line lines ih =>
      rw [SlowLog.scan, List.foldlM_cons] at taken
      obtain ⟨p', first, rest⟩ := bind_eq_ok_iff.1 taken
      obtain ⟨front₁, part₁, same₁, follows₁⟩ := follows.step first
      obtain ⟨front₂, part₂, same₂, follows₂⟩ := ih follows₁ rest
      exact ⟨front₂, part₂, by simp [same₂, same₁], follows₂⟩

end Steps

/-! ### Whole logs -/

/-- Where nothing is awaited no record is incomplete. -/
theorem Stage.Tells.eq_nil {s : Stage} {part : List String} (tells : s.Tells part)
    (ready : s.awaited? = none) : part = [] := by
  cases tells <;> first | rfl | cases ready

/-- Behind the header nothing is read yet. -/
theorem follows_header {headerLines : Nat} {lines : List String}
    (long : headerLines ≤ lines.length) :
    Follows headerLines ⟨.between, headerLines, []⟩ (lines.take headerLines) [] := by
  have header : (lines.take headerLines).length = headerLines := List.length_take_of_le long
  exact ⟨by simp [header], Nat.le_of_eq header.symm, ⟨[], rfl, by simp, .nil⟩, by simp, .between⟩

/-- What the machine reads behind the header is accounted for by the lines of the log. -/
theorem accounted_of_run {headerLines : Nat} {lines : List String} {es : List Entry}
    (long : headerLines ≤ lines.length)
    (accepted : run ⟨.between, headerLines, []⟩ (lines.drop headerLines) = .ok es) :
    Accounted headerLines lines es := by
  obtain ⟨q, taken, finished⟩ := bind_eq_ok_iff.1 accepted
  obtain ⟨ready, rfl⟩ := finish_eq_ok_iff.1 finished
  obtain ⟨front, part, same, follows⟩ := (follows_header long).scan taken
  obtain rfl := follows.tells.eq_nil ready
  rw [List.append_nil, List.append_nil, List.take_append_drop] at same
  exact same ▸ follows.accounted

/-- **The entries that are read are accounted for by the log**: they are those of complete records
that stand in its sections, in their order. -/
theorem accounted_of_read {headerLines : Nat} {text : String} {es : List Entry}
    (accepted : read headerLines (splitLines text) = .ok es) :
    Accounted headerLines (linesOf text) es := by
  rw [read_eq_run] at accepted
  split at accepted
  · next long => exact accounted_of_run long accepted
  · split at accepted
    · obtain rfl := Except.ok.inj accepted
      exact ⟨[], rfl, by simp, .nil⟩
    · cases accepted

/-- A record behind another section is accounted for by its own lines. -/
theorem accounted_of_chosen_database :
    ∃ (text : String) (es : List Entry), read 1 (splitLines text) = .ok es
      ∧ es.map (fun e => (e.user, e.sql, e.line)) = [("a[b]", "select 1", 9)]
      ∧ Accounted 1 (linesOf text) es := by
  let lines := ["Argument", "# Time: 1", "# User@Host: c", "# Time: 2",
    "# User@Host: a[b] @ h [10.0.0.1]  Id: 4",
    "# Query_time: 1.5  Lock_time: 0 Rows_sent: 0  Rows_examined: 0", "use db;",
    "SET timestamp=1;", "select /* all */1"]
  have entries : (run ⟨.between, 1, []⟩ (lines.drop 1)).toOption.map
      (List.map fun e => (e.user, e.sql, e.line)) = some [("a[b]", "select 1", 9)] := by
    decide +kernel
  obtain ⟨text, -, same⟩ := @exists_text lines (by decide +kernel) (by simp)
  obtain ⟨es, found, shown⟩ := toOption_map_eq_some_iff.1 entries
  have accepted : read 1 (splitLines text) = .ok es := by
    rw [read_eq_run, same]
    exact found
  exact ⟨text, es, accepted, shown, accounted_of_read accepted⟩

end QueryFlow.Log.SlowLog
