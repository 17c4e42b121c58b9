import QueryFlow.Proofs.Log.Replay

/-!
# How a slow log is read

Reading a slow log is *watched*: beside its result there is the list of all uses of the cursor, also
of those before a fault. Watching changes nothing of the result. The only ways to use the cursor are
`take` and `putBack`, which note what they do; everything else is put together from them as in the
reading that is not watched.

## Watching changes nothing

The watched reader is written again, function by function, in a monad that gathers the uses. The
result of a composed work is the composition of the results (`result_bind`), so that each function
of the watched reader has the result of its counterpart, from the inside out. Where the reader is
recursive, so is the watched one, with the same measure; that its recursion is allowed is known from
the result of the part before it, which is why `bindWith` hands on a proof beside the value.

## Reading in order

A line is put back in two places, each time right after it was taken: a line that chooses no
database, and a line that is looked at to find out whether it starts a record. Both have the shape
of `runs_take_bind`, which asks that what follows on a taken line either goes on behind it or begins
by putting it back. A work of two parts is orderly if both parts are and no line is put back at the
beginning of the second, which is the case as every part that puts a line back has taken it itself.
So reading uses its cursor in an orderly way, whatever the log holds and wherever the reading ends.

## Reading to the end

A reading that has a result has met the end of the lines with its last use. This is shown from the
level of sections down, since only there and in the header does the reader stop without a fault.

## Main results

* `result_read`: watching changes nothing of the result.
* `runs_read`: reading uses its cursor in an orderly way.
* `ends_read`: a log that is read is read to its end.
* `cursor_replays`: lines that are put back are neither lost nor repeated nor miscounted, and there
  is always room for them.
-/

namespace QueryFlow.Log

open QueryFlow.Text

/-- Work with a cursor that is watched: the uses of the cursor, and what comes of the work. The uses
are known even when the work fails. -/
structure Watched (α : Type) where
  uses : List Use
  result : Except Fault α

namespace Watched

variable {α β : Type}

/-- Work that goes on with what is known of the first part: its value, and that it is the value. The
second part may be a recursive call that this proof allows. -/
def bindWith (x : Watched α) (f : ∀ a, x.result = .ok a → Watched β) : Watched β :=
  match same : x.result with
  | .error fault => ⟨x.uses, .error fault⟩
  | .ok a => ⟨x.uses ++ (f a same).uses, (f a same).result⟩

instance : Monad Watched where
  pure a := ⟨[], .ok a⟩
  bind x f := x.bindWith fun a _ => f a

theorem bindWith_eq (x : Watched α) (f : α → Watched β) :
    (x.bindWith fun a _ => f a) = x >>= f := rfl

theorem bind_pure (x : Watched α) : x >>= pure = x := by
  obtain ⟨uses, fault | a⟩ := x
  · rfl
  · exact congrArg (Watched.mk · _) (List.append_nil uses)

@[simp] theorem result_pure (a : α) : (pure a : Watched α).result = .ok a := rfl

@[simp] theorem result_bind (x : Watched α) (f : α → Watched β) :
    (x >>= f).result = x.result >>= fun a => (f a).result := by
  rw [← bindWith_eq, bindWith]
  split
  · next failed => rw [failed, error_bind]
  · next done => rw [done, ok_bind]

/-! ### Reading that is watched -/

/-- Work that fails without using the cursor. The uses of the parts before it are kept. -/
def fail (fault : Fault) : Watched α := ⟨[], .error fault⟩

/-- Takes the next line, and notes whether there was one, and which. -/
def take (c : Cursor) : Watched (Option String × Cursor) :=
  match c.next with
  | (.error cause, _) => ⟨[.failed cause], .error (.io cause)⟩
  | (.ok none, c) => ⟨[.ended], .ok (none, c)⟩
  | (.ok (some line), c) => ⟨[.took line], .ok (some line, c)⟩

/-- Puts back a line, and notes which line it was. -/
def putBack (line : String) (c : Cursor) : Watched Cursor := ⟨[.gave line], c.putBack line⟩

/-- Takes a line that must be there. -/
def required (expected : RequiredLine) (c : Cursor) : Watched (String × Cursor) := do
  match ← take c with
  | (none, c) => fail (.format (c.number + 1) "<EOF>" expected)
  | (some line, c) => pure (line, c)

/-- Takes a line and reads it. A line of another form is a fault at its own number. -/
def requiredForm (expected : RequiredLine) (form : String → Option α) (c : Cursor) :
    Watched (α × Cursor) := do
  let (line, c) ← required expected c
  match form line with
  | none => fail (.format c.number line expected)
  | some found => pure (found, c)

/-- Passes over a line that chooses a database, if there is one. -/
def skipUse (c : Cursor) : Watched Cursor := do
  match ← take c with
  | (none, c) => pure c
  | (some line, c) => if isUse line then pure c else putBack line c

/-- Reads one record, line by line, up to its query. -/
def readRecord (c : Cursor) : Watched (Entry × Cursor) := do
  let (caller, c) ← requiredForm .userHeader caller? c
  let (measures, c) ← requiredForm .queryMetadata SlowLog.measures? c
  let c ← skipUse c
  let (start, c) ← requiredForm .setStatement SlowLog.timestamp? c
  let (line, c) ← required .sqlText c
  pure ({ start := some start
          user := caller.user
          host := caller.host
          address := caller.address
          connection := caller.connection
          queryTime := measures.queryTime
          lockTime := measures.lockTime
          rowsSent := measures.rowsSent
          rowsExamined := measures.rowsExamined
          sql := stripInlineComments line
          line := c.number }, c)

/-- Reads a record if one comes next; any other line is put back. -/
def readRecord? (c : Cursor) : Watched (Option Entry × Cursor) := do
  match ← take c with
  | (none, c) => pure (none, c)
  | (some line, c) =>
    let c ← putBack line c
    if isRecord line then
      let (entry, c) ← readRecord c
      pure (some entry, c)
    else pure (none, c)

/-! ### Watching changes nothing -/

theorem result_take (c : Cursor) : (take c).result = c.take := by
  rw [take, Cursor.take]
  rcases c.next with ⟨cause | line, c₁⟩
  · rfl
  · cases line <;> rfl

theorem result_required (expected : RequiredLine) (c : Cursor) :
    (required expected c).result = SlowLog.required expected c := by
  rw [required, SlowLog.required, result_bind, result_take]
  rcases c.take with fault | ⟨line, c₁⟩
  · rfl
  · cases line <;> rfl

theorem result_requiredForm (expected : RequiredLine) (form : String → Option α) (c : Cursor) :
    (requiredForm expected form c).result = SlowLog.requiredForm expected form c := by
  rw [requiredForm, SlowLog.requiredForm, result_bind, result_required]
  rcases SlowLog.required expected c with fault | ⟨line, c₁⟩
  · rfl
  · simp only [ok_bind]
    cases form line <;> rfl

theorem result_skipUse (c : Cursor) : (skipUse c).result = SlowLog.skipUse c := by
  rw [skipUse, SlowLog.skipUse, result_bind, result_take]
  rcases c.take with fault | ⟨line, c₁⟩
  · rfl
  cases line with
  | none => rfl
  | some line =>
      simp only [ok_bind]
      split <;> rfl

theorem result_readRecord (c : Cursor) : (readRecord c).result = SlowLog.readRecord c := by
  simp only [readRecord, SlowLog.readRecord, result_bind, result_requiredForm, result_skipUse,
    result_required]
  rfl

theorem result_readRecord? (c : Cursor) : (readRecord? c).result = SlowLog.readRecord? c := by
  rw [readRecord?, SlowLog.readRecord?, result_bind, result_take]
  rcases c.take with fault | ⟨line, c₁⟩
  · rfl
  cases line with
  | none => rfl
  | some line =>
      simp only [ok_bind, result_bind, putBack]
      rcases c₁.putBack line with fault | c₂
      · rfl
      simp only [ok_bind]
      split
      · rw [result_bind, result_readRecord]
        rcases SlowLog.readRecord c₂ with fault | ⟨entry, c₃⟩ <;> rfl
      · rfl

/-! ### Sections and whole logs -/

/-- Reads the records that follow each other, up to a line that starts none, which is put back. -/
def readRecords (c : Cursor) : Watched (List Entry × Cursor) :=
  (readRecord? c).bindWith fun
    | (none, c), _ => pure ([], c)
    | (some entry, c₁), step => do
      have := (SlowLog.readRecord?_left (result_readRecord? c ▸ step)).2 rfl
      let (entries, c₂) ← readRecords c₁
      pure (entry :: entries, c₂)
termination_by c.left

theorem readRecords_eq (c : Cursor) :
    readRecords c = (do
      match ← readRecord? c with
      | (none, c) => pure ([], c)
      | (some entry, c₁) =>
        let (entries, c₂) ← readRecords c₁
        pure (entry :: entries, c₂)) := by
  rw [readRecords, ← bindWith_eq]
  congr 1
  funext ⟨found, c₁⟩ step
  cases found <;> rfl

theorem result_readRecords (c : Cursor) : (readRecords c).result = SlowLog.readRecords c := by
  induction length : c.left using Nat.strongRecOn generalizing c with
  | ind _ ih =>
    subst length
    rw [readRecords_eq, SlowLog.readRecords_eq, result_bind, result_readRecord?]
    rcases step : SlowLog.readRecord? c with fault | ⟨found, c₁⟩
    · rfl
    cases found with
    | none => rfl
    | some entry =>
        have less := (SlowLog.readRecord?_left step).2 rfl
        simp only [ok_bind, result_bind, ih c₁.left less c₁ rfl]
        rfl

/-- Reads all sections to the end of the lines. Lines that start no section are passed over. -/
def readSections (c : Cursor) : Watched (List Entry) :=
  (take c).bindWith fun
    | (none, _), _ => pure []
    | (some line, c₁), taken =>
      have := (Cursor.take_left (result_take c ▸ taken)).1
      if isSection line then
        (readRecords c₁).bindWith fun
          | (entries, c₂), records => do
            have := SlowLog.readRecords_left (result_readRecords c₁ ▸ records)
            let more ← readSections c₂
            pure (entries.filter (fun e => !isDiagnostic e.sql) ++ more)
      else readSections c₁
termination_by c.left

theorem readSections_eq (c : Cursor) :
    readSections c = (do
      match ← take c with
      | (none, _) => pure []
      | (some line, c₁) =>
        if isSection line then
          let (entries, c₂) ← readRecords c₁
          let more ← readSections c₂
          pure (entries.filter (fun e => !isDiagnostic e.sql) ++ more)
        else readSections c₁) := by
  rw [readSections, ← bindWith_eq]
  congr 1
  funext ⟨found, c₁⟩ taken
  cases found <;> rfl

theorem result_readSections (c : Cursor) :
    (readSections c).result = SlowLog.readSections c := by
  induction length : c.left using Nat.strongRecOn generalizing c with
  | ind _ ih =>
    subst length
    rw [readSections_eq, SlowLog.readSections_eq_bind, result_bind, result_take]
    rcases taken : c.take with fault | ⟨found, c₁⟩
    · rfl
    cases found with
    | none => rfl
    | some line =>
        have one := (Cursor.take_left taken).1
        simp only [ok_bind]
        split
        · rw [result_bind, result_readRecords]
          rcases records : SlowLog.readRecords c₁ with fault | ⟨entries, c₂⟩
          · rfl
          · have := SlowLog.readRecords_left records
            simp only [ok_bind, result_bind, ih c₂.left (by omega) c₂ rfl]
            rfl
        · exact ih c₁.left (by omega) c₁ rfl

/-- Takes the lines of the header. -/
def takeHeader : (count : Nat) → (last : Option String) → Cursor →
    Watched (Nat × Option String × Cursor)
  | 0, last, c => pure (0, last, c)
  | count + 1, last, c => do
    match ← take c with
    | (none, c) => pure (count + 1, last, c)
    | (some line, c) => takeHeader count (some line) c

theorem result_takeHeader (count : Nat) (last : Option String) (c : Cursor) :
    (takeHeader count last c).result = SlowLog.takeHeader count last c := by
  induction count generalizing last c with
  | zero => rfl
  | succ count ih =>
      rw [takeHeader, SlowLog.takeHeader, result_bind, result_take]
      rcases c.take with fault | ⟨found, c₁⟩
      · rfl
      cases found with
      | none => rfl
      | some line => exact ih (some line) c₁

/-- Reads a log with a header of so many lines. -/
def read (headerLines : Nat) (lines : List PhysicalLine) : Watched (List Entry) := do
  let (missing, last, c) ← takeHeader headerLines none (Cursor.start lines)
  if missing == 0 then readSections c
  else if last.any SlowLog.saysNone then pure []
  else fail (.shortHeader (headerLines - missing))

/-- **Watching changes nothing of the result.** -/
theorem result_read (headerLines : Nat) (lines : List PhysicalLine) :
    (read headerLines lines).result = SlowLog.read headerLines lines := by
  rw [read, SlowLog.read, SlowLog.readFrom, result_bind, result_takeHeader]
  rcases SlowLog.takeHeader headerLines none (Cursor.start lines) with fault | ⟨missing, last, c⟩
  · rfl
  simp only [ok_bind]
  split
  · exact result_readSections c
  · split <;> rfl

/-! ### Uses in order -/

/-- Work uses a cursor in an orderly way, and ends with it at a place that fits its result. It never
finds a line waiting where it puts one back. -/
structure Runs (x : Watched α) (c : Cursor) (stop : α → Cursor → Prop) : Prop where
  orderly : Orderly x.uses
  run : ∃ c', Run c x.uses c' ∧ ∀ a, x.result = .ok a → stop a c'
  free : x.result ≠ .error (.breach .lineWaiting)

/-- The work ends with the cursor that it gives: after its uses the cursor stands where the value
says. -/
abbrev Gives (found : α × Cursor) (c' : Cursor) : Prop := found.2 = c'

variable {x : Watched α} {f : α → Watched β} {c : Cursor}

theorem runs_pure {a : α} {stop : α → Cursor → Prop} (here : stop a c) :
    (pure a : Watched α).Runs c stop where
  orderly := orderly_nil
  run := ⟨c, rfl, fun b same => Except.ok.inj same ▸ here⟩
  free := by simp

theorem runs_fail {fault : Fault} {stop : α → Cursor → Prop}
    (other : fault ≠ .breach .lineWaiting) : (fail fault : Watched α).Runs c stop where
  orderly := orderly_nil
  run := ⟨c, rfl, by simp [fail]⟩
  free := by simpa [fail] using other

/-- **Work in two parts uses its cursor in an orderly way** if both of them do. -/
theorem Runs.bind {mid : α → Cursor → Prop} {stop : β → Cursor → Prop} (first : x.Runs c mid)
    (next : ∀ a c₁, x.result = .ok a → mid a c₁ → (f a).Runs c₁ stop) :
    (x >>= f).Runs c stop := by
  obtain ⟨c₁, run, ends⟩ := first.run
  have free := first.free
  rw [← bindWith_eq, bindWith]
  split
  · next fault failed =>
    rw [failed] at free
    exact ⟨first.orderly, ⟨c₁, run, by simp⟩, by simpa using free⟩
  · next a done =>
    obtain ⟨orderly, ⟨c₂, run', ends'⟩, free'⟩ := next a c₁ done (ends a done)
    exact ⟨first.orderly.append orderly, ⟨c₂, run_append.2 ⟨c₁, run, run'⟩, ends'⟩, free'⟩

/-- A cursor may be used in any way other than putting back a line. -/
theorem runs_of_step {u : Use} {c₁ : Cursor} {result : Except Fault α} {stop : α → Cursor → Prop}
    (step : Step c u c₁) (other : ∀ line, u ≠ .gave line)
    (ends : ∀ a, result = .ok a → stop a c₁) (free : result ≠ .error (.breach .lineWaiting)) :
    Runs ⟨[u], result⟩ c stop :=
  ⟨orderly_singleton other, ⟨c₁, run_singleton.2 step, ends⟩, free⟩

/-- There is room for the line that was taken just before. -/
theorem runs_of_returned {line : String} {c₁ c₂ : Cursor} (took : Step c (.took line) c₁)
    (returned : c₁.putBack line = .ok c₂) :
    Runs ⟨[.took line, .gave line], .ok c₂⟩ c fun a c' => a = c' :=
  ⟨orderly_pair line, ⟨c₂, ⟨c₁, took, c₂, returned, rfl⟩, fun _ same => (Except.ok.inj same).symm⟩,
    by simp⟩

/-- **Work that takes a line goes on behind it, or puts it back first**: either way it uses its
cursor in an orderly way. -/
theorem runs_take_bind {f : Option String × Cursor → Watched β} {stop : β → Cursor → Prop}
    (atEnd : ∀ c₁, (f (none, c₁)).Runs c₁ stop)
    (onLine : ∀ line c₁, c.take = .ok (some line, c₁) → (f (some line, c₁)).Runs c₁ stop
      ∨ ∃ g, f (some line, c₁) = putBack line c₁ >>= g ∧ ∀ c₂, (g c₂).Runs c₂ stop) :
    (take c >>= f).Runs c stop := by
  rcases next : c.next with ⟨cause | found, c₁⟩
  · have failed : (take c).Runs c fun _ _ => False := by
      rw [take, next]
      exact runs_of_step next (by simp) (by simp) (by simp)
    exact failed.bind fun _ _ _ never => never.elim
  cases found with
  | none =>
      have ended : (take c).Runs c fun a c' => a = (none, c') := by
        rw [take, next]
        exact runs_of_step next (by simp) (by simp) (by simp)
      exact ended.bind fun a c₂ _ same => same ▸ atEnd c₂
  | some line =>
      have taken : c.take = .ok (some line, c₁) := Cursor.take_eq_ok_iff.2 next
      rcases onLine line c₁ taken with goesOn | ⟨g, returns, goesOn⟩
      · have took : (take c).Runs c fun a c' => a = (some line, c') ∧ c' = c₁ := by
          rw [take, next]
          exact runs_of_step next (by simp) (by simp) (by simp)
        exact took.bind fun a c₂ _ ⟨same, here⟩ => same ▸ here ▸ goesOn
      · -- behind a line that was just taken no line is waiting
        obtain ⟨c₂, returned⟩ : ∃ c₂, c₁.putBack line = .ok c₂ := by
          rw [Cursor.putBack, (Cursor.take_left taken).2]
          exact ⟨_, rfl⟩
        have both : take c >>= f = (⟨[.took line, .gave line], .ok c₂⟩ : Watched Cursor) >>= g := by
          rw [take, next]
          change Watched.mk (.took line :: (f (some line, c₁)).uses) (f (some line, c₁)).result = _
          rw [returns, putBack, returned]
          rfl
        rw [both]
        exact (runs_of_returned next returned).bind fun a c₃ _ same => same ▸ goesOn a

/-! ### Reading in order -/

theorem runs_required (expected : RequiredLine) (c : Cursor) :
    (required expected c).Runs c Gives :=
  runs_take_bind (fun _ => runs_fail (by simp)) fun _ _ _ => .inl (runs_pure rfl)

theorem runs_requiredForm (expected : RequiredLine) (form : String → Option α) (c : Cursor) :
    (requiredForm expected form c).Runs c Gives := by
  refine (runs_required expected c).bind fun ⟨line, c₁⟩ _ _ same => ?_
  obtain rfl := same
  change Runs (match form line with | none => _ | some found => _) _ _
  cases form line with
  | none => exact runs_fail (by simp)
  | some found => exact runs_pure rfl

/-- A line that chooses no database is put back right after it was taken. -/
theorem runs_skipUse (c : Cursor) : (skipUse c).Runs c fun a c' => a = c' := by
  refine runs_take_bind (fun _ => runs_pure rfl) fun line c₁ _ => ?_
  cases chooses : isUse line with
  | true => exact .inl (by simpa [chooses] using runs_pure rfl)
  | false => exact .inr ⟨pure, by simp [chooses, bind_pure], fun _ => runs_pure rfl⟩

theorem runs_readRecord (c : Cursor) : (readRecord c).Runs c Gives := by
  refine (runs_requiredForm .userHeader _ c).bind fun ⟨caller, c₁⟩ _ _ same => ?_
  obtain rfl := same
  refine (runs_requiredForm .queryMetadata _ _).bind fun ⟨measures, c₂⟩ _ _ same => ?_
  obtain rfl := same
  refine (runs_skipUse _).bind fun c₃ _ _ same => ?_
  obtain rfl := same
  refine (runs_requiredForm .setStatement _ _).bind fun ⟨start, c₄⟩ _ _ same => ?_
  obtain rfl := same
  refine (runs_required .sqlText _).bind fun ⟨line, c₅⟩ _ _ same => ?_
  obtain rfl := same
  exact runs_pure rfl

/-- A line is looked at and put back before a record is read. -/
theorem runs_readRecord? (c : Cursor) : (readRecord? c).Runs c Gives := by
  refine runs_take_bind (fun _ => runs_pure rfl) fun line c₁ _ => .inr ⟨_, rfl, fun c₂ => ?_⟩
  split
  · refine (runs_readRecord c₂).bind fun ⟨entry, c₃⟩ _ _ same => ?_
    obtain rfl := same
    exact runs_pure rfl
  · exact runs_pure rfl

theorem runs_readRecords (c : Cursor) : (readRecords c).Runs c Gives := by
  induction length : c.left using Nat.strongRecOn generalizing c with
  | ind _ ih =>
    subst length
    rw [readRecords_eq]
    refine (runs_readRecord? c).bind fun ⟨found, c₁⟩ _ done same => ?_
    obtain rfl := same
    rw [result_readRecord?] at done
    cases found with
    | none => exact runs_pure rfl
    | some entry =>
        have less := (SlowLog.readRecord?_left done).2 rfl
        refine (ih c₁.left less c₁ rfl).bind fun ⟨entries, c₂⟩ _ _ same => ?_
        obtain rfl := same
        exact runs_pure rfl

theorem runs_readSections (c : Cursor) : (readSections c).Runs c fun _ _ => True := by
  induction length : c.left using Nat.strongRecOn generalizing c with
  | ind _ ih =>
    subst length
    rw [readSections_eq]
    refine runs_take_bind (fun _ => runs_pure trivial) fun line c₁ taken => .inl ?_
    have one := (Cursor.take_left taken).1
    change Runs (if isSection line then _ else readSections c₁) _ _
    split
    · refine (runs_readRecords c₁).bind fun ⟨entries, c₂⟩ _ done same => ?_
      obtain rfl := same
      rw [result_readRecords] at done
      have fewer := SlowLog.readRecords_left done
      exact (ih c₂.left (by omega) c₂ rfl).bind fun _ _ _ _ => runs_pure trivial
    · exact ih c₁.left (by omega) c₁ rfl

theorem runs_takeHeader (count : Nat) (last : Option String) (c : Cursor) :
    (takeHeader count last c).Runs c fun found c' => found.2.2 = c' := by
  induction count generalizing last c with
  | zero => exact runs_pure rfl
  | succ count ih =>
      exact runs_take_bind (fun _ => runs_pure rfl) fun line c₁ _ => .inl (ih (some line) c₁)

/-- **Reading uses its cursor in an orderly way**, whatever the log holds and wherever the reading
ends. -/
theorem runs_read (headerLines : Nat) (lines : List PhysicalLine) :
    (read headerLines lines).Runs (Cursor.start lines) fun _ _ => True := by
  refine (runs_takeHeader headerLines none _).bind fun ⟨missing, last, c⟩ _ _ same => ?_
  obtain rfl := same
  change Runs (if missing == 0 then readSections c else _) _ _
  split
  · exact runs_readSections c
  · split
    · exact runs_pure trivial
    · exact runs_fail (by simp)

/-! ### Reading to the end -/

/-- Work that has a result has met the end of the lines last. -/
def Ends (x : Watched α) : Prop := ∀ a, x.result = .ok a → ∃ before, x.uses = before ++ [.ended]

theorem uses_bind (f : α → Watched β) {a : α} (done : x.result = .ok a) :
    (x >>= f).uses = x.uses ++ (f a).uses := by
  obtain ⟨uses, result⟩ := x
  cases done
  rfl

/-- Work whose second part meets the end last does so itself. -/
theorem Ends.bind (next : ∀ a, x.result = .ok a → (f a).Ends) : (x >>= f).Ends := by
  intro b finished
  rw [result_bind] at finished
  obtain ⟨a, done, finished⟩ := bind_eq_ok_iff.1 finished
  obtain ⟨before, last⟩ := next a done b finished
  exact ⟨x.uses ++ before, by rw [uses_bind f done, last, List.append_assoc]⟩

/-- Nothing is used for what is made of a result. -/
theorem Ends.map (ends : x.Ends) (g : α → β) : (x >>= fun a => pure (g a)).Ends := by
  intro b finished
  rw [result_bind] at finished
  obtain ⟨a, done, -⟩ := bind_eq_ok_iff.1 finished
  obtain ⟨before, last⟩ := ends a done
  exact ⟨before, by rw [uses_bind _ done, last]; exact List.append_nil _⟩

theorem uses_take_none {c₁ : Cursor} (ended : (take c).result = .ok (none, c₁)) :
    (take c).uses = [.ended] := by
  rw [take] at ended ⊢
  split at ended
  · cases ended
  · rfl
  · cases ended

/-- All sections are read when the lines end. By induction on the number of lines that are left. -/
theorem ends_readSections (c : Cursor) : (readSections c).Ends := by
  induction length : c.left using Nat.strongRecOn generalizing c with
  | ind _ ih =>
    subst length
    rw [readSections_eq]
    rcases taken : (take c).result with fault | ⟨found, c₁⟩
    · intro es finished
      rw [result_bind, taken] at finished
      cases finished
    cases found with
    | none =>
        intro es finished
        exact ⟨[], by rw [uses_bind _ taken, uses_take_none taken]; rfl⟩
    | some line =>
        have one := (Cursor.take_left (result_take c ▸ taken)).1
        refine Ends.bind fun a same => ?_
        obtain rfl := Except.ok.inj (taken.symm.trans same)
        change Ends (if isSection line then _ else readSections c₁)
        split
        · refine Ends.bind fun ⟨entries, c₂⟩ records => ?_
          have fewer := SlowLog.readRecords_left (result_readRecords c₁ ▸ records)
          exact (ih c₂.left (by omega) c₂ rfl).map _
        · exact ih c₁.left (by omega) c₁ rfl

/-- Lines of a header are missing only if the lines end. -/
theorem ends_takeHeader {count missing : Nat} {last last' : Option String} {c c' : Cursor}
    (done : (takeHeader count last c).result = .ok (missing, last', c')) :
    missing = 0 ∨ ∃ before, (takeHeader count last c).uses = before ++ [.ended] := by
  induction count generalizing last c with
  | zero => exact .inl (Prod.mk.inj (Except.ok.inj done)).1.symm
  | succ count ih =>
      rw [takeHeader, result_bind] at done
      obtain ⟨⟨found, c₁⟩, taken, done⟩ := bind_eq_ok_iff.1 done
      rw [takeHeader, uses_bind _ taken]
      cases found with
      | none => exact .inr ⟨[], by rw [uses_take_none taken]; rfl⟩
      | some line =>
          refine (ih done).imp_right fun ⟨before, final⟩ => ⟨(take c).uses ++ before, ?_⟩
          rw [List.append_assoc, ← final]

/-- **A log that is read is read to its end.** -/
theorem ends_read (headerLines : Nat) (lines : List PhysicalLine) :
    (read headerLines lines).Ends := by
  intro es finished
  rw [read, result_bind] at finished
  obtain ⟨⟨missing, last, c⟩, header, finished⟩ := bind_eq_ok_iff.1 finished
  rw [read, uses_bind _ header]
  dsimp only at finished ⊢
  split at finished
  · next complete =>
    rw [if_pos complete]
    obtain ⟨before, final⟩ := ends_readSections c es finished
    exact ⟨_, by rw [final, ← List.append_assoc]⟩
  · next short =>
    rw [if_neg short]
    rcases ends_takeHeader header with rfl | ⟨before, final⟩
    · exact absurd rfl short
    split at finished
    · next none =>
      rw [if_pos none]
      exact ⟨before, by rw [final]; exact List.append_nil _⟩
    · cases finished

end Watched

/-- **Lines that are put back are neither lost nor repeated nor miscounted**: an orderly run over
the bytes of a text takes the lines of that text. Reading a slow log is such a run over any stream,
to its end if there is no fault, so there is always room for the lines that it puts back. -/
theorem cursor_replays :
    (∀ bytes text, String.fromUTF8? bytes = some text → ∃ lines, HasLines text lines
      ∧ ∀ us c, Run (Cursor.start (splitByteLines bytes)) us c → Orderly us →
          Faithful lines us c)
    ∧ ∀ headerLines lines,
        (Watched.read headerLines lines).result = SlowLog.read headerLines lines
        ∧ Orderly (Watched.read headerLines lines).uses
        ∧ (∃ c, Run (Cursor.start lines) (Watched.read headerLines lines).uses c)
        ∧ (∀ before line behind,
            (Watched.read headerLines lines).uses = before ++ .gave line :: behind →
              ∃ c, Run (Cursor.start lines) before c ∧ c.held = none)
        ∧ (∀ es, SlowLog.read headerLines lines = .ok es →
            ∃ before, (Watched.read headerLines lines).uses = before ++ [.ended])
        ∧ SlowLog.read headerLines lines ≠ .error (.breach .lineWaiting) := by
  constructor
  · intro bytes text read
    obtain rfl := fromUTF8?_eq_some_iff.1 read
    refine ⟨linesOf text, hasLines_linesOf text, fun us c run orderly => run.faithful orderly ?_⟩
    rw [splitByteLines_toUTF8]
    exact Cursor.stands_start text
  · intro headerLines lines
    obtain ⟨orderly, ⟨c, run, -⟩, free⟩ := Watched.runs_read headerLines lines
    have same := Watched.result_read headerLines lines
    refine ⟨same, orderly, ⟨c, run⟩, ?_, fun es read => ?_, same ▸ free⟩
    · intro before line behind uses
      obtain ⟨c₁, first, c₂, gave, -⟩ := run_append.1 (uses ▸ run)
      exact ⟨c₁, first, Cursor.held_of_gave gave⟩
    · exact Watched.ends_read headerLines lines es (same.trans read)

/-- A line that was put back comes again, and a line behind a marker is looked at before it is
passed over. -/
theorem cursor_replays_of_two_lines :
    (∃ c, Run (Cursor.start (splitByteLines "first\r\nsecond".toUTF8))
        [.took "first", .gave "first", .took "first", .took "second", .ended] c
      ∧ Faithful ["first", "second"]
        [.took "first", .gave "first", .took "first", .took "second", .ended] c)
    ∧ (Watched.read 0 [some "# Time: 1\n", some "x"]).uses
        = [.took "# Time: 1", .took "x", .gave "x", .took "x", .ended]
    ∧ ∃ c, Run (Cursor.start [some "# Time: 1\n", some "x"]) [.took "# Time: 1", .took "x"] c
      ∧ c.held = none := by
  have uses : (Watched.read 0 [some "# Time: 1\n", some "x"]).uses
      = [.took "# Time: 1", .took "x", .gave "x", .took "x", .ended] := by
    decide +kernel
  obtain ⟨-, -, -, free, -⟩ := cursor_replays.2 0 [some "# Time: 1\n", some "x"]
  refine ⟨?_, uses, free [.took "# Time: 1", .took "x"] "x" [.took "x", .ended] uses⟩
  obtain ⟨found, has, faithful⟩ :=
    cursor_replays.1 _ "first\r\nsecond" (fromUTF8?_eq_some_iff.2 rfl)
  obtain rfl : found = ["first", "second"] := has.eq_linesOf.trans (by decide +kernel)
  have lines : splitByteLines "first\r\nsecond".toUTF8 = [some "first\r\n", some "second"] := by
    decide +kernel
  have first : trimLineEnd "first\r\n" = "first" := by decide +kernel
  have second : trimLineEnd "second" = "second" := by decide +kernel
  have run : Run (Cursor.start (splitByteLines "first\r\nsecond".toUTF8))
      [.took "first", .gave "first", .took "first", .took "second", .ended] ⟨[], none, 2⟩ := by
    rw [lines]
    refine ⟨⟨[some "second"], none, 1⟩, ?_, ⟨[some "second"], some "first", 0⟩, rfl,
      ⟨[some "second"], none, 1⟩, rfl, ⟨[], none, 2⟩, ?_, ⟨[], none, 2⟩, rfl, rfl⟩
    · simp [Step, Cursor.start, Cursor.next, first]
    · simp [Step, Cursor.next, second]
  have orderly : Orderly [.took "first", .gave "first", .took "first", .took "second", .ended] :=
    (orderly_pair "first").append ((orderly_singleton (by simp)).append
      ((orderly_singleton (by simp)).append (orderly_singleton (by simp))))
  exact ⟨_, run, faithful _ _ run orderly⟩

end QueryFlow.Log
