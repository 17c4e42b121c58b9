import QueryFlow.Fault
import QueryFlow.Sql.Dialect
import QueryFlow.Text.Blank

/-!
# Settings

What an analysis can be told: how it reports on itself, what it reads, how it counts, and where its
report goes. Settings are records of plain values, and nothing keeps them from being senseless: a
dialect is a name, and a width may be zero. Sensible settings are those that `validate` lets pass,
and the conditions are looked at in a fixed order, so that of several flaws the first one is named.

The number of workers that is usual depends on the machine, so it is a parameter of the usual
settings.

## Main statement

* `validate_eq_ok_iff`: the conditions that sensible settings meet, without the order in which they
  are looked at.
-/

namespace QueryFlow

/-- The form of a log. -/
inductive LogFormat
  /-- Records of several lines, as a server writes of slow queries. -/
  | slow
  /-- One query a line. -/
  | history
deriving DecidableEq, Repr

/-- The name of a form. -/
def LogFormat.name : LogFormat → String
  | slow => "slowlog"
  | history => "history"

/-- The form of a name. -/
def LogFormat.ofName? (name : String) : Option LogFormat :=
  if name = "slowlog" then some .slow else if name = "history" then some .history else none

/-- **A form is found under its name.** -/
theorem LogFormat.ofName?_name (f : LogFormat) : ofName? f.name = some f := by
  cases f <;> decide

/-- How the program reports on itself. -/
structure JournalSettings where
  /-- Whether the journal also goes to the console. -/
  toConsole : Bool
  /-- The directory of the journal. -/
  directory : String
  /-- The least important entries that are kept. -/
  level : String
deriving DecidableEq, Repr

/-- What the program reads. -/
structure SourceSettings where
  /-- The number of lines before the first record of a slow log. -/
  headerLines : Nat
  /-- The name of the dialect of the statements. -/
  dialect : String
  format : LogFormat
deriving DecidableEq, Repr

/-- How the program counts. -/
structure AnalysisSettings where
  /-- The width of a time slice, in seconds. -/
  sliceWidth : Nat
  /-- How many workers classify statements. -/
  workers : Nat
  /-- How many of the longest queries are listed. -/
  longest : Nat
deriving DecidableEq, Repr

/-- The settings of the program. -/
structure Settings where
  journal : JournalSettings
  source : SourceSettings
  analysis : AnalysisSettings
  /-- Where the report goes. -/
  reportPath : String
deriving DecidableEq, Repr

namespace Settings

/-- The usual settings of a machine that runs a number of workers. -/
def usual (workers : Nat) : Settings :=
  { journal := ⟨true, "logs", "info"⟩
    source := ⟨3, "mysql", .slow⟩
    analysis := ⟨60, workers, 20⟩
    reportPath := "" }

/-- The levels of a journal. -/
def levels : List String := ["trace", "debug", "info", "warn", "error"]

/-- The greatest width of a time slice, in seconds: the seconds of a leap year. -/
def maxSliceWidth : Nat := 366 * 24 * 3600

/-- Why the settings are refused, if they are: the first of the conditions that they do not meet. -/
def flaw? (s : Settings) : Option SettingsCause :=
  if !levels.contains s.journal.level then some (.unknownLevel s.journal.level)
  else if (Sql.Dialect.ofName? s.source.dialect).isNone then
    some (.unknownDialect s.source.dialect)
  else if s.analysis.sliceWidth = 0 then some .zeroWidth
  else if maxSliceWidth < s.analysis.sliceWidth then
    some (.widthAbove maxSliceWidth s.analysis.sliceWidth)
  else if s.analysis.workers = 0 then some .noThreads
  else none

/-- Lets sensible settings pass. -/
def validate (s : Settings) : Except Fault Unit :=
  match s.flaw? with
  | some cause => .error (.settings cause)
  | none => .ok ()

/-- Where the report goes, unless none is wanted. -/
def report? (s : Settings) : Option String :=
  let path := Text.trim s.reportPath
  if path.isEmpty then none else some path

/-- **Settings are sensible if their level and their dialect are known, slices are neither empty nor
wider than a leap year, and there is a worker.** -/
theorem validate_eq_ok_iff {s : Settings} :
    s.validate = .ok () ↔
      s.journal.level ∈ levels ∧ (∃ d, Sql.Dialect.ofName? s.source.dialect = some d)
        ∧ 0 < s.analysis.sliceWidth ∧ s.analysis.sliceWidth ≤ maxSliceWidth
        ∧ 0 < s.analysis.workers := by
  unfold validate flaw?
  by_cases level : s.journal.level ∈ levels
  · cases dialect : Sql.Dialect.ofName? s.source.dialect with
    | none => simp [level]
    | some d =>
      by_cases zero : s.analysis.sliceWidth = 0
      · simp [level, zero]
      · by_cases wide : maxSliceWidth < s.analysis.sliceWidth
        · simp [level, zero, wide, Nat.not_le_of_lt wide]
        · by_cases idle : s.analysis.workers = 0
          · simp [level, zero, wide, idle]
          · simp [level, zero, wide, idle, Nat.pos_of_ne_zero zero, Nat.le_of_not_lt wide,
              Nat.pos_of_ne_zero idle]
  · simp [level]

end Settings

end QueryFlow
