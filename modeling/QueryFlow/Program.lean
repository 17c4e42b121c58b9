import QueryFlow.Analysis.Report
import QueryFlow.CommandLine
import QueryFlow.Disk.Files
import QueryFlow.Settings.Text

/-!
# The program

The program reads its settings, prepares the directory of its journal, analyses a log, says what it
found, and writes a report if the settings name a place for it. It talks to a disk and to a console,
both of which are records of requests in some monad, so nothing here depends on what answers them.

## Steps and failures

A step of the program may fail, and a failure is told by what was being done and by its causes, from
the outside in. `orFail` turns a fault into a failure of the step that it came up in; a step that
comes after a failed one is not made. A log that is not there is no failure: it is said, and nothing
is analysed.

`run` is the whole program on the words of a command line, and its ending has an exit code. A text
on the usage that was wanted ends the program as well as an analysis does; one that was not is a
failure of its own kind.
-/

namespace QueryFlow

/-- What the program says things to. -/
structure Console (m : Type → Type) where
  /-- Says a line. -/
  say : String → m Unit
  /-- How long the program has been running. -/
  elapsed : m String

/-- Why the program ended early: what happened, and its causes from the outside in. -/
structure Failure where
  /-- What was being done, or the fault itself. -/
  what : String
  /-- Why it could not be done, from the outside in. -/
  causes : List String
deriving DecidableEq

namespace Failure

/-- The causes of a fault itself. -/
def causesOf : Fault → List String
  | .io cause => [cause.message]
  | .settingsText reason => [reason]
  | .settingsOutput reason => [reason]
  | .report reason => [reason]
  | _ => []

/-- The failure that a fault is. -/
def ofFault (f : Fault) : Failure := ⟨f.message, causesOf f⟩

/-- The failure of an activity that a fault has ended. -/
def during (activity : String) (f : Fault) : Failure := ⟨activity, f.message :: causesOf f⟩

/-- A text of which all lines but the first start with a margin, so that causes of several lines
stand out. -/
def indent (margin : String) (text : String) : String :=
  String.ofList (text.toList.flatMap fun c => if c = '\n' then '\n' :: margin.toList else [c])

/-- A number in a column of five characters. -/
def column (n : Nat) : String :=
  let digits := Decimal.natDigits n
  String.ofList (List.replicate (5 - digits.length) ' ' ++ digits)

/-- The causes, each on a line of its own. More than one are numbered. -/
def causesText : List String → String
  | [] => ""
  | [cause] => "\n    " ++ indent "    " cause
  | causes =>
    String.join (causes.zipIdx.map fun (cause, n) =>
      "\n" ++ column n ++ ": " ++ indent "       " cause)

/-- The words in which a failure is told. -/
def text (f : Failure) : String :=
  "Error: " ++ f.what
    ++ (if f.causes.isEmpty then "" else "\n\nCaused by:" ++ causesText f.causes) ++ "\n"

end Failure

namespace Program

variable {m : Type → Type} [Monad m]

/-- The number of workers that is usual, if the settings name none. -/
def usualWorkers : Nat := 4

/-- Reads settings from a file. -/
def readSettings (files : Files m) (workers : Nat) (path : String) : m (Except Fault Settings) := do
  match ← files.read path with
  | .error cause => return .error (.io cause)
  | .ok bytes => return Settings.ofBytes workers bytes

/-- Writes settings to a file. -/
def writeSettings (files : Files m) (s : Settings) (path : String) : m (Except Fault Unit) := do
  match s.text with
  | .error fault => return .error fault
  | .ok text =>
    match ← files.write path text with
    | .error cause => return .error (.io cause)
    | .ok () => return .ok ()

/-- Reads the entries of a log from a file, and analyses them. -/
def analyzeFile (files : Files m) (a : Analyzer) (path : String) (format : LogFormat) :
    m (Except Fault Analysis) := do
  match ← files.read path with
  | .error cause => return .error (.io cause)
  | .ok bytes => return a.analyzeLines format (Log.splitByteLines bytes)

/-- Writes the report on an analysis to a file. -/
def writeReport (files : Files m) (a : Analysis) (path : String) : m (Except Fault Unit) := do
  match ← files.writeInto path a.report with
  | .error cause => return .error (.io cause)
  | .ok () => return .ok ()

/-- A step of the program, which may fail. -/
abbrev Step (m : Type → Type) := ExceptT Failure m

/-- A step that fails in the words of `failure`. -/
def orFail {α : Type} (failure : Fault → Failure) (step : m (Except Fault α)) : Step m α :=
  ExceptT.mk do return (← step).mapError failure

/-- The settings that the arguments name, or the usual ones if they name none. -/
def settingsOf (files : Files m) (args : Arguments) : Step m Settings :=
  match args.settings with
  | none => return .usual usualWorkers
  | some path =>
    orFail (Failure.during ("加载配置失败: " ++ path)) (readSettings files usualWorkers path)

/-- Makes the directory of the journal. -/
def prepareJournal (files : Files m) (s : Settings) : Step m Unit :=
  orFail Failure.ofFault do
    return (← files.makeDirectories s.journal.directory).mapError Fault.io

/-- Analyses a log that is there, and says what was found. -/
def analyze (files : Files m) (console : Console m) (s : Settings) (args : Arguments) :
    Step m Unit := do
  let analyzer ← orFail Failure.ofFault (pure (Analyzer.ofSettings s))
  let analysis ← orFail (Failure.during ("分析失败: " ++ args.log))
    (analyzeFile files analyzer args.log (args.format s.source.format))
  for line in analysis.summary do console.say line
  console.say ("总耗时: " ++ (← console.elapsed))
  match s.report? with
  | none => return
  | some path =>
    orFail (Failure.during ("JSON导出失败: " ++ path)) (writeReport files analysis path)
    console.say ("结果已导出到: " ++ path)

/-- Does what the arguments ask for: settings and journal first, then the log if it is there. -/
def carryOut (files : Files m) (console : Console m) (args : Arguments) : Step m Unit := do
  let s ← settingsOf files args
  prepareJournal files s
  if ← files.isThere args.log then analyze files console s args
  else console.say ("日志文件不存在: " ++ args.log)

/-- A number of hundredths as a decimal number with two places. -/
def hundredths (n : Nat) : String :=
  let places := Decimal.natDigits (n % 100)
  String.ofList (Decimal.natDigits (n / 100) ++ '.'
    :: (List.replicate (2 - places.length) '0' ++ places))

/-- A number of nanoseconds in the greatest unit of which there is one, with two places. -/
def elapsedText (nanoseconds : Nat) : String :=
  if 1000000000 ≤ nanoseconds then hundredths (nanoseconds / 10000000) ++ "s"
  else if 1000000 ≤ nanoseconds then hundredths (nanoseconds / 10000) ++ "ms"
  else if 1000 ≤ nanoseconds then hundredths (nanoseconds / 10) ++ "µs"
  else hundredths (nanoseconds * 100) ++ "ns"

/-- How the program ends. -/
inductive Ending
  | done
  | failed (failure : Failure)
  | usage (u : Usage)
deriving DecidableEq

/-- The exit code of an ending. -/
def Ending.code : Ending → Nat
  | done => 0
  | failed _ => 1
  | usage u => if u.isWish then 0 else 2

/-- Runs the program on the words of a command line. -/
def run (files : Files m) (console : Console m) (words : List String) : m Ending := do
  match CommandLine.parse words with
  | .error u => return .usage u
  | .ok args =>
    match ← (carryOut files console args).run with
    | .ok () => return .done
    | .error failure => return .failed failure

end Program

end QueryFlow
