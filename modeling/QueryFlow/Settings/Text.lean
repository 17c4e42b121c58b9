import QueryFlow.Settings.Basic
import QueryFlow.Toml.Document

/-!
# The text of settings

Settings are written as a TOML text of four sections. A section or a setting that is missing keeps
its usual value, and keys that name no setting are passed over. A section may also be given as a
list of its first values, in the order in which they are written.

* `Settings.ofText` — the settings of a text, if they are sensible;
* `Settings.text` — the text of settings. Numbers above those that TOML knows have none.

## One setting

Every setting is looked up in the same way, by `setting?`: it has its usual value where its key is
missing, and otherwise the value under the key must be of the right kind. A section is looked up
like a setting whose kind is a table, so the sections of a text and the settings of a section are
read by one function. The settings that have been read must pass `validate`, whatever they were read
from.

Writing is the other way round and has no choices: every setting is written, also where it is usual.
That settings that were written are read back is proved in `Proofs.Settings.Saved`.
-/

namespace QueryFlow

open Toml

namespace Settings

/-! ### Reading -/

/-- The fields of a section, which has these keys. -/
def sectionFields? (keys : List String) : Value → Option Table
  | .table fields => some fields
  | .list items => some (keys.zip items)
  | _ => none

/-- A setting, which is usual where it is missing. A value of another kind is no setting at all. -/
def setting? {α : Type} (ofValue? : Value → Option α) (name : String) (usual : α) (fields : Table) :
    Option α :=
  match field? name fields with
  | none => some usual
  | some v => ofValue? v

/-- A text. -/
def textOf? : Value → Option String
  | .text s => some s
  | _ => none

/-- A truth value. -/
def truthOf? : Value → Option Bool
  | .boolean b => some b
  | _ => none

/-- A number that is not negative. -/
def numberOf? : Value → Option Nat
  | .integer n => if 0 ≤ n then some n.toNat else none
  | _ => none

/-- Nothing is in the value. -/
def isHollow : Value → Bool
  | .list items => items.isEmpty
  | .table fields => fields.isEmpty
  | _ => false

/-- The form of a log, by its name, or as the only key of a table that holds nothing else. -/
def formatOf? : Value → Option LogFormat
  | .text s => LogFormat.ofName? s
  | .table [(name, v)] => if isHollow v then LogFormat.ofName? name else none
  | _ => none

/-- The keys of the section on the journal. -/
def journalKeys : List String := ["enable_stdout", "log_dir", "level"]

/-- The keys of the section on what is read. -/
def sourceKeys : List String := ["header_lines", "dialect", "format"]

/-- The keys of the section on how to count. -/
def analysisKeys : List String := ["bucket_width_secs", "thread_count", "long_query_limit"]

/-- The keys of the section on the report. -/
def reportKeys : List String := ["json_out_path"]

/-- The settings of a section on the journal. -/
def journalOf? (usual : JournalSettings) (v : Value) : Option JournalSettings := do
  let fields ← sectionFields? journalKeys v
  let toConsole ← setting? truthOf? "enable_stdout" usual.toConsole fields
  let directory ← setting? textOf? "log_dir" usual.directory fields
  let level ← setting? textOf? "level" usual.level fields
  return ⟨toConsole, directory, level⟩

/-- The settings of a section on what is read. -/
def sourceOf? (usual : SourceSettings) (v : Value) : Option SourceSettings := do
  let fields ← sectionFields? sourceKeys v
  let headerLines ← setting? numberOf? "header_lines" usual.headerLines fields
  let dialect ← setting? textOf? "dialect" usual.dialect fields
  let format ← setting? formatOf? "format" usual.format fields
  return ⟨headerLines, dialect, format⟩

/-- The settings of a section on how to count. -/
def analysisOf? (usual : AnalysisSettings) (v : Value) : Option AnalysisSettings := do
  let fields ← sectionFields? analysisKeys v
  let sliceWidth ← setting? numberOf? "bucket_width_secs" usual.sliceWidth fields
  let workers ← setting? numberOf? "thread_count" usual.workers fields
  let longest ← setting? numberOf? "long_query_limit" usual.longest fields
  return ⟨sliceWidth, workers, longest⟩

/-- The path of the report, of the section on it. -/
def reportPathOf? (usual : String) (v : Value) : Option String := do
  let fields ← sectionFields? reportKeys v
  setting? textOf? "json_out_path" usual fields

/-- The settings of a table, on a machine that runs a number of workers. The sections are looked up
like settings. -/
def ofTable? (workers : Nat) (fields : Table) : Option Settings := do
  let u := usual workers
  let journal ← setting? (journalOf? u.journal) "log" u.journal fields
  let source ← setting? (sourceOf? u.source) "sqllog" u.source fields
  let analysis ← setting? (analysisOf? u.analysis) "analysis" u.analysis fields
  let reportPath ← setting? (reportPathOf? u.reportPath) "export" u.reportPath fields
  return ⟨journal, source, analysis, reportPath⟩

/-- The settings of a text, on a machine that runs a number of workers. -/
def ofText (workers : Nat) (text : String) : Except Fault Settings := do
  match Document.read? text with
  | none => throw (.settingsText "the text is no table of TOML")
  | some fields =>
    match ofTable? workers fields with
    | none => throw (.settingsText "a setting has a value of another kind")
    | some s =>
      s.validate
      return s

/-- The settings of the bytes of a file. -/
def ofBytes (workers : Nat) (bytes : ByteArray) : Except Fault Settings :=
  match String.fromUTF8? bytes with
  | some text => ofText workers text
  | none => .error (.io .notText)

/-! ### Writing -/

/-- A number as a value. -/
def number (n : Nat) : Value := .integer n

/-- The sections of settings, each of them with all of its settings. -/
def sections (s : Settings) : List (String × Table) :=
  [("log", [("enable_stdout", .boolean s.journal.toConsole), ("log_dir", .text s.journal.directory),
      ("level", .text s.journal.level)]),
    ("sqllog", [("header_lines", number s.source.headerLines), ("dialect", .text s.source.dialect),
      ("format", .text s.source.format.name)]),
    ("analysis", [("bucket_width_secs", number s.analysis.sliceWidth),
      ("thread_count", number s.analysis.workers),
      ("long_query_limit", number s.analysis.longest)]),
    ("export", [("json_out_path", .text s.reportPath)])]

/-- The text of settings. -/
def text (s : Settings) : Except Fault String :=
  match Document.write? s.sections with
  | some text => .ok text
  | none => .error (.settingsOutput "a number takes more than 64 bits with its sign")

end Settings

end QueryFlow
