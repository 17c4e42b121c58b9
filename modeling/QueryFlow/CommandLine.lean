import QueryFlow.Settings.Basic

/-!
# The command line

The program takes the log that it analyses, the file of its settings behind `-c` or `--config`, and
`--history` if the log has one query a line. `-h`, `--help`, `-V` and `--version` ask for a text
instead. Behind `--` every word is a log.

## Pending words

Words are read from left to right, by a machine whose state is `Progress`. A word that belongs to
something begun before it is *pending* until the next word shows that it is complete, and only then
its value is looked at. So a word that nothing can be made of is reported before a fault in the
value of a pending one, and a text that is wanted comes before anything that is missing. Nothing is
taken twice: a second value, or a second log, ends the reading.

What the machine is left with says what the program is to do, `Arguments`, or why it does nothing,
`Usage`. The words for the latter are `Usage.message`, and only a text that was wanted is no
failure.
-/

namespace QueryFlow

/-- What the program is asked to do. -/
structure Arguments where
  /-- The path of the log that is analysed. -/
  log : String
  /-- The path of the file of settings, if one is named. -/
  settings : Option String
  /-- The log has one query a line. -/
  isHistory : Bool
deriving DecidableEq, Repr

/-- The form of the log: the command line wins over the settings. -/
def Arguments.format (a : Arguments) (usual : LogFormat) : LogFormat :=
  if a.isHistory then .history else usual

/-- Why a command line asks for no analysis. -/
inductive Usage
  /-- A text on the usage is wanted. -/
  | help
  /-- The version is wanted. -/
  | version
  /-- Nothing can be made of a word. -/
  | unknownWord (word : String)
  /-- A value is missing or empty. -/
  | badValue (name : String)
  /-- A value is given where none is taken. -/
  | needlessValue (name : String)
  /-- Something is given twice. -/
  | repeated (name : String)
  /-- No log is given. -/
  | noLog
deriving DecidableEq, Repr

namespace CommandLine

/-- What takes a value: the log, and what stands behind a flag for the settings. -/
inductive Slot
  | log
  | settings
deriving DecidableEq, Repr

/-- The name of what takes a value. -/
def Slot.name : Slot → String
  | log => "<LOG_FILE>"
  | settings => "--config <CONFIG>"

/-- What has been read so far. -/
structure Progress where
  log : Option String
  settings : Option String
  isHistory : Bool
  /-- What was begun last, with its value if it has one yet. -/
  pending : Option (Slot × Option String)
  /-- A log has been given. -/
  hasLog : Bool
  /-- The next word is the value of what was begun last, unless it starts with a dash. -/
  isAwaiting : Bool
deriving DecidableEq, Repr

/-- Nothing has been read. -/
def Progress.start : Progress := ⟨none, none, false, none, false, false⟩

namespace Progress

/-- Gives something its value, which it may not have already and which may not be empty. -/
def give (p : Progress) (slot : Slot) (value : Option String) : Except Usage Progress :=
  match slot, value with
  | slot, none => .error (.badValue slot.name)
  | .log, some text =>
    if p.log.isSome then .error (.repeated slot.name)
    else if text.isEmpty then .error (.badValue slot.name)
    else .ok { p with log := some text }
  | .settings, some text =>
    if p.settings.isSome then .error (.repeated slot.name)
    else if text.isEmpty then .error (.badValue slot.name)
    else .ok { p with settings := some text }

/-- Looks at what was begun last: it is complete now, and its value counts. -/
def settle (p : Progress) : Except Usage Progress :=
  match p.pending with
  | none => .ok p
  | some (slot, value) => { p with pending := none }.give slot value

/-- Begins something whose value follows. -/
def await (p : Progress) (slot : Slot) : Except Usage Progress := do
  let p ← p.settle
  return { p with pending := some (slot, none), isAwaiting := true }

/-- Gives something a value that stands in the same word. -/
def attach (p : Progress) (slot : Slot) (value : String) : Except Usage Progress := do
  let p ← p.settle
  let p ← p.give slot (some value)
  return { p with isAwaiting := false }

/-- Ends the reading for a text that is wanted, once what is pending has turned out well. -/
def ask (p : Progress) (wanted : Usage) : Except Usage Progress := do
  let _ ← p.settle
  throw wanted

/-- The log is one of queries, one a line. -/
def history (p : Progress) : Except Usage Progress := do
  let p ← p.settle
  if p.isHistory then throw (.repeated "--history")
  return { p with isHistory := true, isAwaiting := false }

/-- Reads a word behind two dashes, whose value may stand in the same word behind an equals sign. -/
def long (p : Progress) (word : String) (name : List Char) (value : Option (List Char)) :
    Except Usage Progress :=
  if name = "config".toList then
    match value with
    | some value => p.attach .settings (String.ofList value)
    | none => p.await .settings
  else if name = "history".toList then
    if value.isSome then .error (.needlessValue "--history") else p.history
  else if name = "help".toList then
    if value.isSome then .error (.needlessValue "--help") else p.ask .help
  else if name = "version".toList then
    if value.isSome then .error (.needlessValue "--version") else p.ask .version
  else .error (.unknownWord word)

/-- Reads the letters behind one dash. A value may stand directly behind its letter. -/
def short (p : Progress) (word : String) : List Char → Except Usage Progress
  | ['c'] => p.await .settings
  | 'c' :: '=' :: value => p.attach .settings (String.ofList value)
  | 'c' :: value => p.attach .settings (String.ofList value)
  | 'h' :: _ => p.ask .help
  | 'V' :: _ => p.ask .version
  | _ => .error (.unknownWord word)

/-- Reads a word that is a value: of what was begun last, or the log. -/
def plain (p : Progress) (word : String) : Except Usage Progress :=
  if p.isAwaiting then
    .ok { p with pending := p.pending.map fun (slot, _) => (slot, some word), isAwaiting := false }
  else if p.hasLog then .error (.unknownWord word)
  else do
    let p ← p.settle
    return { p with pending := some (.log, some word), hasLog := true }

/-- Reads a word. -/
def word (p : Progress) (w : String) : Except Usage Progress :=
  match w.toList with
  | '-' :: '-' :: rest =>
    let name := rest.takeWhile (· != '=')
    let value := if rest.contains '=' then some ((rest.dropWhile (· != '=')).drop 1) else none
    p.long w name value
  | ['-'] => p.plain w
  | '-' :: rest => p.short w rest
  | _ => p.plain w

/-- What the words ask for that have been read. -/
def finish (p : Progress) : Except Usage Arguments := do
  let p ← p.settle
  match p.log with
  | some log => return ⟨log, p.settings, p.isHistory⟩
  | none => throw .noLog

end Progress

/-- Reads words behind `--`. -/
def parseLogs (p : Progress) : List String → Except Usage Progress
  | [] => .ok p
  | w :: words => do
    let p ← p.plain w
    parseLogs p words

/-- Reads words. -/
def parseWords (p : Progress) : List String → Except Usage Progress
  | [] => .ok p
  | w :: words =>
    if w = "--" then parseLogs { p with isAwaiting := false } words
    else do
      let p ← p.word w
      parseWords p words

/-- Reads a command line. -/
def parse (words : List String) : Except Usage Arguments := do
  (← parseWords .start words).finish

end CommandLine

/-- The text on the usage. -/
def usageText : String :=
  "Usage: queryflow [OPTIONS] <LOG_FILE>\n\n"
    ++ "Arguments:\n  <LOG_FILE>  待分析的日志文件\n\n"
    ++ "Options:\n"
    ++ "  -c, --config <CONFIG>  配置文件路径，缺省时使用默认配置\n"
    ++ "      --history          输入为查询历史（JSON Lines）而不是慢查询日志\n"
    ++ "  -h, --help             Print help\n"
    ++ "  -V, --version          Print version\n"

/-- The version of the program. -/
def versionText : String := "queryflow 0.1.0\n"

/-- What is said to a command line that asks for no analysis. -/
def Usage.message : Usage → String
  | help => usageText
  | version => versionText
  | unknownWord word => "error: unexpected argument '" ++ word ++ "' found\n\n" ++ usageText
  | badValue name => "error: a value is required for '" ++ name ++ "'\n\n" ++ usageText
  | needlessValue name => "error: no value is taken by '" ++ name ++ "'\n\n" ++ usageText
  | repeated name => "error: '" ++ name ++ "' cannot be used multiple times\n\n" ++ usageText
  | noLog => "error: '<LOG_FILE>' is required\n\n" ++ usageText

/-- A text was wanted, and nothing is wrong. -/
def Usage.isWish : Usage → Bool
  | help => true
  | version => true
  | _ => false

end QueryFlow
