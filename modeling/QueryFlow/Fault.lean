import QueryFlow.Json.Flaw
import QueryFlow.NameSet

/-!
# Faults

Everything that can stop an analysis, by its cause; `Fault.message` is the one place where the
wording stands.

A fault in the structure of a log ends the reading of that log. A fault in the text of one statement
only concerns its record, which is counted and left out. A *breach* is none of these: it is a
promise between two parts of the program that was not kept.

Causes are data and not texts: a fault knows the line, the column, the form that was expected or the
tables of a cycle, and is turned into words at the very end. What is asked of faults, to which group
one belongs or which tables it names, is asked of this data. A cyclic dependency keeps its cycles
one by one, and its tables are a view of them.

A breach ends the work at the place where it happens. The parts that may break a promise say so by
their result, so that it can be stated and proved where none is broken.

Main statements: `mem_cyclicTables` and `pairwise_cyclicTables`, the tables of a cyclic dependency
are those of its cycles, each once and in order.
-/

namespace QueryFlow

open QueryFlow.Decimal

/-- What the outside world answers to a request that it refuses. The refusals of a place are told
apart; any other one is kept in the words it came in. -/
inductive IoFault
  /-- The bytes read are no text. -/
  | notText
  /-- There is no such file. -/
  | notFound
  /-- The name is taken. -/
  | taken
  /-- A name on the way is not a directory. -/
  | notDirectory
  /-- The name is a directory. -/
  | isDirectory
  /-- Any other refusal, in the words of the outside world. -/
  | refused (reason : String)
deriving DecidableEq

/-- The wording of a refusal. -/
def IoFault.message : IoFault → String
  | .notText => "stream did not contain valid UTF-8"
  | .notFound => "No such file or directory (os error 2)"
  | .taken => "File exists (os error 17)"
  | .notDirectory => "Not a directory (os error 20)"
  | .isDirectory => "Is a directory (os error 21)"
  | .refused reason => reason

/-- The lines that a record of a slow log must have. A line that chooses a database is none of them,
since it may be missing. -/
inductive RequiredLine
  | userHeader
  | queryMetadata
  | setStatement
  | sqlText
deriving DecidableEq, Repr

/-- The name of a required line. -/
def RequiredLine.name : RequiredLine → String
  | .userHeader => "User Header"
  | .queryMetadata => "Query Metadata"
  | .setStatement => "Set Statement"
  | .sqlText => "SQL Text"

/-- Why a statement could not be understood. -/
inductive SyntaxCause
  /-- The text holds no statement. -/
  | noStatement
  /-- What is to be unloaded is no query. -/
  | notAQuery (text : String)
  /-- The grammar refuses the text, in these words. -/
  | refused (words : String)
deriving DecidableEq

/-- The wording of a syntax fault. -/
def SyntaxCause.message : SyntaxCause → String
  | .noStatement => "SQL 文本中没有语句"
  | .notAQuery text => "UNLOAD 内层不是查询: " ++ text
  | .refused words => words

/-- Why a line of a query history could not be used. -/
inductive HistoryCause
  /-- The line is no row. -/
  | row (text : String) (flaw : Json.Flaw)
  /-- A time stamp cannot be read. -/
  | timestamp (value : String)
  /-- The query ends before it starts. -/
  | reversed (finish start : String)
deriving DecidableEq

/-- The wording of a fault in a query history. -/
def HistoryCause.message : HistoryCause → String
  | .row text flaw => flaw.message text.utf8ByteSize
  | .timestamp value => "无法解析时间戳: " ++ value
  | .reversed finish start => "结束时间早于开始时间: " ++ finish ++ " < " ++ start

/-- Why an argument was refused. -/
inductive InputCause
  /-- The width of a time slice, in whole milliseconds, is not positive. -/
  | widthNotPositive (milliseconds : Int)
  /-- The width of a time slice, in seconds, is more than a span can count. -/
  | widthTooLarge (seconds : Nat)
  /-- Any other reason. -/
  | other (reason : String)
deriving DecidableEq

/-- The wording of a refused argument. -/
def InputCause.message : InputCause → String
  | .widthNotPositive ms => "直方图桶宽必须为正: " ++ intText ms ++ "ms"
  | .widthTooLarge s => "直方图桶宽过大: " ++ intText s ++ "s"
  | .other reason => reason

/-- Why settings were refused. -/
inductive SettingsCause
  | unknownLevel (name : String)
  | unknownDialect (name : String)
  | zeroWidth
  | widthAbove (limit width : Nat)
  | noThreads
deriving DecidableEq

/-- The wording of refused settings. -/
def SettingsCause.message : SettingsCause → String
  | .unknownLevel name => "无效的日志级别: " ++ name
  | .unknownDialect name => "不支持的 SQL 方言: " ++ name
  | .zeroWidth => "直方图桶宽不能为0"
  | .widthAbove limit width => "直方图桶宽不能超过 " ++ intText limit ++ "s: " ++ intText width
  | .noThreads => "线程数不能为0"

/-- A promise between two parts of the program that was not kept, with what is known of the place.
The first four concern the cursor over a log and the division of work, the others the slices of a
timeline. -/
inductive Breach
  /-- A line was put back while another one waited. -/
  | lineWaiting
  /-- A number was to be held between bounds that are not in order. -/
  | boundsReversed
  /-- A number was to be divided by zero. -/
  | zeroDivisor
  /-- A list was to be cut into parts of length zero. -/
  | zeroLength
  /-- The first time slice of a query lies behind the end of its last one. -/
  | slicesReversed (first last : Nat)
  /-- A time slice would start after the last instant. -/
  | sliceUnnamed (index : Nat)
deriving DecidableEq

/-- The wording of a breach. -/
def Breach.message : Breach → String
  | .lineWaiting => "回退槽已被占用"
  | .boundsReversed => "assertion failed: min <= max"
  | .zeroDivisor => "attempt to divide by zero"
  | .zeroLength => "chunk size must be non-zero"
  | .slicesReversed first last =>
    "slice index starts at " ++ intText first ++ " but ends at " ++ intText last
  | .sliceUnnamed index => "slice " ++ intText index ++ " starts after the last instant"

/-- What can stop an analysis. -/
inductive Fault
  | io (cause : IoFault)
  /-- The log ends inside its header. -/
  | shortHeader (linesRead : Nat)
  /-- A required line of a record is missing or does not have its form. -/
  | format (line : Nat) (content : String) (expected : RequiredLine)
  | sqlSyntax (cause : SyntaxCause) (line column : Nat)
  /-- Tables depend on each other in cycles. -/
  | cyclic (cycles : List (List String))
  | history (line : Nat) (cause : HistoryCause)
  | invalidInput (cause : InputCause)
  | settings (cause : SettingsCause)
  /-- The settings are not written in their format. -/
  | settingsText (reason : String)
  /-- The settings cannot be written in their format. -/
  | settingsOutput (reason : String)
  /-- The report cannot be written. -/
  | report (reason : String)
  | breach (cause : Breach)
deriving DecidableEq

namespace Fault

/-- The cycles as a message lists them. -/
def cyclesText (cycles : List (List String)) : String :=
  String.intercalate "; " (cycles.map fun c => "\x7b" ++ String.intercalate ", " c ++ "\x7d")

/-- The wording of a fault. -/
def message : Fault → String
  | io cause => "IO错误: " ++ cause.message
  | shortHeader n => "慢查询日志文件头不完整: 仅读取到 " ++ intText n ++ " 行"
  | format line content expected =>
    "格式错误 (行" ++ intText line ++ "): 未匹配" ++ expected.name ++ "模式: '" ++ content ++ "'"
  | sqlSyntax cause line column =>
    "SQL语法错误 (行" ++ intText line ++ ", 列" ++ intText column ++ "): " ++ cause.message
  | cyclic cycles => "血缘图存在循环依赖: " ++ cyclesText cycles
  | history line cause => "查询历史解析错误 (行" ++ intText line ++ "): " ++ cause.message
  | invalidInput cause => "参数错误: " ++ cause.message
  | settings cause => "配置错误: " ++ cause.message
  | settingsText reason => "TOML解析错误: " ++ reason
  | settingsOutput reason => "TOML序列化错误: " ++ reason
  | report reason => "JSON错误: " ++ reason
  | breach cause => cause.message

/-- The fault concerns a request to the outside world. -/
def isIo : Fault → Bool
  | io _ => true
  | _ => false

/-- The fault concerns a required line of a log. -/
def isFormat : Fault → Bool
  | format .. => true
  | _ => false

/-- The fault concerns the header of a log. -/
def isHeader : Fault → Bool
  | shortHeader _ => true
  | _ => false

/-- The fault concerns the text of a statement. -/
def isSyntax : Fault → Bool
  | sqlSyntax .. => true
  | _ => false

/-- The fault is a cyclic dependency. -/
def isCyclic : Fault → Bool
  | cyclic _ => true
  | _ => false

/-- The fault concerns the values of the settings. -/
def isSettings : Fault → Bool
  | settings _ => true
  | _ => false

/-- The tables of a cyclic dependency, each once and in order. -/
def cyclicTables : Fault → List String
  | cyclic cycles => (NameSet.ofList cycles.flatten).toList
  | _ => []

/-- **The tables of a cyclic dependency are those of its cycles.** -/
theorem mem_cyclicTables {x : String} {cycles : List (List String)} :
    x ∈ (cyclic cycles).cyclicTables ↔ ∃ c ∈ cycles, x ∈ c := by
  simp [cyclicTables]

/-- **The tables of a cyclic dependency are listed in order, each once.** -/
theorem pairwise_cyclicTables (f : Fault) : f.cyclicTables.Pairwise (· < ·) := by
  cases f with
  | cyclic cycles => exact (NameSet.ofList cycles.flatten).sorted
  | _ => exact .nil

end Fault

end QueryFlow
