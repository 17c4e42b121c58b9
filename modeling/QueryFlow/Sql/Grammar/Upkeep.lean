import QueryFlow.Sql.Grammar.Query

/-!
# Upkeep

Statements for those who run a database: caches, extensions, attached databases, comments on
objects, messages between sessions, and checks. As with the statements about sessions, only that
they are well formed is kept of them.

Which of them there are depends on the dialect, so `upkeep?` takes it beside the first keyword. A
keyword that starts no such statement in a dialect is left to whatever else it may start.
-/

namespace QueryFlow.Sql.Grammar

open Parse

variable (r : Rules)

/-! ### Caches -/

/-- The query that fills a cache. -/
def cachedQuery : Parse Unit := do
  match ← peek with
  | none => return
  | some (.word ..) =>
    let _ ← options r "OPTIONS"
    match ← peek with
    | none => return
    | some (.word ..) =>
      let _ ← acceptWord "AS"
      let _ ← r.query
    | some _ => expected "a QUERY statement"
  | some _ => expected "a QUERY statement"

/-- A cached table behind `CACHE`. -/
def cacheTable : Parse Statement := do
  unless ← acceptWord "TABLE" do
    let start ← get
    let _ ← objectName
    unless ← acceptWord "TABLE" do
      let rest ← get
      if rest.isEmpty then
        set (start.drop (start.length - 1))
      expected "a TABLE keyword"
  let _ ← objectName
  cachedQuery r
  return .other "CACHE"

/-- A table that is cached no more, behind `UNCACHE`. -/
def uncacheTable : Parse Statement := do
  expectWord "TABLE"
  let _ ← acceptWords ["IF", "EXISTS"]
  let _ ← objectName
  return .other "UNCACHE"

/-- What is written out behind `FLUSH TABLES`. -/
def flushedTables : Parse Unit := do
  let _ ← many do
    let start ← get
    match (← take).map Lexeme.token with
    | some (.word text quote spelling) =>
      if quote.isNone && spelling == "WITH" then
        let _ ← acceptWords ["READ", "LOCK"]
      else if quote.isNone && spelling == "FOR" then
        let _ ← acceptWord "EXPORT"
      else if quote.isSome || !Keyword.isKnown (Keyword.spelling text) then
        set start
        let _ ← commas objectName
      return some ()
    | _ => return none

/-- What is written out behind `FLUSH`. -/
def flush : Parse Statement := do
  unless ← has Dialect.hasMySqlPhrases do refuseHere "Unsupported statement FLUSH"
  let _ ← acceptOneOf ["NO_WRITE_TO_BINLOG", "LOCAL"]
  match ← acceptPhrase [["BINARY", "LOGS"], ["ENGINE", "LOGS"], ["ERROR", "LOGS"],
    ["GENERAL", "LOGS"], ["HOSTS"], ["PRIVILEGES"], ["OPTIMIZER_COSTS"], ["RELAY", "LOGS"],
    ["SLOW", "LOGS"], ["STATUS"], ["USER_RESOURCES"], ["LOGS"], ["TABLES"]] with
  | some ["RELAY", "LOGS"] =>
    if ← acceptWords ["FOR", "CHANNEL"] then
      let _ ← objectName
  | some ["TABLES"] => flushedTables
  | some _ => pure ()
  | none => expected "what is flushed"
  return .other "FLUSH"

/-! ### Files, extensions and databases -/

/-- Data or an extension that is loaded, behind `LOAD`. -/
def load : Parse Statement := do
  if ← isIn [.duckdb, .generic, .postgres] then
    let _ ← ident
  else if ← both (acceptWord "DATA") (isIn [.hive]) then
    let _ ← acceptWord "LOCAL"
    expectWord "INPATH"
    let _ ← literalText
    let _ ← acceptWord "OVERWRITE"
    expectWords ["INTO", "TABLE"]
    let _ ← objectName
    if ← acceptWord "PARTITION" then
      let _ ← bracketed (expressions r)
    if ← acceptWord "INPUTFORMAT" then
      let _ ← expression r
      expectWord "SERDE"
      let _ ← expression r
  else expected "DATA or an extension name after LOAD"
  return .other "LOAD"

/-- A database that is attached, behind `ATTACH`. -/
def attach : Parse Statement := do
  let _ ← acceptWord "DATABASE"
  let _ ← expression r
  expectWord "AS"
  let _ ← ident
  return .other "ATTACH"

/-- A database that is detached, behind `DETACH`. -/
def detach : Parse Statement := do
  if ← acceptWord "DATABASE" then
    let _ ← acceptWords ["IF", "EXISTS"]
  let _ ← ident
  return .other "DETACH"

/-- A table whose files are put in order, behind `OPTIMIZE`. -/
def optimize : Parse Statement := do
  expectWord "TABLE"
  let _ ← objectName
  if ← acceptWords ["ON", "CLUSTER"] then
    let _ ← ident
  if ← acceptWord "PARTITION" then
    if ← acceptWord "ID" then
      let _ ← ident
    else
      let _ ← expression r
  let _ ← acceptWord "FINAL"
  if ← acceptWord "DEDUPLICATE" then
    let _ ← behind r "BY"
  return .other "OPTIMIZE"

/-- A repair of the partitions of a table, behind `MSCK`. -/
def repair : Parse Statement := do
  let _ ← acceptWord "REPAIR"
  expectWord "TABLE"
  let _ ← objectName
  let _ ← acceptOneOf ["ADD", "DROP", "SYNC"]
  let _ ← acceptWord "PARTITIONS"
  return .other "MSCK"

/-- New names of tables, behind `RENAME`. -/
def rename : Parse Statement := do
  unless ← acceptWord "TABLE" do expected "KEYWORD TABLE after RENAME"
  let _ ← commas do
    let _ ← objectName
    expectWord "TO"
    objectName
  return .other "RENAME"

/-! ### Notes, messages and settings -/

/-- A comment on an object, behind `COMMENT`. -/
def comment : Parse Statement := do
  let _ ← acceptWords ["IF", "EXISTS"]
  expectWord "ON"
  let found ← take
  let isKind (l : Lexeme) : Bool :=
    ["COLUMN", "DATABASE", "DOMAIN", "EXTENSION", "FUNCTION", "INDEX", "MATERIALIZED", "PROCEDURE",
      "ROLE", "SCHEMA", "SEQUENCE", "TABLE", "TYPE", "USER", "VIEW"].any l.token.isKeyword
  unless found.any isKind do unexpected "comment object_type" found
  if found.any fun l => l.token.isKeyword "MATERIALIZED" then expectWord "VIEW"
  let _ ← objectName
  expectWord "IS"
  unless ← acceptWord "NULL" do
    let _ ← literalText
  return .other "COMMENT"

/-- A channel that is not listened to any more, behind `UNLISTEN`. -/
def unlisten : Parse Statement := do
  unless ← accept "*" do
    let start ← get
    match ← outcome ident with
    | .ok _ => pure ()
    | .error _ =>
      set start
      expected "wildcard or identifier"
  return .other "UNLISTEN"

/-- A message to those who listen to a channel, behind `NOTIFY`. -/
def notify : Parse Statement := do
  let _ ← ident
  if ← accept "," then
    let _ ← literalText
  return .other "NOTIFY"

/-- A setting of the server, behind `PRAGMA`. -/
def pragma : Parse Statement := do
  let _ ← objectName
  if ← accept "(" then
    let _ ← value
    expect ")"
  else if ← accept "=" then
    let _ ← value
  return .other "PRAGMA"

/-- The statement for upkeep behind its first keyword, if the keyword starts one in the dialect. -/
def upkeep? (d : Dialect) (word : String) : Option (Parse Statement) :=
  let named : Parse Statement := do
    let _ ← ident
    return .other word
  let listens := d.isOneOf [.postgres, .generic]
  match word with
  | "CACHE" => some (cacheTable r)
  | "UNCACHE" => some uncacheTable
  | "FLUSH" => some flush
  | "LOAD" => some (load r)
  | "ATTACH" => some (attach r)
  | "DETACH" => if d.isOneOf [.duckdb, .generic] then some detach else none
  | "INSTALL" => if d.isOneOf [.duckdb, .generic] then some named else none
  | "OPTIMIZE" => if d.hasColumnStore then some (optimize r) else none
  | "MSCK" => some repair
  | "RENAME" => some rename
  | "COMMENT" => if d.isOneOf [.postgres, .generic, .snowflake] then some comment else none
  | "LISTEN" => if listens then some named else none
  | "UNLISTEN" => if listens then some unlisten else none
  | "NOTIFY" => if listens then some notify else none
  | "PRAGMA" => some pragma
  | "KILL" =>
    some do
      let _ ← acceptOneOf ["CONNECTION", "QUERY", "MUTATION"]
      literalNumber
      return .other word
  | _ => none

end QueryFlow.Sql.Grammar
