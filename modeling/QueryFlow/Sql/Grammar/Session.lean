import QueryFlow.Sql.Grammar.Query

/-!
# Statements about sessions, transactions and the server

Statements that neither read nor write the rows of a table that this program follows. That they are
well formed is all that is kept of them, with three exceptions: a plan keeps the statement that it
is of, an emptying the tables that it empties, and a gathering of statistics its table, since this
is what keeps the store in order.
-/

namespace QueryFlow.Sql.Grammar

open Parse

variable (r : Rules)

/-! ### Transactions -/

/-- A mode of a transaction; `isRequired` after a comma. -/
def transactionMode (isRequired : Bool) : Parse (Option Bool) := do
  let found ← if ← acceptWords ["ISOLATION", "LEVEL"] then do
      unless ← acceptWords ["READ", "UNCOMMITTED"] do
        unless ← acceptWords ["READ", "COMMITTED"] do
          unless ← acceptWords ["REPEATABLE", "READ"] do
            unless (← acceptOneOf ["SERIALIZABLE", "SNAPSHOT"]).isSome do
              expected "isolation level"
      pure true
    else if ← acceptWords ["READ", "ONLY"] then pure true
    else acceptWords ["READ", "WRITE"]
  if found then return some (← accept ",")
  else if isRequired then expected "transaction mode"
  else return none

/-- The modes of a transaction. -/
def transactionModes : Parse Unit := do
  let _ ← chain transactionMode false

/-- A transaction behind `BEGIN`. -/
def beginTransaction : Parse Statement := do
  if ← isIn [.generic, .mssql, .sqlite] then
    let _ ← acceptOneOf ["DEFERRED", "IMMEDIATE", "EXCLUSIVE", "TRY", "CATCH"]
  let _ ← acceptOneOf ["TRANSACTION", "WORK"]
  transactionModes
  return .other "BEGIN"

/-- Whether another transaction follows at once. -/
def chaining : Parse Unit := do
  let _ ← acceptOneOf ["TRANSACTION", "WORK"]
  if ← acceptWord "AND" then
    let _ ← acceptWord "NO"
    expectWord "CHAIN"

/-- The end of a transaction behind `ROLLBACK`. -/
def rollback : Parse Statement := do
  chaining
  if ← acceptWord "TO" then
    let _ ← acceptWord "SAVEPOINT"
    let _ ← ident
  return .other "ROLLBACK"

/-! ### Settings -/

/-- A value that a variable is set to. -/
def settingValue : Parse Unit := do
  if (← atMark "(") && ((← isKeywordAt 1 "SELECT") || (← isKeywordAt 1 "WITH")) then
    let _ ← bracketed r.query
  else
    match ← outcome (expression r) with
    | .ok _ => return
    | .error _ => expected "variable value"

/-- The values that a variable is set to. -/
def settingValues : Parse Unit := do
  let _ ← items (accept ",") (settingValue r)

/-- A variable and what it is set to. -/
def variableAssignment : Parse Unit := do
  let _ ← acceptOneOf ["SESSION", "LOCAL", "GLOBAL"]
  let _ ← objectName
  unless ← accept "=" do expectWord "TO"
  let _ ← expression r

/-- A setting behind `SET`. -/
def setVariable : Parse Statement := do
  let d ← dialect
  if ← acceptWord "HIVEVAR" then expect ":"
  else
    let _ ← acceptOneOf ["SESSION", "LOCAL", "GLOBAL"]
  let done : Parse Statement := return .other "SET"
  let role ← attempt do
    expectWord "ROLE"
    unless ← acceptWord "NONE" do
      let _ ← ident
  if role.isSome then done
  else if ← either (acceptWords ["TIME", "ZONE"]) (acceptWord "TIMEZONE") then
    if ← either (accept "=") (acceptWord "TO") then settingValues r
    else
      let _ ← expression r
    done
  else if ← both (isIn [.mysql, .generic]) (acceptWord "NAMES") then
    unless ← acceptWord "DEFAULT" do
      let _ ← ident
      if ← acceptWord "COLLATE" then
        let _ ← literalText
    done
  else if ← acceptWord "CHARACTERISTICS" then
    expectWords ["AS", "TRANSACTION"]
    transactionModes
    done
  else if ← acceptWord "TRANSACTION" then
    if ← acceptWord "SNAPSHOT" then
      let _ ← value
    else transactionModes
    done
  else
    let several ← if d.isOneOf [.mysql, .generic] then
        attempt (commas (variableAssignment r))
      else pure none
    if several.isSome then done
    else
      let inBrackets ← if d.isOneOf [.generic, .snowflake, .bigquery, .databricks, .hive] then
          accept "("
        else pure false
      if inBrackets then
        let _ ← commas ident
        expect ")"
      else
        let _ ← objectName
      if ← either (accept "=") (acceptWord "TO") then
        if inBrackets then bracketed (settingValues r) else settingValues r
        done
      else expected "equals sign or TO"

/-- A chosen database behind `USE`. -/
def use : Parse Statement := do
  let d ← dialect
  if ← both (return d == .hive) (acceptWord "DEFAULT") then return .other "USE"
  if d == .databricks then
    let _ ← acceptOneOf ["CATALOG", "DATABASE", "SCHEMA"]
  if d == .snowflake then
    if ← acceptWords ["SECONDARY", "ROLES"] then
      unless (← acceptOneOf ["ALL", "NONE"]).isSome do
        let _ ← commas ident
      return .other "USE"
    let _ ← acceptOneOf ["DATABASE", "SCHEMA", "WAREHOUSE", "ROLE"]
  let _ ← objectName
  return .other "USE"

/-! ### Descriptions -/

/-- What a list of objects is narrowed to. -/
def showFilter : Parse Unit := do
  let place : Parse Unit := do
    if (← acceptOneOf ["FROM", "IN"]).isSome then
      let _ ← objectName
  place
  place
  if (← acceptOneOf ["LIKE", "ILIKE"]).isSome then
    let _ ← literalText
  else if ← acceptWord "WHERE" then
    let _ ← expression r
  place

/-- A word of the name of a variable; other lexemes are left out. -/
def variableWord : Parse (Option Unit) := do
  match ← peek with
  | none => return none
  | some (.mark "=") => return none
  | some (.mark ";") => return none
  | some _ =>
    skip
    return some ()

/-- A list of objects or a variable behind `SHOW`. -/
def showObjects : Parse Statement := do
  let d ← dialect
  let _ ← acceptWord "TERSE"
  let extended ← acceptWord "EXTENDED"
  let full ← acceptWord "FULL"
  let _ ← acceptWord "SESSION"
  let _ ← acceptWord "GLOBAL"
  let _ ← acceptWord "EXTERNAL"
  let done : Parse Statement := return .other "SHOW"
  if (← acceptOneOf ["COLUMNS", "FIELDS", "TABLES", "VIEWS"]).isSome then
    showFilter r
    done
  else if ← acceptWords ["MATERIALIZED", "VIEWS"] then
    showFilter r
    done
  else if ← acceptWord "FUNCTIONS" then
    showFilter r
    done
  else if extended || full then
    refuse "EXTENDED/FULL are not supported with this type of SHOW query"
  else if ← acceptWord "CREATE" then
    let _ ← expectOneOf ["TABLE", "TRIGGER", "FUNCTION", "PROCEDURE", "EVENT", "VIEW"]
    let _ ← objectName
    done
  else if ← acceptWord "COLLATION" then
    showFilter r
    done
  else if ← both (return d.hasMySqlPhrases) (acceptWord "VARIABLES") then
    showFilter r
    done
  else if ← both (return d.hasMySqlPhrases) (acceptWord "STATUS") then
    showFilter r
    done
  else if (← acceptOneOf ["DATABASES", "SCHEMAS"]).isSome then
    let _ ← acceptWord "HISTORY"
    showFilter r
    done
  else
    let _ ← many variableWord
    done

/-- The plan of a statement, or the form of a table, behind `EXPLAIN` or one of its like. -/
def explain (word : String) : Parse Statement := do
  let d ← dialect
  if word == "EXPLAIN" && d.isOneOf [.generic, .postgres, .duckdb] && (← atMark "(") then
    let _ ← bracketed <| commas do
      let _ ← ident
      if (← atMark ",") || (← atMark ")") then return
      let _ ← expression r
  else if ← acceptWords ["QUERY", "PLAN"] then pure ()
  else if ← acceptWord "ESTIMATE" then pure ()
  else
    let _ ← acceptWord "ANALYZE"
    let _ ← acceptWord "VERBOSE"
    if ← acceptWord "FORMAT" then
      let _ ← accept "="
      let _ ← expectOneOf ["TEXT", "GRAPHVIZ", "JSON", "TREE"]
  match ← attempt r.statement with
  | some (.explain _) => refuse "Explain must be root of the plan"
  | some statement => return .explain statement
  | none =>
    let _ ← acceptOneOf ["EXTENDED", "FORMATTED"]
    if d.isOneOf [.snowflake, .clickhouse] then
      let _ ← acceptWord "TABLE"
    let _ ← objectName
    return .explain (.other word)

/-! ### Tables as a whole -/

/-- A gathering of statistics behind `ANALYZE`. -/
def analyze : Parse Statement := do
  let _ ← acceptWord "TABLE"
  let name ← objectName
  let _ ← many do
    match ← acceptOneOf ["PARTITION", "FOR", "CACHE", "NOSCAN", "COMPUTE"] with
    | some "PARTITION" =>
      let _ ← bracketed (expressions r)
      return some ()
    | some "FOR" =>
      expectWord "COLUMNS"
      let _ ← attempt (commas ident)
      return some ()
    | some "CACHE" =>
      expectWord "METADATA"
      return some ()
    | some "NOSCAN" => return some ()
    | some _ =>
      expectWord "STATISTICS"
      return some ()
    | none => return none
  return .analyze name

/-- An emptying of tables behind `TRUNCATE`. -/
def truncate : Parse Statement := do
  let _ ← acceptWord "TABLE"
  let names ← commas do
    let _ ← acceptWord "ONLY"
    objectName
  let _ ← listIf (acceptWord "PARTITION") (bracketed (expressions r))
  if ← isIn [.postgres, .generic] then
    unless ← acceptWords ["RESTART", "IDENTITY"] do
      let _ ← acceptWords ["CONTINUE", "IDENTITY"]
    let _ ← acceptOneOf ["CASCADE", "RESTRICT"]
  if ← acceptWords ["ON", "CLUSTER"] then
    let _ ← ident
  return .truncate names

/-! ### Cursors and prepared statements -/

/-- A fetch from a cursor, behind `FETCH`. -/
def fetchStatement : Parse Statement := do
  let count : Parse Unit := do
    let _ ← accept "-"
    let _ ← value
  if (← acceptOneOf ["NEXT", "PRIOR", "FIRST", "LAST", "ALL"]).isSome then pure ()
  else if (← acceptOneOf ["ABSOLUTE", "RELATIVE"]).isSome then count
  else if (← acceptOneOf ["FORWARD", "BACKWARD"]).isSome then
    unless ← acceptWord "ALL" do count
  else count
  let _ ← expectOneOf ["FROM", "IN"]
  let _ ← ident
  if ← acceptWord "INTO" then
    let _ ← objectName
  return .other "FETCH"

/-- A call of a procedure behind `CALL`. -/
def callProcedure : Parse Statement := do
  let name ← objectName
  if ← atMark "(" then
    let _ ← call r name
  return .other "CALL"

/-- A prepared statement behind `PREPARE`. -/
def prepare : Parse Statement := do
  let _ ← ident
  if ← accept "(" then
    let _ ← commas r.dataType
    expect ")"
  expectWord "AS"
  let _ ← r.statement
  return .other "PREPARE"

/-- A run of a prepared statement behind `EXECUTE`. -/
def execute : Parse Statement := do
  let _ ← acceptWord "IMMEDIATE"
  let _ ← objectName
  let inBrackets ← accept "("
  if !(← atEnd) && !(← atMark ";") && !(← atMark ")") then
    let _ ← commas (expression r)
  if inBrackets then expect ")"
  if ← acceptWord "USING" then
    let _ ← commas do
      let e ← expression r
      let _ ← columnAlias
      return e
  return .other "EXECUTE"

end QueryFlow.Sql.Grammar
