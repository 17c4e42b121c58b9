import QueryFlow.Sql.Grammar.Query

/-!
# Statements that change rows

`INSERT`, `UPDATE`, `DELETE` and `MERGE`. All of them can also be the body of a query, and then what
they read counts for that query; `changeRule` is the rule for both uses.

Of an insertion the target and the query that its rows come from are kept apart from the other
expressions, because only they say where rows go and come from. An insertion into a directory of
files has no table to go to and is kept by its keyword.
-/

namespace QueryFlow.Sql.Grammar

open Parse

variable (r : Rules)

/-- What columns are set to. -/
def assignment : Parse Expr := do
  if ← accept "(" then
    let _ ← commas objectName
    expect ")"
  else
    let _ ← objectName
  expect "="
  expression r

/-- The rows that a statement gives back. -/
def returning : Parse (List Expr) := do
  if ← acceptWord "RETURNING" then return (← commas (selectItem r)).flatten else return []

/-- What happens to rows that are there already. -/
def conflictClause : Parse Unit := do
  for word in ["REPLACE", "ROLLBACK", "ABORT", "FAIL", "IGNORE"] do
    if ← acceptWords ["OR", word] then return

/-! ### Insertions -/

/-- What rows are inserted into. -/
def target : Parse Target := do
  if ← both (isIn [.clickhouse]) (acceptWord "FUNCTION") then
    let function ← objectName
    match ← call r function with
    | .call function args => return .function function args
    | _ => return .function function []
  else return .table (← objectName)

/-- What happens on a conflict with rows that are there already. -/
def onConflict : Parse (List Expr) := do
  if !(← acceptWord "ON") then return []
  if ← acceptWord "CONFLICT" then
    if ← acceptWords ["ON", "CONSTRAINT"] then
      let _ ← objectName
    else if ← atMark "(" then
      let _ ← requiredColumns false
    expectWord "DO"
    if ← acceptWord "NOTHING" then return []
    expectWords ["UPDATE", "SET"]
    let es ← commas (assignment r)
    return es ++ (← behind r "WHERE")
  else
    expectWords ["DUPLICATE", "KEY", "UPDATE"]
    commas (assignment r)

/-- The columns of an insertion, and the partitions that they go to. -/
def insertedColumns : Parse (List Expr) := do
  if (← atMark "(") && (← isKeywordAt 1 "SELECT") then return []
  let _ ← columns (← has Dialect.hasEmptyRows)
  let parts ← listIf (acceptWord "PARTITION") (bracketed (expressions r))
  if ← isIn [.hive] then
    let _ ← columns false
  return parts

/-- What rows are inserted, with the other expressions of the statement. -/
def insertedRows : Parse (Option Query × List Expr) := do
  if ← acceptWords ["DEFAULT", "VALUES"] then return (none, [])
  let parts ← insertedColumns r
  if ← atOneOf ["FORMAT", "SETTINGS"] then return (none, parts)
  else if ← both (has Dialect.hasInsertSet) (acceptWord "SET") then
    return (none, parts ++ (← commas (assignment r)))
  else return (some (← r.query), parts)

/-- An insertion into a directory of files. -/
def insertDirectory : Parse Statement := do
  let _ ← literalText
  if ← acceptWords ["STORED", "AS"] then skip
  let _ ← r.query
  return .other "INSERT"

/-- An insertion behind `INSERT`. -/
def insert : Parse Statement := do
  let d ← dialect
  conflictClause
  if d.hasMySqlPhrases then
    let _ ← acceptOneOf ["LOW_PRIORITY", "DELAYED", "HIGH_PRIORITY"]
    let _ ← acceptWord "IGNORE"
  let _ ← acceptWord "OVERWRITE"
  let _ ← acceptWord "INTO"
  let _ ← acceptWord "LOCAL"
  if ← acceptWord "DIRECTORY" then insertDirectory r
  else
    let _ ← acceptWord "TABLE"
    let into ← target r
    if ← both (return d == .postgres) (acceptWord "AS") then
      let _ ← ident
    let (query, es) ← insertedRows r
    let given ← if d == .clickhouse then pure ((← settings r).getD []) else pure []
    if ← both (return d == .clickhouse) (acceptWord "FORMAT") then
      let _ ← ident
    if ← both (return d.hasMySqlPhrases) (acceptWord "AS") then
      let _ ← objectName
      let _ ← columns false
    let conflict ← onConflict r
    let rows ← returning r
    return .insert into query (es ++ given ++ conflict ++ rows)

/-! ### Updates and deletions -/

/-- An update behind `UPDATE`. -/
def update : Parse Statement := do
  conflictClause
  let table ← joinedTables r
  let before ← listIf (acceptWord "FROM") (sources r)
  expectWord "SET"
  let es ← commas (assignment r)
  let after ← if before.isEmpty then listIf (acceptWord "FROM") (sources r) else pure []
  let condition ← behind r "WHERE"
  let rows ← returning r
  let limit ← behind r "LIMIT"
  return .update (table :: before ++ after) (es ++ condition ++ rows ++ limit)

/-- A deletion behind `DELETE`. -/
def delete : Parse Statement := do
  unless ← acceptWord "FROM" do
    unless ← isIn [.bigquery, .oracle, .generic] do
      let _ ← commas objectName
      expectWord "FROM"
  let tables ← commas (joinedTables r)
  let helpers ← listIf (acceptWord "USING") (commas (joinedTables r))
  let condition ← behind r "WHERE"
  let rows ← returning r
  let order ← listIf (acceptWords ["ORDER", "BY"]) (orderItems r)
  let limit ← if ← acceptWord "LIMIT" then
      if ← acceptWord "ALL" then pure [] else single (expression r)
    else pure []
  return .delete (tables ++ helpers) (condition ++ rows ++ order ++ limit)

/-! ### Merges -/

/-- A clause of a merge. -/
def mergeClause : Parse (Option (List Expr)) := do
  if (← atEnd) || (← atMark ";") then return none
  unless ← acceptWord "WHEN" do expected "WHEN"
  let isMissing ← acceptWord "NOT"
  expectWord "MATCHED"
  let fromSource ← both (return isMissing) (acceptWords ["BY", "SOURCE"])
  if isMissing && !fromSource then
    let _ ← acceptWords ["BY", "TARGET"]
  let inserts := isMissing && !fromSource
  let condition ← behind r "AND"
  expectWord "THEN"
  match ← acceptOneOf ["UPDATE", "INSERT", "DELETE"] with
  | some "UPDATE" =>
    if inserts then refuse "UPDATE is not allowed in a NOT MATCHED merge clause"
    expectWord "SET"
    return some (condition ++ (← commas (assignment r)))
  | some "DELETE" =>
    if inserts then refuse "DELETE is not allowed in a NOT MATCHED merge clause"
    return some condition
  | some _ =>
    if !inserts then refuse "INSERT is not allowed in a MATCHED merge clause"
    let mayBeEmpty ← has Dialect.hasEmptyRows
    let _ ← columns mayBeEmpty
    if ← both (isIn [.bigquery, .generic]) (acceptWord "ROW") then return some condition
    expectWord "VALUES"
    return some (condition ++ (← commas (row r mayBeEmpty)).flatten)
  | none => refuse "expected UPDATE, DELETE or INSERT in merge clause"

/-- A merge behind `MERGE`. -/
def merge : Parse Statement := do
  let _ ← acceptWord "INTO"
  let into ← r.source
  expectWord "USING"
  let rows ← r.source
  expectWord "ON"
  let condition ← expression r
  let clauses ← many (mergeClause r)
  return .merge into rows (condition :: clauses.flatten)

/-- A statement that changes rows, behind its keyword. -/
def changeRule (word : String) : Parse Statement :=
  match word with
  | "INSERT" => insert r
  | "UPDATE" => update r
  | "DELETE" => delete r
  | _ => merge r

end QueryFlow.Sql.Grammar
