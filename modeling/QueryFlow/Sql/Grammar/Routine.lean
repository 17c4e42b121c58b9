import QueryFlow.Sql.Grammar.Query

/-!
# Routines

Functions and procedures, the blocks of statements that they run, and the cursors and variables that
the blocks use. The statements of a block are read like those of a text and then left out: what a
routine does is not followed, as it runs only when it is called.

The properties of a function may come in any order and are read one by one until none follows. Its
text is either a quoted text, which is not looked into, or a block.
-/

namespace QueryFlow.Sql.Grammar

open Parse

variable (r : Rules)

/-! ### Blocks of statements -/

/-- Statements, each with a semicolon behind it, up to one of the keywords `ends`. -/
def statementList (ends : List String) : Parse Unit := do
  let _ ← many do
    if ← atEnd then return none
    else if ends.contains (← nextKeyword) then return none
    else
      let _ ← r.statement
      expect ";"
      return some ()

/-- Statements between `BEGIN` and `END`, or without them. -/
def block (ends : List String) : Parse Unit := do
  if ← acceptWord "BEGIN" then
    statementList r ends
    expectWord "END"
  else statementList r ends

/-- A condition, and the block that runs where it holds. -/
def guardedBlock (ends : List String) : Parse Unit := do
  let _ ← expression r
  expectWord "THEN"
  block r ends

/-- A distinction of cases behind `CASE`. -/
def caseStatement : Parse Statement := do
  unless ← atKeyword "WHEN" do
    let _ ← expression r
  expectWord "WHEN"
  let _ ← items (acceptWord "WHEN") (guardedBlock r ["WHEN", "ELSE", "END"])
  if ← acceptWord "ELSE" then block r ["END"]
  expectWord "END"
  let _ ← acceptWord "CASE"
  return .other "CASE"

/-- A choice behind `IF`. -/
def ifStatement : Parse Statement := do
  guardedBlock r ["ELSE", "ELSEIF", "END"]
  if ← acceptWord "ELSEIF" then
    let _ ← items (acceptWord "ELSEIF") (guardedBlock r ["ELSEIF", "ELSE", "END"])
  if ← acceptWord "ELSE" then block r ["END"]
  expectWords ["END", "IF"]
  return .other "IF"

/-- A repetition behind `WHILE`. -/
def whileStatement : Parse Statement := do
  let _ ← expression r
  block r ["END"]
  return .other "WHILE"

/-- A complaint behind `RAISE`. -/
def raise : Parse Statement := do
  if ← acceptWords ["USING", "MESSAGE"] then
    expect "="
    let _ ← expression r
  else
    let _ ← attempt (expression r)
  return .other "RAISE"

/-! ### Cursors and variables -/

/-- A cursor behind its name. -/
def cursor : Parse Unit := do
  let _ ← acceptWord "BINARY"
  let _ ← acceptOneOf ["INSENSITIVE", "ASENSITIVE"]
  let _ ← acceptPhrase [["SCROLL"], ["NO", "SCROLL"]]
  expectWord "CURSOR"
  if (← acceptOneOf ["WITH", "WITHOUT"]).isSome then expectWord "HOLD"
  expectWord "FOR"
  let _ ← r.query

/-- A variable in BigQuery: names, and a type or a value. -/
def namedVariables : Parse Unit := do
  let _ ← commas ident
  let isTyped := !(← atKeyword "DEFAULT")
  if isTyped then
    let _ ← r.dataType
  if isTyped then
    let _ ← behind r "DEFAULT"
  else
    expectWord "DEFAULT"
    let _ ← expression r

/-- A variable or a cursor in SQL Server. -/
def markedVariable : Parse Unit := do
  let name ← ident
  let isCursor ← acceptWord "CURSOR"
  unless isCursor || name.text.startsWith "@" do refuse "Invalid MsSql variable declaration."
  unless isCursor do
    let _ ← acceptWord "AS"
    let _ ← r.dataType
  if ← acceptWord "FOR" then
    let _ ← r.query
  else if ← accept "=" then
    let _ ← expression r

/-- A declaration behind `DECLARE`. -/
def declare : Parse Statement := do
  match ← dialect with
  | .bigquery => namedVariables r
  | .mssql =>
    let _ ← commas (markedVariable r)
  | _ =>
    let _ ← ident
    cursor r
  return .other "DECLARE"

/-! ### Functions and procedures -/

/-- A parameter of a function: a type, which a name may stand before. -/
def parameter : Parse Unit := do
  let _ ← acceptOneOf ["IN", "OUT", "INOUT"]
  let start ← get
  let _ ← r.dataType
  let last := (start.take (start.length - (← get).length)).getLast?
  let second ← attempt r.dataType
  if second.isSome && !(last.any fun l => l.token.isWord) then unexpected "a name or type" last
  unless ← acceptWord "DEFAULT" do
    unless ← accept "=" do return
  let _ ← expression r

/-- The parameters of a function in brackets. -/
def parameters : Parse Unit := do
  expect "("
  unless ← atMark ")" do
    let _ ← commas (parameter r)
  expect ")"

/-- The text of a function: between dollar signs or quotes. -/
def routineText : Parse Unit := do
  match ← peek with
  | some (.text (.dollar _) _) => skip
  | _ =>
    let _ ← literalText

/-- A property of a function, if one follows. -/
def functionProperty : Parse (Option Unit) := do
  if ← acceptWord "AS" then
    routineText
    return some ()
  else if ← acceptWord "LANGUAGE" then
    let _ ← ident
    return some ()
  else if ← acceptWord "PARALLEL" then
    if (← acceptOneOf ["UNSAFE", "RESTRICTED", "SAFE"]).isNone then
      expected "one of UNSAFE | RESTRICTED | SAFE"
    return some ()
  else if ← acceptWord "RETURN" then
    let _ ← expression r
    return some ()
  else
    return (← acceptPhrase [["IMMUTABLE"], ["STABLE"], ["VOLATILE"],
      ["CALLED", "ON", "NULL", "INPUT"], ["RETURNS", "NULL", "ON", "NULL", "INPUT"],
      ["STRICT"]]).map fun _ => ()

/-- A created function behind `FUNCTION`. -/
def createFunction : Parse Statement := do
  let _ ← objectName
  if ← isIn [.hive] then
    expectWord "AS"
    let _ ← literalText
    if ← acceptWord "USING" then
      let _ ← expectOneOf ["JAR", "FILE", "ARCHIVE"]
      let _ ← literalText
  else
    parameters r
    if ← acceptWord "RETURNS" then
      let _ ← r.dataType
    let _ ← many (functionProperty r)
  return .other "CREATE"

/-- A parameter of a procedure: a name and a type. -/
def procedureParameter : Parse Unit := do
  let _ ← acceptOneOf ["IN", "OUT", "INOUT"]
  let _ ← ident
  let _ ← r.dataType

/-- At most `n` parameters of a procedure, up to the closing bracket. -/
def procedureParametersUpTo : Nat → Parse Unit
  | 0 => return
  | n + 1 => do
    if (← peek).any Token.isWord then procedureParameter r
    let comma ← accept ","
    if ← accept ")" then return
    else if comma then procedureParametersUpTo n
    else expected "',' or ')' after parameter definition"

/-- A created procedure behind `PROCEDURE`. -/
def createProcedure : Parse Statement := do
  let _ ← objectName
  if ← accept "(" then
    unless ← accept ")" do procedureParametersUpTo r ((← get).length + 1)
  if ← acceptWord "LANGUAGE" then
    let _ ← ident
  expectWord "AS"
  block r ["END"]
  return .other "CREATE"

end QueryFlow.Sql.Grammar
