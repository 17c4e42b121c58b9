import QueryFlow.Sql.Grammar.Change
import QueryFlow.Sql.Grammar.Definition
import QueryFlow.Sql.Grammar.Session
import QueryFlow.Sql.Grammar.Upkeep
import QueryFlow.Sql.Grammar.Expression

/-!
# Statements

The first keyword of a statement decides what it is. A statement counts as one more nested phrase.

A copy takes the rows of a table or of a query to a file, a program or a stream, or brings them from
there into a table; of a query rows can only be taken. Rows that come from the standard stream
follow the statement in the text, up to a mark of their own, and are left out.

## Tying the rules

`rules` gives the record of rules for a number of levels: every rule of a level calls those of the
level below, and those of the lowest level are refused as nested too deeply. A text is a list of
statements with semicolons between them, read with as many levels as it can need.
-/

namespace QueryFlow.Sql.Grammar

open Parse

variable (r : Rules)

/-! ### Copies -/

/-- An option of a copy in brackets. -/
def copyOption : Parse Unit := do
  let switch : Parse Unit := do
    let _ ← acceptOneOf ["TRUE", "FALSE"]
  match ← acceptOneOf ["FORMAT", "FREEZE", "DELIMITER", "NULL", "HEADER", "QUOTE", "ESCAPE",
    "FORCE_QUOTE", "FORCE_NOT_NULL", "FORCE_NULL", "ENCODING"] with
  | some "FORMAT" =>
    let _ ← ident
  | some "FREEZE" | some "HEADER" => switch
  | some "NULL" | some "ENCODING" =>
    let _ ← literalText
  | some "DELIMITER" | some "QUOTE" | some "ESCAPE" =>
    let _ ← literalChar
  | some _ =>
    let _ ← requiredColumns false
  | none => expected "option"

/-- An option of values that commas separate. -/
def separatedOption : Parse (Option Unit) := attempt do
  match ← acceptOneOf ["HEADER", "QUOTE", "ESCAPE", "FORCE"] with
  | some "HEADER" => return
  | some "FORCE" =>
    unless ← acceptWords ["NOT", "NULL"] do
      unless ← acceptWord "QUOTE" do expectWord "NULL"
    let _ ← commas ident
  | some _ =>
    let _ ← acceptWord "AS"
    let _ ← literalChar
  | none => expected "csv option"

/-- An option of a copy without brackets. -/
def looseCopyOption : Parse (Option Unit) := attempt do
  if ← acceptWord "FORMAT" then
    let _ ← acceptWord "AS"
  match ← acceptOneOf ["BINARY", "DELIMITER", "NULL", "CSV", "IAM_ROLE", "IGNOREHEADER"] with
  | some "BINARY" => return
  | some "DELIMITER" =>
    let _ ← acceptWord "AS"
    let _ ← literalChar
  | some "NULL" =>
    let _ ← acceptWord "AS"
    let _ ← literalText
  | some "CSV" =>
    let _ ← many separatedOption
  | some "IAM_ROLE" =>
    unless ← acceptWord "DEFAULT" do
      let _ ← literalText
  | some _ =>
    let _ ← acceptWord "AS"
    literalNumber
  | none => expected "option"

/-- Leaves out the lexemes up to the mark that ends inline rows. -/
def skipRows : List Lexeme → List Lexeme
  | [] => []
  | [_] => []
  | a :: b :: rest =>
    if a.token.isMark "\\" then
      if b.token.isMark "." then rest else skipRows rest
    else skipRows (b :: rest)

/-- What is copied. -/
def copied : Parse Copied := do
  if ← atMark "(" then return .query (← bracketed r.query)
  else
    let name ← objectName
    let _ ← columns false
    return .table name

/-- Whether rows are taken out. Only a table can take rows in. -/
def copyDirection (what : Copied) : Parse Bool := do
  match ← acceptOneOf ["FROM", "TO"] with
  | some "TO" => return true
  | some _ =>
    match what with
    | .query _ => refuse "COPY ... FROM does not support query as a source"
    | .table _ => return false
  | none => expected "FROM or TO"

/-- A copy behind `COPY`. -/
def copy : Parse Statement := do
  let what ← copied r
  let outward ← copyDirection what
  let fromText ← acceptWord "STDIN"
  let place ← if fromText then pure .standard
    else if ← acceptWord "STDOUT" then pure .standard
    else if ← acceptWord "PROGRAM" then pure (.program (← literalText))
    else pure (.file (← literalText))
  let _ ← acceptWord "WITH"
  if ← accept "(" then
    let _ ← commas copyOption
    expect ")"
  let _ ← many looseCopyOption
  if fromText then
    expect ";"
    set (skipRows (← get))
  return .copy what place outward

/-- An unloading behind `UNLOAD`. -/
def unload : Parse Statement := do
  let q ← bracketed r.query
  expectWord "TO"
  let location ← ident
  let _ ← options r "WITH"
  return .unload q location

/-- A replacement of rows behind `REPLACE`. -/
def replace : Parse Statement := do
  if ← has Dialect.hasMySqlPhrases then insert r else refuseHere "Unsupported statement REPLACE"

/-! ### Statements -/

/-- The statement behind its first keyword, if the keyword starts one. -/
def statementBehind? (d : Dialect) (word : String) : Option (Parse Statement) :=
  let named : Parse Statement := do
    let _ ← ident
    return .other word
  match word with
  | "DESC" | "DESCRIBE" | "EXPLAIN" => some (explain r word)
  | "ANALYZE" => some (analyze r)
  | "TRUNCATE" => some (truncate r)
  | "CREATE" => some (create r)
  | "DROP" => some (drop r)
  | "DELETE" => some (delete r)
  | "INSERT" => some (insert r)
  | "REPLACE" => some (replace r)
  | "UPDATE" => some (update r)
  | "MERGE" => some (merge r)
  | "ALTER" => some (alter r)
  | "COPY" => some (copy r)
  | "UNLOAD" => some (unload r)
  | "SET" => some (setVariable r)
  | "SHOW" => some (showObjects r)
  | "USE" => some use
  | "START" => some do
    expectWord "TRANSACTION"
    transactionModes
    return .other word
  | "BEGIN" => some beginTransaction
  | "END" | "COMMIT" => some do
    chaining
    return .other word
  | "ROLLBACK" => some rollback
  | "SAVEPOINT" => some named
  | "RELEASE" => some do
    let _ ← acceptWord "SAVEPOINT"
    named
  | "FETCH" => some fetchStatement
  | "CLOSE" => some do
    unless ← acceptWord "ALL" do
      let _ ← ident
    return .other word
  | "DEALLOCATE" => some do
    let _ ← acceptWord "PREPARE"
    named
  | "DISCARD" => some do
    let _ ← expectOneOf ["ALL", "PLANS", "SEQUENCES", "TEMP", "TEMPORARY"]
    return .other word
  | "EXECUTE" | "EXEC" => some (execute r)
  | "PREPARE" => some (prepare r)
  | "CALL" => some (callProcedure r)
  | "ASSERT" => some do
    let _ ← expression r
    let _ ← behind r "AS"
    return .other word
  | "PRINT" => some do
    let _ ← expression r
    return .other word
  | "RETURN" => some do
    let _ ← attempt (expression r)
    return .other word
  | "CASE" => some (caseStatement r)
  | "IF" => some (ifStatement r)
  | "WHILE" => some (whileStatement r)
  | "RAISE" => some (raise r)
  | "DECLARE" => some (declare r)
  | "OPEN" => some named
  | "GRANT" => some (grant r)
  | "DENY" => some (deny r)
  | "REVOKE" => some (revoke r)
  | _ => upkeep? r d word

/-- Locks on tables, which only MySQL has. -/
def lockTables? : Parse (Option Statement) := do
  if !(← isIn [.mysql]) then return none
  else if ← acceptWords ["LOCK", "TABLES"] then
    let _ ← commas do
      let _ ← ident
      let _ ← aliasOf fun w => return !(["READ", "WRITE", "LOW_PRIORITY"].contains w)
      if ← acceptWord "READ" then
        let _ ← acceptWord "LOCAL"
      else
        let _ ← acceptWord "LOW_PRIORITY"
        expectWord "WRITE"
    return some (.other "LOCK")
  else if ← acceptWords ["UNLOCK", "TABLES"] then return some (.other "UNLOCK")
  else return none

/-- A statement. -/
def statementRule : Parse Statement := deeper do
  if let some s ← lockTables? then return s
  if (← atOneOf ["SELECT", "WITH", "VALUES", "FROM"]) || (← atMark "(") then
    return .query (← r.query)
  let found ← take
  match found.map Lexeme.token with
  | some (.word _ none word) =>
    match statementBehind? r (← dialect) word with
    | some p => p
    | none => unexpected "an SQL statement" found
  | _ => unexpected "an SQL statement" found

/-- The rules, nested at most `n` times in each other. -/
def rules : Nat → Rules
  | 0 =>
    { expr := fun _ => throw .tooDeep
      operand := throw .tooDeep
      query := throw .tooDeep
      body := fun _ => throw .tooDeep
      source := throw .tooDeep
      joins := throw .tooDeep
      dataType := throw .tooDeep
      change := fun _ => throw .tooDeep
      statement := throw .tooDeep }
  | n + 1 =>
    { expr := fun strength setting => exprRule (rules n) strength setting
      operand := fun setting => operandRule (rules n) setting
      query := fun setting => queryRule (rules n) setting
      body := fun strength setting => bodyRule (rules n) strength setting
      source := fun setting => sourceRule (rules n) setting
      joins := fun setting => joinsRule (rules n) setting
      dataType := fun setting => dataTypeRule (rules n) setting
      change := fun word setting => changeRule (rules n) word setting
      statement := fun setting => statementRule (rules n) setting }

/-- At most `n` statements with semicolons between them. A word `END` ends the list. -/
def statementsUpTo : Nat → Parse (List Statement)
  | 0 => return []
  | n + 1 => do
    let s ← r.statement
    let separated ← accept ";"
    let _ ← many (given (accept ";") (return ()))
    if ← atEnd then return [s]
    else if separated then return s :: (← statementsUpTo n)
    else if ← atKeyword "END" then return [s]
    else expected "end of statement"

/-- Statements with semicolons between them, up to the end of the lexemes. -/
def statements : Parse (List Statement) := do
  let _ ← many (given (accept ";") (return ()))
  if ← atEnd then return []
  else statementsUpTo r ((← get).length + 1)

end QueryFlow.Sql.Grammar
