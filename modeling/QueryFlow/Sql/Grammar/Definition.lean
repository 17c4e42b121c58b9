import QueryFlow.Sql.Grammar.Privilege
import QueryFlow.Sql.Grammar.Routine

/-!
# Definitions

Statements that create, alter and drop objects. Of a created table its name and the query that fills
it are kept; of everything else only that it was read.

The columns of a table, their types, constraints and options are read in full all the same, because
a statement that is not well formed must be refused, and because a query may stand behind them.
While a column is defined, the setting says so: some words that are operators elsewhere belong to
the definition there.
-/

namespace QueryFlow.Sql.Grammar

open Parse

variable (r : Rules)

/-! ### Columns and constraints -/

/-- What happens to a row when the row that it refers to changes. -/
def referenceAction : Parse (Option Unit) := do
  if ← either (acceptWords ["ON", "DELETE"]) (acceptWords ["ON", "UPDATE"]) then
    if ← acceptWord "RESTRICT" then return some ()
    if ← acceptWord "CASCADE" then return some ()
    if ← acceptWords ["SET", "NULL"] then return some ()
    if ← acceptWords ["NO", "ACTION"] then return some ()
    if ← acceptWords ["SET", "DEFAULT"] then return some ()
    expected "one of RESTRICT, CASCADE, SET NULL, NO ACTION or SET DEFAULT"
  else return none

/-- When a constraint is checked. -/
def checkTime : Parse Unit := do
  let _ ← many do
    if ← acceptWords ["NOT", "DEFERRABLE"] then return some ()
    if ← acceptWord "DEFERRABLE" then return some ()
    if ← acceptWords ["INITIALLY", "DEFERRED"] then return some ()
    if ← acceptWords ["INITIALLY", "IMMEDIATE"] then return some ()
    if ← acceptWords ["NOT", "ENFORCED"] then return some ()
    if ← acceptWord "ENFORCED" then return some ()
    return none

/-- A reference to the columns of a table, behind `REFERENCES`. -/
def reference : Parse Unit := do
  let _ ← objectName
  let _ ← columns false
  if ← acceptWord "MATCH" then
    let _ ← acceptOneOf ["FULL", "PARTIAL", "SIMPLE"]
  let _ ← many referenceAction
  checkTime

/-- The options of a sequence of numbers. -/
def sequenceOptions : Parse Unit := do
  let _ ← many do
    if ← acceptWord "INCREMENT" then
      let _ ← acceptWord "BY"
      let _ ← accept "-"
      numberValue
      return some ()
    if ← acceptWord "START" then
      let _ ← acceptWord "WITH"
      let _ ← accept "-"
      numberValue
      return some ()
    if ← either (acceptWord "MINVALUE") (acceptWord "MAXVALUE") then
      let _ ← accept "-"
      numberValue
      return some ()
    if ← acceptWords ["NO", "MINVALUE"] then return some ()
    if ← acceptWords ["NO", "MAXVALUE"] then return some ()
    if ← acceptWord "CACHE" then
      numberValue
      return some ()
    if ← acceptWords ["NO", "CYCLE"] then return some ()
    if ← acceptWord "CYCLE" then return some ()
    return none

/-- How the values of a column are generated, behind `GENERATED`. -/
def generated : Parse Unit := do
  let isAlways ← acceptWord "ALWAYS"
  if ← either (return isAlways) (acceptWords ["BY", "DEFAULT"]) then
    expectWord "AS"
    if ← acceptWord "IDENTITY" then
      if ← accept "(" then
        sequenceOptions
        expect ")"
    else if isAlways then
      let _ ← bracketed (expression r)
      let _ ← acceptOneOf ["STORED", "VIRTUAL"]
    else expected "IDENTITY"
  else expected "ALWAYS or BY DEFAULT"

/-- An option of a column, if one follows. -/
def columnOption : Parse (Option Unit) := do
  let d ← dialect
  let done (p : Parse Unit) : Parse (Option Unit) := do
    p
    return some ()
  if ← acceptWords ["CHARACTER", "SET"] then done do let _ ← objectName
  else if ← acceptWord "COLLATE" then done do let _ ← objectName
  else if ← acceptWords ["NOT", "NULL"] then return some ()
  else if ← acceptWord "COMMENT" then
    done do
      let found ← take
      match found.map Lexeme.token with
      | some (.text .single _) => pure ()
      | some (.text (.dollar _) _) => pure ()
      | _ => unexpected "string" found
  else if ← acceptWord "NULL" then return some ()
  else if ← acceptWord "DEFAULT" then done do let _ ← expression r
  else if ← both (has Dialect.hasColumnStore) (acceptWord "MATERIALIZED") then
    done do let _ ← expression r
  else if ← both (has Dialect.hasColumnStore) (acceptWord "ALIAS") then
    done do let _ ← expression r
  else if ← acceptWords ["PRIMARY", "KEY"] then done checkTime
  else if ← acceptWord "UNIQUE" then
    done do
      if d.hasMySqlPhrases then
        let _ ← acceptWord "KEY"
      checkTime
  else if ← acceptWord "REFERENCES" then done reference
  else if ← acceptWord "CHECK" then
    done do
      let _ ← bracketed (expression r)
      checkTime
  else if ← both (return d.hasMySqlPhrases) (acceptWord "AUTO_INCREMENT") then return some ()
  else if ← both (isIn [.sqlite, .generic]) (acceptWord "AUTOINCREMENT") then return some ()
  else if ← both (isIn [.sqlite, .generic]) (acceptWord "ASC") then return some ()
  else if ← both (isIn [.sqlite, .generic]) (acceptWord "DESC") then return some ()
  else if ← both (return d.hasMySqlPhrases) (acceptWords ["ON", "UPDATE"]) then
    done do let _ ← expression r
  else if ← acceptWord "GENERATED" then done (generated r)
  else if ← both (isIn [.bigquery, .generic]) (acceptWord "OPTIONS") then
    done do let _ ← bracketed (commasBefore ")" option)
  else if ← both (isIn [.mysql, .sqlite, .duckdb, .generic]) (acceptWord "AS") then
    done do
      let _ ← bracketed (expression r)
      let _ ← acceptOneOf ["STORED", "VIRTUAL"]
  else if ← both (isIn [.mssql, .snowflake, .generic]) (acceptWord "IDENTITY") then
    done do
      if ← accept "(" then
        numberValue
        expect ","
        numberValue
        expect ")"
  else return none
where
  /-- A name and what it is set to. -/
  option : Parse Unit := do
    let _ ← ident
    expect "="
    let _ ← expression r

/-- The options of a column. -/
def columnOptions : Parse Unit := do
  let inside : Parse (Option Unit) := withReader (fun s => { s with inColumn := true })
    (columnOption r)
  let _ ← many do
    if ← acceptWord "CONSTRAINT" then
      let _ ← ident
      match ← inside with
      | some _ => return some ()
      | none => expected "constraint details after CONSTRAINT <name>"
    else inside

/-- The definition of a column. -/
def columnDefinition : Parse Unit := do
  let _ ← ident
  let isUntyped ← if ← isIn [.sqlite] then
      match ← peek with
      | some (.word _ none word) =>
        pure (["CONSTRAINT", "PRIMARY", "NOT", "UNIQUE", "CHECK", "DEFAULT", "COLLATE",
          "REFERENCES", "GENERATED", "AS"].contains word)
      | some (.word ..) => pure false
      | _ => pure true
    else pure false
  unless isUntyped do
    let _ ← r.dataType
  columnOptions r

/-- Columns of an index, with their order. -/
def indexColumns : Parse Unit := do
  let _ ← bracketed (orderItems r)

/-- An index or a key of a table, behind its keyword. -/
def indexDefinition : Parse Unit := do
  let _ ← acceptOneOf ["INDEX", "KEY"]
  unless (← atMark "(") || (← atKeyword "USING") do
    let _ ← ident
  if ← acceptWord "USING" then
    let _ ← ident
  indexColumns r
  if ← acceptWord "USING" then
    let _ ← ident
  checkTime

/-- A constraint of a table, if one follows. -/
def tableConstraint : Parse (Option Unit) := do
  let d ← dialect
  let isNamed ← acceptWord "CONSTRAINT"
  if isNamed then
    let _ ← ident
  if ← acceptWord "UNIQUE" then
    if ← both (return d == .postgres) (acceptWord "NULLS") then
      let _ ← acceptWord "NOT"
      expectWord "DISTINCT"
    indexDefinition r
    return some ()
  else if ← acceptWord "PRIMARY" then
    expectWord "KEY"
    indexDefinition r
    return some ()
  else if ← acceptWord "FOREIGN" then
    expectWord "KEY"
    unless ← atMark "(" do
      let _ ← ident
    let _ ← requiredColumns false
    expectWord "REFERENCES"
    reference
    return some ()
  else if ← acceptWord "CHECK" then
    let _ ← bracketed (expression r)
    checkTime
    return some ()
  else if d.hasMySqlPhrases && !isNamed && (← atOneOf ["INDEX", "KEY"]) then
    indexDefinition r
    return some ()
  else if d.hasMySqlPhrases && (← atOneOf ["FULLTEXT", "SPATIAL"]) then
    skip
    indexDefinition r
    return some ()
  else if isNamed then expected "PRIMARY, UNIQUE, FOREIGN, or CHECK"
  else return none

/-- At most `n + 1` columns and constraints, up to the closing bracket. -/
def columnsUpTo : Nat → Parse Unit
  | 0 => return
  | n + 1 => do
    if (← tableConstraint r).isNone then
      match ← peek with
      | some (.word ..) => columnDefinition r
      | _ => expected "column name or constraint definition"
    let comma ← accept ","
    let closes ← atMark ")"
    if !comma && !closes then expected "',' or ')' after column definition"
    let trails ← isIn [.bigquery, .duckdb, .snowflake]
    if closes && (!comma || trails) then skip else columnsUpTo n

/-- The columns and constraints of a table. -/
def tableColumns : Parse Unit := do
  if ← accept "(" then
    if ← accept ")" then return
    columnsUpTo r ((← get).length + 1)

/-! ### Tables -/

/-- How the files of a table are laid out. -/
def fileLayout : Parse Unit := do
  if ← acceptWords ["PARTITIONED", "BY"] then
    let _ ← bracketed <| commas do
      let _ ← ident
      let _ ← attempt r.dataType
      columnOptions r
  if ← acceptWords ["CLUSTERED", "BY"] then
    let _ ← requiredColumns false
    if ← acceptWords ["SORTED", "BY"] then
      let _ ← bracketed (orderItems r)
    expectWord "INTO"
    numberValue
    expectWord "BUCKETS"
  let _ ← many do
    if ← acceptWords ["ROW", "FORMAT"] then
      if ← acceptWord "SERDE" then
        let _ ← literalText
        let _ ← options r "WITH"
      else
        expectWord "DELIMITED"
        let _ ← many do
          if ← acceptWords ["FIELDS", "TERMINATED", "BY"] then
            let _ ← ident
            return some ()
          if ← acceptWords ["ESCAPED", "BY"] then
            let _ ← ident
            return some ()
          if ← acceptWords ["COLLECTION", "ITEMS", "TERMINATED", "BY"] then
            let _ ← ident
            return some ()
          if ← acceptWords ["MAP", "KEYS", "TERMINATED", "BY"] then
            let _ ← ident
            return some ()
          if ← acceptWords ["LINES", "TERMINATED", "BY"] then
            let _ ← ident
            return some ()
          if ← acceptWords ["NULL", "DEFINED", "AS"] then
            let _ ← ident
            return some ()
          return none
      return some ()
    if ← acceptWords ["STORED", "AS"] then
      if ← acceptWord "INPUTFORMAT" then
        let _ ← expression r
        expectWord "OUTPUTFORMAT"
        let _ ← expression r
      else
        let _ ← expectOneOf ["AVRO", "JSONFILE", "ORC", "PARQUET", "RCFILE", "SEQUENCEFILE",
          "TEXTFILE"]
      return some ()
    if ← acceptWord "LOCATION" then
      let _ ← literalText
      return some ()
    return none

/-- An option of a table: a keyword with what it is set to. -/
def tableOption : Parse (Option Unit) := do
  let set : Parse (Option Unit) := do
    let _ ← accept "="
    let _ ← r.operand
    return some ()
  if ← acceptWord "DEFAULT" then
    let _ ← expectOneOf ["CHARSET", "CHARACTER", "COLLATE"]
    let _ ← acceptWord "SET"
    set
  else if ← either (acceptWords ["CHARACTER", "SET"])
      (either (acceptWords ["DATA", "DIRECTORY"]) (acceptWords ["INDEX", "DIRECTORY"])) then set
  else
    let words := ["ENGINE", "CHARSET", "COLLATE", "AUTO_INCREMENT", "AUTOEXTEND_SIZE",
      "AVG_ROW_LENGTH", "CHECKSUM", "CONNECTION", "DELAY_KEY_WRITE", "ENCRYPTION",
      "ENGINE_ATTRIBUTE", "INSERT_METHOD", "KEY_BLOCK_SIZE", "MAX_ROWS", "MIN_ROWS", "PACK_KEYS",
      "PASSWORD", "ROW_FORMAT", "SECONDARY_ENGINE_ATTRIBUTE", "STATS_AUTO_RECALC",
      "STATS_PERSISTENT", "STATS_SAMPLE_PAGES", "COMPRESSION", "COMMENT", "TABLESPACE"]
    match ← acceptOneOf words with
    | some _ => set
    | none => return none

/-- The configuration of a table. -/
def tableConfiguration : Parse Unit := do
  let d ← dialect
  if ← acceptWord "INHERITS" then
    let _ ← requiredQualifiedColumns
  if (← options r "WITH").isEmpty then
    if (← options r "TBLPROPERTIES").isEmpty then
      if d.hasMySqlPhrases then
        let _ ← many do
          let _ ← accept ","
          tableOption r
  if ← both (isIn [.bigquery, .postgres, .generic]) (acceptWords ["PARTITION", "BY"]) then
    let _ ← expression r
  if d.isOneOf [.bigquery, .generic] then
    if ← acceptWords ["CLUSTER", "BY"] then
      let _ ← expressions r
    let _ ← options r "OPTIONS"

/-- What happens to a table at the end of a transaction. -/
def onCommit : Parse Unit := do
  if ← acceptWords ["ON", "COMMIT"] then
    unless ← acceptWords ["DELETE", "ROWS"] do
      unless ← acceptWords ["PRESERVE", "ROWS"] do
        unless ← acceptWord "DROP" do
          refuse "Expecting DELETE ROWS, PRESERVE ROWS or DROP"

/-- A name of another table whose refusal is taken back only in part: what it took is gone. -/
def likeTable : Parse Unit := do
  match ← outcome objectName with
  | .ok _ => return
  | .error _ => skip

/-- A created table behind `TABLE`. -/
def createTable : Parse Statement := do
  let d ← dialect
  let _ ← acceptWords ["IF", "NOT", "EXISTS"]
  let name ← objectName
  if ← acceptWords ["ON", "CLUSTER"] then
    let _ ← ident
  if (← acceptOneOf ["LIKE", "ILIKE"]).isSome then likeTable
  if ← acceptWord "CLONE" then likeTable
  tableColumns r
  if ← both (return d == .hive) (acceptWord "COMMENT") then
    let found ← take
    match found.map Lexeme.token with
    | some (.text .single _) => pure ()
    | _ => unexpected "comment" found
  let _ ← acceptWords ["WITHOUT", "ROWID"]
  fileLayout r
  tableConfiguration r
  if ← both (return d.hasColumnStore) (acceptWords ["PRIMARY", "KEY"]) then
    let _ ← expression r
  if ← acceptWords ["ORDER", "BY"] then
    if ← accept "(" then
      let _ ← commasBefore ")" (expression r)
      expect ")"
    else
      let _ ← expression r
  onCommit
  let _ ← acceptWord "STRICT"
  let takesQuery ← if ← acceptWord "AS" then pure true
    else both (return d.hasCreateSelect) (atKeyword "SELECT")
  let query ← given (return takesQuery) r.query
  return .createTable name query

/-- At most `n` parts of a created table in Snowflake, whose parts may stand in any order. One of
them has to say what the table holds, which `isFilled` notes. -/
def looseTableUpTo (name : ObjectName) : Nat → Bool → Option Query → Parse Statement
  | 0, _, query => return .createTable name query
  | n + 1, isFilled, query => do
    let found := (← get).head?
    let finish : Parse Statement := do
      if isFilled then return .createTable name query else refuse "unexpected end of input"
    match found.map Lexeme.token with
    | none => finish
    | some (.mark "(") =>
      tableColumns r
      looseTableUpTo name n true query
    | some (.mark ";") => finish
    | some (.word _ none word) =>
      skip
      let next := looseTableUpTo name n isFilled query
      let set (p : Parse Unit) : Parse Statement := do
        expect "="
        p
        next
      match word with
      | "AS" => looseTableUpTo name n true (some (← r.query))
      | "COPY" =>
        expectWord "GRANTS"
        next
      | "COMMENT" =>
        let _ ← accept "="
        let _ ← literalText
        next
      | "LIKE" | "CLONE" =>
        let _ ← objectName
        looseTableUpTo name n true query
      | "CLUSTER" =>
        expectWord "BY"
        let _ ← bracketed (expressions r)
        next
      | "ENABLE_SCHEMA_EVOLUTION" | "CHANGE_TRACKING" =>
        set do
          let _ ← expectOneOf ["TRUE", "FALSE"]
      | "DATA_RETENTION_TIME_IN_DAYS" | "MAX_DATA_EXTENSION_TIME_IN_DAYS" => set literalNumber
      | "DEFAULT_DDL_COLLATION" | "EXTERNAL_VOLUME" | "CATALOG" | "BASE_LOCATION" =>
        set do
          let _ ← literalText
      | "ON" =>
        expectWord "COMMIT"
        unless ← acceptWords ["DELETE", "ROWS"] do
          unless ← acceptWords ["PRESERVE", "ROWS"] do
            unless ← acceptWord "DROP" do
              refuse "Expecting DELETE ROWS, PRESERVE ROWS or DROP"
        next
      | "IF" =>
        expectWords ["NOT", "EXISTS"]
        next
      | _ => unexpected "end of statement" found
    | some _ =>
      skip
      unexpected "end of statement" found

/-- A created table in Snowflake, behind `TABLE`. -/
def looseTable : Parse Statement := do
  let _ ← acceptWords ["IF", "NOT", "EXISTS"]
  let name ← objectName
  looseTableUpTo r name ((← get).length + 1) false none

/-! ### Views and other objects -/

/-- A created view behind `CREATE` and its options. -/
def createView : Parse Statement := do
  let d ← dialect
  let _ ← acceptWord "SECURE"
  let _ ← acceptWord "MATERIALIZED"
  expectWord "VIEW"
  let _ ← acceptWords ["IF", "NOT", "EXISTS"]
  let _ ← objectName
  let _ ← acceptWords ["IF", "NOT", "EXISTS"]
  if ← accept "(" then
    unless ← accept ")" do
      let _ ← commas do
        let _ ← ident
        if d == .clickhouse then
          let _ ← many (columnOption r)
          let _ ← r.dataType
        else
          let _ ← many (columnOption r)
      expect ")"
  let _ ← options r "WITH"
  if ← acceptWord "CLUSTER" then
    expectWord "BY"
    let _ ← columns false
  if d.isOneOf [.bigquery, .generic] then
    let _ ← options r "OPTIONS"
  if ← both (has Dialect.hasColumnStore) (acceptWord "TO") then
    let _ ← objectName
  if ← both (isIn [.snowflake, .generic]) (acceptWord "COMMENT") then
    expect "="
    let _ ← literalText
  expectWord "AS"
  let _ ← r.query
  if d.isOneOf [.redshift, .generic] then
    let _ ← acceptWords ["WITH", "NO", "SCHEMA", "BINDING"]
  return .other "CREATE"

/-- A created schema behind `SCHEMA`. -/
def createSchema : Parse Statement := do
  let _ ← acceptWords ["IF", "NOT", "EXISTS"]
  if ← acceptWord "AUTHORIZATION" then
    let _ ← ident
  else
    let _ ← objectName
    if ← acceptWord "AUTHORIZATION" then
      let _ ← ident
  let _ ← options r "WITH"
  return .other "CREATE"

/-- A created database behind `DATABASE`. -/
def createDatabase : Parse Statement := do
  let _ ← acceptWords ["IF", "NOT", "EXISTS"]
  let _ ← objectName
  let _ ← many do
    if (← acceptOneOf ["LOCATION", "MANAGEDLOCATION"]).isSome then
      let _ ← literalText
      return some ()
    if ← acceptWord "CLONE" then
      let _ ← objectName
      return some ()
    return none
  return .other "CREATE"

/-- A created index behind `INDEX`. -/
def createIndex : Parse Statement := do
  let _ ← acceptWord "CONCURRENTLY"
  let _ ← acceptWords ["IF", "NOT", "EXISTS"]
  unless ← atKeyword "ON" do
    let _ ← objectName
  expectWord "ON"
  let _ ← objectName
  if ← acceptWord "USING" then
    let _ ← ident
  let _ ← bracketed (orderItems r)
  if ← acceptWord "INCLUDE" then
    let _ ← requiredColumns false
  let _ ← options r "WITH"
  let _ ← behind r "WHERE"
  return .other "CREATE"

/-- A sequence of numbers behind `SEQUENCE`. -/
def createSequence : Parse Statement := do
  let _ ← acceptWords ["IF", "NOT", "EXISTS"]
  let _ ← objectName
  if ← acceptWord "AS" then
    let _ ← r.dataType
  sequenceOptions
  if ← acceptWords ["OWNED", "BY"] then
    unless ← acceptWord "NONE" do
      let _ ← objectName
  return .other "CREATE"

/-- A created table whose rows are kept in files, behind `TABLE`. -/
def createExternalTable : Parse Statement := do
  let _ ← acceptWords ["IF", "NOT", "EXISTS"]
  let name ← objectName
  tableColumns r
  fileLayout r
  let _ ← options r "TBLPROPERTIES"
  return .createTable name none

/-- A created type behind `TYPE`. -/
def createType : Parse Statement := do
  let _ ← objectName
  expectWord "AS"
  if ← acceptWord "ENUM" then
    let _ ← bracketed (commasBefore ")" ident)
  else if ← accept "(" then
    unless ← accept ")" do attributesUpTo ((← get).length + 1)
  return .other "CREATE"
where
  /-- At most `n` attributes, up to the closing bracket. -/
  attributesUpTo : Nat → Parse Unit
    | 0 => return
    | n + 1 => do
      let _ ← ident
      let _ ← r.dataType
      if ← acceptWord "COLLATE" then
        let _ ← objectName
      let comma ← accept ","
      if ← accept ")" then return
      else if comma then attributesUpTo n
      else expected "',' or ')' after attribute definition"

/-- A created domain behind `DOMAIN`. -/
def createDomain : Parse Statement := do
  let _ ← objectName
  expectWord "AS"
  let _ ← r.dataType
  if ← acceptWord "COLLATE" then
    let _ ← ident
  let _ ← behind r "DEFAULT"
  let _ ← many (tableConstraint r)
  return .other "CREATE"

/-- A created extension behind `EXTENSION`. -/
def createExtension : Parse Statement := do
  let _ ← acceptWords ["IF", "NOT", "EXISTS"]
  let _ ← ident
  if ← acceptWord "WITH" then
    if ← acceptWord "SCHEMA" then
      let _ ← ident
    if ← acceptWord "VERSION" then
      let _ ← ident
    let _ ← acceptWord "CASCADE"
  return .other "CREATE"

/-- An option of a role, if one follows. -/
def roleOption : Parse (Option Unit) := do
  match ← acceptOneOf ["LOGIN", "NOLOGIN", "INHERIT", "NOINHERIT", "BYPASSRLS", "NOBYPASSRLS",
    "PASSWORD", "CREATEDB", "NOCREATEDB", "CREATEROLE", "NOCREATEROLE", "SUPERUSER", "NOSUPERUSER",
    "REPLICATION", "NOREPLICATION", "CONNECTION", "VALID", "IN", "ROLE", "ADMIN", "USER"] with
  | none => return none
  | some "PASSWORD" =>
    unless ← acceptWord "NULL" do
      let _ ← expression r
  | some "CONNECTION" =>
    expectWord "LIMIT"
    let _ ← expression r
  | some "VALID" =>
    expectWord "UNTIL"
    let _ ← expression r
  | some "IN" =>
    let _ ← expectOneOf ["ROLE", "GROUP"]
    let _ ← commas ident
  | some "ROLE" | some "ADMIN" | some "USER" =>
    let _ ← commas ident
  | some _ => return some ()
  return some ()

/-- A created role behind `ROLE`. -/
def createRole : Parse Statement := do
  let _ ← acceptWords ["IF", "NOT", "EXISTS"]
  let _ ← commas objectName
  let _ ← acceptWord "WITH"
  match ← dialect with
  | .postgres =>
    let _ ← many (roleOption r)
  | .mssql =>
    if ← acceptWord "AUTHORIZATION" then
      let _ ← objectName
  | _ => return .other "CREATE"
  return .other "CREATE"

/-- How the server runs a view, and for whom. -/
def viewParameters : Parse Unit := do
  if ← acceptWord "ALGORITHM" then
    expect "="
    let _ ← expectOneOf ["UNDEFINED", "MERGE", "TEMPTABLE"]
  if ← acceptWord "DEFINER" then
    expect "="
    userName
  if ← acceptWords ["SQL", "SECURITY"] then
    let _ ← expectOneOf ["DEFINER", "INVOKER"]

/-- A created object behind `CREATE`. -/
def create : Parse Statement := do
  let replaces ← acceptWords ["OR", "REPLACE"]
  let _ ← acceptWords ["OR", "ALTER"]
  let _ ← acceptWord "LOCAL"
  let _ ← acceptWord "GLOBAL"
  let _ ← acceptWord "TRANSIENT"
  let _ ← acceptOneOf ["TEMP", "TEMPORARY"]
  let hasFunctions ← isIn [.postgres, .generic, .hive]
  viewParameters
  if ← acceptWord "TABLE" then
    if ← isIn [.snowflake] then looseTable r else createTable r
  else if ← either (atOneOf ["MATERIALIZED", "VIEW"])
      (both (atKeyword "SECURE") (either (isKeywordAt 1 "MATERIALIZED") (isKeywordAt 1 "VIEW"))) then
    createView r
  else if ← acceptWord "EXTERNAL" then
    expectWord "TABLE"
    createExternalTable r
  else if ← both (return hasFunctions) (acceptWord "FUNCTION") then createFunction r
  else if ← both (return !hasFunctions) (atKeyword "FUNCTION") then
    expected "an object type after CREATE"
  else if ← acceptWord "DOMAIN" then createDomain r
  else if replaces then
    expected "[EXTERNAL] TABLE or [MATERIALIZED] VIEW or FUNCTION after CREATE OR REPLACE"
  else if ← acceptWord "EXTENSION" then createExtension
  else if ← acceptWord "INDEX" then createIndex r
  else if ← acceptWords ["UNIQUE", "INDEX"] then createIndex r
  else if ← acceptWord "SCHEMA" then createSchema r
  else if ← acceptWord "DATABASE" then createDatabase
  else if ← acceptWord "SEQUENCE" then createSequence r
  else if ← acceptWord "ROLE" then createRole r
  else if ← acceptWord "TYPE" then createType r
  else if ← acceptWord "PROCEDURE" then createProcedure r
  else expected "an object type after CREATE"

/-! ### Changes of definitions -/

/-- What happens to the objects that depend on a dropped one. -/
def dropBehavior : Parse Unit := do
  let _ ← acceptOneOf ["CASCADE", "RESTRICT"]

/-- A dropped object behind `DROP`. -/
def drop : Parse Statement := do
  if ← both (isIn [.mysql, .generic, .duckdb]) (acceptWord "TEMPORARY") then pure ()
  let kinds := [["TABLE"], ["VIEW"], ["MATERIALIZED", "VIEW"], ["INDEX"], ["ROLE"], ["SCHEMA"],
    ["DATABASE"], ["SEQUENCE"], ["STAGE"], ["TYPE"], ["USER"], ["FUNCTION"], ["PROCEDURE"],
    ["DOMAIN"], ["EXTENSION"]]
  let kind ← kinds.foldlM (fun found words => do
    if found.isSome then return found
    else if ← acceptWords words then return some words
    else return none) none
  match kind with
  | none => expected "an object type after DROP"
  | some kind =>
    let _ ← acceptWords ["IF", "EXISTS"]
    let _ ← commas do
      let _ ← objectName
      if kind == ["FUNCTION"] || kind == ["PROCEDURE"] then
        if ← accept "(" then
          let _ ← commasBefore ")" r.dataType
          expect ")"
    let place := (← get).head?.map Lexeme.place
    let cascades ← acceptWord "CASCADE"
    let restricts ← acceptWord "RESTRICT"
    let purges ← acceptWord "PURGE"
    if cascades && restricts then
      throw (.refused "Cannot specify both CASCADE and RESTRICT in DROP" place)
    if kind == ["ROLE"] && (cascades || restricts || purges) then
      throw (.refused "Cannot specify CASCADE, RESTRICT, or PURGE in DROP ROLE" place)
    if ← acceptWord "ON" then
      let _ ← objectName
    return .other "DROP"

/-- Where a column is put. -/
def columnPosition : Parse Unit := do
  if ← has Dialect.hasMySqlPhrases then
    unless ← acceptWord "FIRST" do
      if ← acceptWord "AFTER" then
        let _ ← ident

/-- A partition of a table, behind `PARTITION`. -/
def partition : Parse Unit := do
  let _ ← bracketed (expressions r)

/-- What is added to a table, behind `ADD`. -/
def alterAdd : Parse Unit := do
  if (← tableConstraint r).isSome then return
  let _ ← acceptWords ["IF", "NOT", "EXISTS"]
  if ← acceptWord "PARTITION" then
    partition r
    let _ ← many (given (acceptWord "PARTITION") (partition r))
  else
    let _ ← acceptWord "COLUMN"
    let _ ← acceptWords ["IF", "NOT", "EXISTS"]
    columnDefinition r
    columnPosition

/-- What is dropped from a table, behind `DROP`. -/
def alterDrop : Parse Unit := do
  if ← acceptWords ["IF", "EXISTS", "PARTITION"] then partition r
  else if ← acceptWord "PARTITION" then partition r
  else if ← acceptWord "CONSTRAINT" then
    let _ ← acceptWords ["IF", "EXISTS"]
    let _ ← ident
    dropBehavior
  else if ← acceptWords ["PRIMARY", "KEY"] then dropBehavior
  else if ← acceptWords ["FOREIGN", "KEY"] then
    let _ ← ident
    dropBehavior
  else if ← acceptWord "INDEX" then
    let _ ← ident
  else
    let _ ← acceptWord "COLUMN"
    let _ ← acceptWords ["IF", "EXISTS"]
    let _ ← if ← isIn [.snowflake] then commas ident else pure [← ident]
    dropBehavior

/-- How a column of a table is altered, behind `ALTER`. -/
def alterColumn : Parse Unit := do
  let _ ← acceptWord "COLUMN"
  let _ ← ident
  if ← acceptWords ["SET", "NOT", "NULL"] then return
  if ← acceptWords ["DROP", "NOT", "NULL"] then return
  if ← acceptWords ["SET", "DEFAULT"] then
    let _ ← expression r
  else if ← acceptWords ["DROP", "DEFAULT"] then return
  else if ← either (acceptWords ["SET", "DATA", "TYPE"]) (acceptWord "TYPE") then
    let _ ← r.dataType
    let _ ← behind r "USING"
  else expected "SET/DROP NOT NULL, SET DEFAULT, or SET DATA TYPE after ALTER COLUMN"

/-- What a table or a column is renamed to, behind `RENAME`. -/
def alterRename : Parse Unit := do
  let d ← dialect
  if ← both (return d == .postgres) (acceptWord "CONSTRAINT") then
    let _ ← ident
    expectWord "TO"
    let _ ← ident
  else if ← acceptWord "TO" then
    let _ ← objectName
  else if ← acceptWord "AS" then
    let _ ← objectName
  else
    let _ ← acceptWord "COLUMN"
    let _ ← ident
    expectWord "TO"
    let _ ← ident

/-- A change of a table. -/
def alteration : Parse Unit := do
  if ← acceptWord "ADD" then alterAdd r
  else if ← acceptWord "RENAME" then alterRename
  else if ← acceptWord "DROP" then alterDrop r
  else if ← acceptWord "CHANGE" then
    let _ ← acceptWord "COLUMN"
    let _ ← ident
    columnDefinition r
    columnPosition
  else if ← acceptWord "MODIFY" then
    let _ ← acceptWord "COLUMN"
    columnDefinition r
    columnPosition
  else if ← acceptWord "ALTER" then alterColumn r
  else if ← acceptWord "SWAP" then
    expectWord "WITH"
    let _ ← objectName
  else if ← both (isIn [.postgres, .generic]) (acceptWords ["OWNER", "TO"]) then
    let _ ← ident
  else if ← acceptWord "SET" then
    if ← accept "(" then
      let _ ← commasBefore ")" do
        let _ ← ident
        expect "="
        expression r
      expect ")"
    else
      expectWord "TBLPROPERTIES"
      let _ ← bracketed (commas (expression r))
  else
    expected "ADD, RENAME, PARTITION, SWAP, DROP, REPLICA IDENTITY, CLUSTER, SUSPEND, or ALTER after ALTER TABLE"

/-- A change of a definition behind `ALTER`. -/
def alter : Parse Statement := do
  let kind ← expectOneOf ["VIEW", "TYPE", "TABLE", "INDEX", "ROLE", "POLICY", "CONNECTOR",
    "ICEBERG", "SCHEMA", "USER"]
  match kind with
  | "TABLE" =>
    let _ ← acceptWords ["IF", "EXISTS"]
    let _ ← acceptWord "ONLY"
    let _ ← objectName
    if ← acceptWords ["ON", "CLUSTER"] then
      let _ ← ident
    let _ ← commas (alteration r)
    if ← either (acceptWord "LOCATION") (acceptWords ["SET", "LOCATION"]) then
      let _ ← ident
  | "VIEW" =>
    let _ ← objectName
    let _ ← columns false
    let _ ← options r "WITH"
    expectWord "AS"
    let _ ← r.query
  | "INDEX" =>
    let _ ← objectName
    expectWord "RENAME"
    expectWord "TO"
    let _ ← objectName
  | _ =>
    let _ ← objectName
    expectWords ["RENAME", "TO"]
    let _ ← objectName
  return .other "ALTER"

end QueryFlow.Sql.Grammar
