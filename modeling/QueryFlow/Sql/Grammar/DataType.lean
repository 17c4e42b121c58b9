import QueryFlow.Sql.Grammar.Rules

/-!
# Types of values

A type is a keyword with what may stand behind it, or the name of a type that users define. Whether
a name is a type of users decides whether a text behind it is a value of that type.

The keywords fall into classes by what may stand behind them: nothing, a width and a sign, a
precision and a scale, a precision alone, or a length. Each class is a list of words with one step
for its members, and only types of a form of their own have a case in `typeOf`.
-/

namespace QueryFlow.Sql.Grammar

open Parse

/-- Types without anything behind them. -/
def plainTypes : List String :=
  ["BOOLEAN", "BOOL", "REAL", "FLOAT4", "FLOAT32", "FLOAT64", "FLOAT8", "INT16", "INT32", "INT64",
    "INT128", "INT256", "HUGEINT", "UHUGEINT", "UBIGINT", "USMALLINT", "UTINYINT", "UINT8",
    "UINT16", "UINT32", "UINT64", "UINT128", "UINT256", "UUID", "DATE", "DATE32", "JSON", "JSONB",
    "REGCLASS", "TEXT", "TINYTEXT", "MEDIUMTEXT", "LONGTEXT", "BYTEA", "TINYBLOB", "MEDIUMBLOB",
    "LONGBLOB", "TRIGGER"]

/-- Types of whole numbers, which may have a width and a sign. -/
def wholeTypes : List String :=
  ["TINYINT", "INT2", "SMALLINT", "MEDIUMINT", "INT", "INT4", "INT8", "INTEGER", "BIGINT"]

/-- Types with a precision and a scale. -/
def exactTypes : List String :=
  ["NUMERIC", "DECIMAL", "DEC", "BIGNUMERIC", "BIGDECIMAL", "FLOAT"]

/-- Types with a precision. -/
def precisionTypes : List String :=
  ["CLOB", "BINARY", "BLOB", "BYTES", "STRING", "DATETIME", "TIMESTAMPTZ", "TIMETZ"]

/-- Types with a length. -/
def lengthTypes : List String := ["VARCHAR", "NVARCHAR", "CHARACTER", "CHAR", "VARBINARY"]

/-- A length in brackets, if brackets are next. -/
def optionalLength : Parse Unit := do
  if ← accept "(" then
    unless ← acceptWord "MAX" do
      literalNumber
      let _ ← acceptOneOf ["CHARACTERS", "OCTETS"]
    expect ")"

/-- A precision and a scale in brackets, if brackets are next. -/
def optionalScale : Parse Unit := do
  if ← accept "(" then
    literalNumber
    if ← accept "," then
      let _ ← accept "-"
      literalNumber
    expect ")"

/-- Whether a type of times knows its zone. -/
def optionalZone : Parse Unit := do
  optionalPrecision
  if ← acceptWord "WITH" then expectWords ["TIME", "ZONE"]
  else if ← acceptWord "WITHOUT" then expectWords ["TIME", "ZONE"]

/-- What stands in brackets behind the name of a type. -/
def modifier : Parse (Option Unit) := do
  let found ← take
  match found.map Lexeme.token with
  | some (.word ..) => return some ()
  | some (.number ..) => return some ()
  | some (.text .single _) => return some ()
  | some (.mark ",") => return some ()
  | some (.mark ")") => return none
  | _ => unexpected "type modifiers" found

/-- A type that users define. -/
def customType : Parse DataType := do
  let name ← objectName
  if ← accept "(" then
    let _ ← many modifier
  return .custom name

/-- Units of time. -/
def timeUnits : List String :=
  ["YEAR", "YEARS", "MONTH", "MONTHS", "WEEK", "WEEKS", "DAY", "DAYS", "DAYOFWEEK", "DAYOFYEAR",
    "DATE", "DATETIME", "HOUR", "HOURS", "MINUTE", "MINUTES", "SECOND", "SECONDS", "CENTURY",
    "DECADE", "DOW", "DOY", "EPOCH", "ISODOW", "ISOYEAR", "JULIAN", "MICROSECOND", "MICROSECONDS",
    "MILLENIUM", "MILLENNIUM", "MILLISECOND", "MILLISECONDS", "NANOSECOND", "NANOSECONDS",
    "QUARTER", "TIME", "TIMEZONE", "TIMEZONE_ABBR", "TIMEZONE_HOUR", "TIMEZONE_MINUTE",
    "TIMEZONE_REGION", "NODATETIME"]

/-- The fields of a type of intervals. -/
def intervalFields : Parse Unit := do
  let fields := ["YEAR", "DAY", "HOUR", "MINUTE", "MONTH", "SECOND"]
  if let some _ ← acceptOneOf fields then
    if ← acceptWord "TO" then
      let _ ← expectOneOf fields
  optionalPrecision

variable (r : Rules)

/-- A type in angle brackets. -/
def innerType : Parse Unit := do
  expect "<"
  let _ ← r.dataType
  if ← accept ">>" then return
  expect ">"

/-- A type in brackets. -/
def bracketedType : Parse Unit := do
  let _ ← bracketed r.dataType

/-- A field of a structure: a type, or a name and a type. -/
def structField : Parse Unit := do
  let named ← attempt do
    let _ ← ident
    let _ ← accept ":"
    let _ ← r.dataType
  unless named.isSome do
    let _ ← r.dataType

/-- A type by its keyword, which has been taken; `before` are the lexemes from the keyword on. -/
def typeOf (word : String) (before : List Lexeme) : Parse DataType := do
  let d ← dialect
  let builtIn (p : Parse Unit) : Parse DataType := do
    p
    return .builtIn word
  let custom : Parse DataType := do
    set before
    customType
  if plainTypes.contains word then builtIn (return)
  else if wholeTypes.contains word then
    builtIn do
      optionalPrecision
      let _ ← acceptOneOf ["UNSIGNED", "SIGNED"]
  else if exactTypes.contains word then builtIn optionalScale
  else if precisionTypes.contains word then builtIn optionalPrecision
  else if word == "DOUBLE" then
    builtIn do unless ← acceptWord "PRECISION" do optionalScale
  else if word == "CHARACTER" || word == "CHAR" then
    builtIn do
      if ← acceptWords ["LARGE", "OBJECT"] then optionalPrecision
      else
        let _ ← acceptWord "VARYING"
        optionalLength
  else if lengthTypes.contains word then builtIn optionalLength
  else if word == "BIT" then
    builtIn do
      let _ ← acceptWord "VARYING"
      optionalPrecision
  else if word == "VARBIT" then builtIn optionalPrecision
  else if word == "TIMESTAMP" || word == "TIME" then builtIn optionalZone
  else if word == "TIMESTAMP_NTZ" then builtIn (return)
  else if word == "INTERVAL" then
    if d.hasIntervalFields then intervalFields
    return .interval
  else if word == "DATETIME64" then
    builtIn do
      expect "("
      literalNumber
      if ← accept "," then
        let _ ← literalText
      expect ")"
  else if word == "FIXEDSTRING" then builtIn (bracketed literalNumber)
  else if word == "ENUM" || word == "ENUM8" || word == "ENUM16" then
    builtIn do
      let _ ← bracketed (commas do
        let _ ← literalText
        if ← accept "=" then
          let _ ← numberValue)
  else if word == "SET" then
    builtIn do
      let _ ← bracketed (commas literalText)
  else if word == "ARRAY" then
    if d == .snowflake then return .builtIn word
    else if d == .clickhouse then builtIn (bracketedType r)
    else builtIn (innerType r)
  else if word == "STRUCT" && d.hasStructures then
    builtIn do
      if ← accept "<" then
        let _ ← commas (structField r)
        unless ← accept ">>" do expect ">"
  else if word == "NULLABLE" && d.hasColumnStore then builtIn (bracketedType r)
  else if word == "LOWCARDINALITY" && d.hasColumnStore then builtIn (bracketedType r)
  else if word == "MAP" && d.hasColumnStore then
    builtIn do
      let _ ← bracketed (do
        let _ ← r.dataType
        expect ","
        r.dataType)
  else if word == "TUPLE" && d.hasColumnStore then
    builtIn do
      let _ ← bracketed (commas (structField r))
  else if word == "ANY" && (← atKeyword "TYPE") then builtIn skip
  else if word == "SIGNED" || word == "UNSIGNED" then
    builtIn do
      let _ ← acceptWord "INTEGER"
  else if (word == "TSVECTOR" || word == "TSQUERY") && d.isOneOf [.postgres, .generic] then
    builtIn (return)
  else if d.hasGeometry
      && ["POINT", "LINE", "LSEG", "BOX", "PATH", "POLYGON", "CIRCLE"].contains word then
    builtIn (return)
  else custom

/-- A type, and the brackets that make arrays of it. -/
def dataTypeRule : Parse DataType := do
  let before ← get
  let found ← take
  let base ← match found with
    | some l =>
      match l.token with
      | .word _ none spelling => typeOf r spelling before
      | .word _ (some _) _ => do
        set before
        customType
      | _ => unexpected "a data type name" found
    | none => unexpected "a data type name" found
  if ← has Dialect.hasBracketArrays then
    chain (fun _ => do
      if ← accept "[" then
        let _ ← attempt literalNumber
        expect "]"
        return some (.builtIn "ARRAY")
      else return none) base
  else return base

end QueryFlow.Sql.Grammar
