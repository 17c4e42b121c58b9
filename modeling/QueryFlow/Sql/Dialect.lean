import QueryFlow.Text.Letter
import QueryFlow.Text.Lowercase

/-!
# Dialects of SQL

A dialect is chosen by its name, in any case. What the dialects disagree on is given as one
predicate for each point of disagreement: which characters make a name, which quotes hold one, and
which phrases the grammar has. The lexer and the grammar ask for such a property where there is one,
and for the dialect itself only in phrases that no other dialect has anything like.

Some properties are those of a single dialect. They are named for what they are all the same,
because the place that asks is about the phrase and not about the dialect.

## Main statement

* `ofName?_name`: every dialect is found by its own name.
-/

namespace QueryFlow.Sql

open QueryFlow.Text

/-- The dialects of SQL. -/
inductive Dialect
  | generic
  | mysql
  | postgres
  | hive
  | sqlite
  | snowflake
  | redshift
  | mssql
  | clickhouse
  | bigquery
  | ansi
  | duckdb
  | databricks
  | oracle
deriving DecidableEq, Repr

namespace Dialect

/-- The name of a dialect. -/
def name : Dialect → String
  | generic => "generic"
  | mysql => "mysql"
  | postgres => "postgresql"
  | hive => "hive"
  | sqlite => "sqlite"
  | snowflake => "snowflake"
  | redshift => "redshift"
  | mssql => "mssql"
  | clickhouse => "clickhouse"
  | bigquery => "bigquery"
  | ansi => "ansi"
  | duckdb => "duckdb"
  | databricks => "databricks"
  | oracle => "oracle"

/-- The dialect that a name in lower case stands for. -/
def ofLowerName? : String → Option Dialect
  | "generic" => some generic
  | "mysql" => some mysql
  | "postgresql" => some postgres
  | "postgres" => some postgres
  | "hive" => some hive
  | "sqlite" => some sqlite
  | "snowflake" => some snowflake
  | "redshift" => some redshift
  | "mssql" => some mssql
  | "clickhouse" => some clickhouse
  | "bigquery" => some bigquery
  | "ansi" => some ansi
  | "duckdb" => some duckdb
  | "databricks" => some databricks
  | "oracle" => some oracle
  | _ => none

/-- The dialect that a name stands for, whatever its case. -/
def ofName? (name : String) : Option Dialect := ofLowerName? (lowercase name)

/-- Every dialect is found by its own name. -/
theorem ofName?_name (d : Dialect) : ofName? d.name = some d := by
  cases d <;> decide +kernel

/-- The dialect is one of `ds`. -/
def isOneOf (d : Dialect) (ds : List Dialect) : Bool := ds.contains d

/-! ### Names -/

/-- An ASCII letter. -/
def isAsciiLetter (c : Char) : Bool := c.isAlpha

/-- A character outside ASCII. -/
def isBeyondAscii (c : Char) : Bool := decide (128 ≤ c.toNat)

/-- A name can start with the character. -/
def startsName : Dialect → Char → Bool
  | generic, c => isLetter c || c == '_' || c == '#' || c == '@'
  | mysql, c => isLetter c || c == '_' || c == '$' || c == '@' || isBeyondAscii c
  | postgres, c => isLetter c || c == '_' || isBeyondAscii c
  | redshift, c => isLetter c || c == '_' || c == '#' || isBeyondAscii c
  | hive, c => isAsciiLetter c || c.isDigit || c == '$'
  | sqlite, c => isAsciiLetter c || c == '_' || (isBeyondAscii c && decide (c.toNat ≤ 0xffff))
  | mssql, c => isLetter c || c == '_' || c == '#' || c == '@'
  | bigquery, c => isAsciiLetter c || c == '_' || c == '@'
  | duckdb, c => isLetter c || c == '_'
  | oracle, c => isLetter c
  | ansi, c => isAsciiLetter c
  | snowflake, c | clickhouse, c | databricks, c => isAsciiLetter c || c == '_'

/-- A name can go on with the character. -/
def continuesName : Dialect → Char → Bool
  | generic, c =>
    isLetter c || c.isDigit || c == '@' || c == '$' || c == '#' || c == '_'
  | mysql, c => startsName mysql c || c.isDigit
  | postgres, c => isLetter c || c.isDigit || c == '$' || c == '_' || isBeyondAscii c
  | redshift, c => isLetter c || c.isDigit || c == '$' || c == '_' || c == '#' || isBeyondAscii c
  | hive, c =>
    isAsciiLetter c || c.isDigit || c == '_' || c == '$' || c == '\x7b' || c == '\x7d'
  | sqlite, c => startsName sqlite c || c.isDigit
  | snowflake, c => isAsciiLetter c || c.isDigit || c == '_' || c == '$'
  | mssql, c =>
    isLetter c || c.isDigit || c == '@' || c == '$' || c == '#' || c == '_'
  | clickhouse, c => isAsciiLetter c || c.isDigit || c == '_'
  | bigquery, c => isAsciiLetter c || c.isDigit || c == '_'
  | ansi, c => isAsciiLetter c || c.isDigit || c == '_'
  | duckdb, c => isLetter c || c.isDigit || c == '$' || c == '_'
  | databricks, c => isAsciiLetter c || c.isDigit || c == '_'
  | oracle, c => isLetter c || c.isDigit || c == '_' || c == '$' || c == '#' || c == '@'

/-- The character is a quote that opens a name. -/
def opensName : Dialect → Char → Bool
  | mysql, c | bigquery, c | databricks, c => c == '\x60'
  | postgres, c | oracle, c => c == '"'
  | mssql, c => c == '"' || c == '['
  | sqlite, c => c == '\x60' || c == '"' || c == '['
  | _, c => c == '"' || c == '\x60'

/-- A square bracket opens a name if a name or a quoted name follows it. -/
def hasBracketNames (d : Dialect) : Bool := d == redshift

/-- A name may start with digits. -/
def hasDigitNames (d : Dialect) : Bool := d.isOneOf [mysql, hive]

/-! ### Text, comments and operators -/

/-- A backslash escapes the character behind it in a text. -/
def hasBackslashEscapes (d : Dialect) : Bool :=
  d.isOneOf [redshift, mysql, snowflake, clickhouse, bigquery]

/-- A backslash before a wildcard stays in a text. -/
def keepsWildcardEscapes (d : Dialect) : Bool := d == mysql

/-- Three quotes open and close a text. -/
def hasTripleQuotes (d : Dialect) : Bool := d == bigquery

/-- A `B` before a quote opens a text of bytes. -/
def hasByteTexts (d : Dialect) : Bool := d.isOneOf [bigquery, postgres, mysql, generic]

/-- An `R` before a quote opens a raw text. -/
def hasRawTexts (d : Dialect) : Bool := d.isOneOf [bigquery, generic]

/-- An `E` before a quote opens a text with escapes. -/
def hasEscapeTexts (d : Dialect) : Bool := d.isOneOf [generic, postgres, redshift]

/-- A text with escapes may stand as a value. -/
def valuesEscapeTexts (d : Dialect) : Bool := d.isOneOf [generic, postgres]

/-- A `U&` before a quote opens a text of code points. -/
def hasCodePointTexts (d : Dialect) : Bool := d.isOneOf [generic, postgres]

/-- A dollar sign opens a placeholder only. -/
def hasDollarPlaceholders (d : Dialect) : Bool := d == sqlite

/-- Digits of a number may be grouped by underscores. -/
def hasDigitGroups (d : Dialect) : Bool := d.isOneOf [clickhouse, postgres]

/-- A comment from two dashes needs a space behind them. -/
def needsSpaceInComments (d : Dialect) : Bool := d == mysql

/-- A number sign opens a comment. -/
def hasNumberSignComments (d : Dialect) : Bool := d.isOneOf [snowflake, bigquery, mysql, hive]

/-- Two slashes open a comment. -/
def hasSlashComments (d : Dialect) : Bool := d == snowflake

/-- Comments nest. -/
def nestsComments (d : Dialect) : Bool := d.isOneOf [postgres, generic, mssql, ansi]

/-- There are operators on geometric values. -/
def hasGeometry (d : Dialect) : Bool := d.isOneOf [postgres, redshift]

/-- There is a pipe between steps of a query. -/
def hasPipes (d : Dialect) : Bool := d.isOneOf [generic, bigquery]

/-- The character can be part of an operator that users define. -/
def continuesOperator (d : Dialect) (c : Char) : Bool :=
  d == postgres && "+-*/<>=~!@#%^&|\x60?".toList.contains c

/-! ### Phrases -/

/-- A query may start with its tables. -/
def hasTablesFirst (d : Dialect) : Bool := d.isOneOf [generic, duckdb, clickhouse]

/-- The number of rows stands before `DISTINCT`. -/
def hasTopFirst (d : Dialect) : Bool := d == redshift

/-- A query may select nothing. -/
def hasEmptySelection (d : Dialect) : Bool := d.isOneOf [generic, postgres]

/-- A comma may stand behind the last item of any list. -/
def hasTrailingCommas (d : Dialect) : Bool := d == duckdb

/-- A comma may stand behind the last selected item. -/
def hasTrailingSelectionCommas (d : Dialect) : Bool :=
  d.isOneOf [generic, duckdb, bigquery, snowflake]

/-- A comma may stand behind the last table. -/
def hasTrailingTableCommas (d : Dialect) : Bool := d == snowflake

/-- A single table may stand in brackets. -/
def hasBracketedTables (d : Dialect) : Bool := d.isOneOf [snowflake, generic]

/-- Joins without brackets associate to the left. -/
def joinsLeft (d : Dialect) : Bool := d != snowflake

/-- `VALUES` may stand for a table without brackets. -/
def hasBareValues (d : Dialect) : Bool := d.isOneOf [snowflake, databricks, generic]

/-- `UNNEST` makes a table. -/
def hasUnnest (d : Dialect) : Bool := d.isOneOf [bigquery, postgres, generic]

/-- A sample is taken before the table is named. -/
def samplesBeforeAlias (d : Dialect) : Bool := d == hive

/-- Tables take hints about their indexes. -/
def hasIndexHints (d : Dialect) : Bool := d == mysql

/-- Paths lead into nested values. -/
def hasValuePaths (d : Dialect) : Bool := d == redshift

/-- Tables have versions. -/
def hasTableVersions (d : Dialect) : Bool := d.isOneOf [bigquery, mssql, snowflake, databricks]

/-- Patterns of rows can be matched. -/
def hasRowPatterns (d : Dialect) : Bool := d.isOneOf [snowflake, generic, oracle]

/-- Two dots leave the schema out. -/
def hasDoubleDots (d : Dialect) : Bool := d.isOneOf [snowflake, mssql]

/-- A star excludes columns by `EXCLUDE`. -/
def hasStarExclude (d : Dialect) : Bool := d.isOneOf [generic, snowflake, redshift, duckdb]

/-- A selection excludes columns by `EXCLUDE`. -/
def hasSelectExclude (d : Dialect) : Bool := d == redshift

/-- A star leaves columns out by `EXCEPT`. -/
def hasStarExcept (d : Dialect) : Bool := d.isOneOf [generic, bigquery, clickhouse, duckdb]

/-- A star replaces columns. -/
def hasStarReplace (d : Dialect) : Bool :=
  d.isOneOf [generic, bigquery, clickhouse, duckdb, snowflake]

/-- A star renames columns and picks them by a pattern. -/
def hasStarRename (d : Dialect) : Bool := d.isOneOf [generic, snowflake]

/-- A star may follow any expression. -/
def hasExpressionStars (d : Dialect) : Bool := d.isOneOf [bigquery, snowflake]

/-- `GROUP BY` takes sets of expressions. -/
def hasGroupingSets (d : Dialect) : Bool :=
  d.isOneOf [generic, postgres, duckdb, snowflake, redshift, hive, oracle]

/-- `GROUP BY` takes modifiers behind its expressions. -/
def hasGroupModifiers (d : Dialect) : Bool := d.isOneOf [generic, clickhouse, mysql]

/-- Rows are read along a hierarchy. -/
def hasConnectBy (d : Dialect) : Bool := d.isOneOf [generic, snowflake, redshift, oracle, mssql]

/-- `LIMIT` takes two numbers. -/
def hasLimitComma (d : Dialect) : Bool := d.isOneOf [mysql, generic, sqlite, clickhouse, duckdb]

/-- Phrases of the column store ClickHouse. -/
def hasColumnStore (d : Dialect) : Bool := d.isOneOf [clickhouse, generic]

/-- `ORDER BY ALL` is a phrase. -/
def hasOrderByAll (d : Dialect) : Bool := d.isOneOf [clickhouse, duckdb, snowflake]

/-- `FILTER` narrows what an aggregate reads. -/
def hasFilter (d : Dialect) : Bool :=
  d.isOneOf [generic, postgres, duckdb, hive, sqlite, databricks]

/-- A function takes parameters before its arguments. -/
def hasFunctionParameters (d : Dialect) : Bool := d.isOneOf [clickhouse, generic, hive]

/-- The treatment of nulls stands among the arguments. -/
def hasNullsInArguments (d : Dialect) : Bool := d.isOneOf [generic, snowflake, redshift, bigquery]

/-- A query may be the only argument without brackets of its own. -/
def hasQueryArguments (d : Dialect) : Bool := d == snowflake

/-- An argument is named by an expression. -/
def namesArgumentsByExpressions (d : Dialect) : Bool := d.isOneOf [mssql, postgres]

/-- A colon names an argument. -/
def hasColonArguments (d : Dialect) : Bool := d.isOneOf [mssql, postgres]

/-- `:=` names an argument. -/
def hasAssignedArguments (d : Dialect) : Bool :=
  d.isOneOf [generic, postgres, duckdb, snowflake]

/-- There are names for truth values. -/
def hasTruthValues (d : Dialect) : Bool := d != mssql

/-- An interval needs a unit behind its value. -/
def needsIntervalUnit (d : Dialect) : Bool :=
  d.isOneOf [mysql, bigquery, databricks, hive, ansi]

/-- The type of intervals takes fields. -/
def hasIntervalFields (d : Dialect) : Bool := d.isOneOf [generic, postgres]

/-- `CONVERT` names the type before the value. -/
def convertsTypeFirst (d : Dialect) : Bool := d.isOneOf [redshift, mssql]

/-- `TRY_CONVERT` is an expression. -/
def hasTryConvert (d : Dialect) : Bool := d.isOneOf [generic, mssql]

/-- A part of a time may be any name. -/
def hasNamedTimeParts (d : Dialect) : Bool := d.isOneOf [generic, snowflake, postgres]

/-- A part of a time may be quoted. -/
def hasQuotedTimeParts (d : Dialect) : Bool :=
  d.isOneOf [generic, snowflake, postgres, redshift]

/-- Structures and dictionaries are written in line. -/
def hasStructures (d : Dialect) : Bool := d.isOneOf [generic, bigquery, databricks]

/-- Dictionaries are written in braces. -/
def hasDictionaries (d : Dialect) : Bool := d.isOneOf [generic, duckdb]

/-- Arrays are typed by brackets. -/
def hasBracketArrays (d : Dialect) : Bool := d.isOneOf [generic, postgres, redshift, duckdb]

/-- `!` negates. -/
def hasBangNot (d : Dialect) : Bool := d.isOneOf [hive, databricks]

/-- `!` behind a number is its factorial. -/
def hasFactorial (d : Dialect) : Bool := d == postgres

/-- `NOTNULL` is an operator. -/
def hasNotNullOperator (d : Dialect) : Bool := d.isOneOf [duckdb, sqlite, postgres]

/-- Functions are written in line with an arrow. -/
def hasLambdas (d : Dialect) : Bool := d.isOneOf [clickhouse, databricks, duckdb]

/-- `(+)` marks an outer join. -/
def hasOuterJoinMark (d : Dialect) : Bool := d.isOneOf [snowflake, oracle, mssql]

/-- `MATCH … AGAINST` is an expression. -/
def hasMatchAgainst (d : Dialect) : Bool := d.isOneOf [mysql, generic]

/-- `INSERT … SET` is a phrase. -/
def hasInsertSet (d : Dialect) : Bool := d.isOneOf [mysql, generic]

/-- Phrases that only the generic dialect and MySQL have. -/
def hasMySqlPhrases (d : Dialect) : Bool := d.isOneOf [mysql, generic]

/-- A list may be empty behind `IN`. -/
def hasEmptyIn (d : Dialect) : Bool := d == sqlite

/-- A table is made from a query without `AS`. -/
def hasCreateSelect (d : Dialect) : Bool := d == mysql

/-- A row may be empty in `VALUES`. -/
def hasEmptyRows (d : Dialect) : Bool := d == mysql

end Dialect

end QueryFlow.Sql
