import QueryFlow.Sql.Grammar.Rules

/-!
# Privileges

Statements that give privileges on objects to users, and that take them away or deny them. All three
name the privileges, the objects and the users; they differ in the word between the objects and the
users, and in what may follow the users.

Privileges and kinds of objects are lists of phrases, of which the first that fits is taken. What
stands behind a privilege and may be left out is looked up by its first word.
-/

namespace QueryFlow.Sql.Grammar

open Parse

variable (r : Rules)

/-! ### Privileges -/

/-- Privileges of more than one word. -/
def longPrivileges : List (List String) :=
  [["IMPORTED", "PRIVILEGES"], ["ADD", "SEARCH", "OPTIMIZATION"], ["ATTACH", "LISTING"],
    ["ATTACH", "POLICY"], ["BIND", "SERVICE", "ENDPOINT"], ["EVOLVE", "SCHEMA"],
    ["IMPORT", "SHARE"], ["MANAGE", "VERSIONS"], ["MANAGE", "RELEASES"],
    ["OVERRIDE", "SHARE", "RESTRICTIONS"], ["PURCHASE", "DATA", "EXCHANGE", "LISTING"],
    ["RESOLVE", "ALL"], ["READ", "SESSION"]]

/-- Privileges of one word, with nothing behind it. -/
def plainPrivileges : List String :=
  ["APPLYBUDGET", "AUDIT", "CONNECT", "DELETE", "DROP", "EXEC", "FAILOVER", "OPERATE", "OWNERSHIP",
    "READ", "REPLICATE", "TEMPORARY", "TRIGGER", "TRUNCATE", "USAGE"]

/-- Privileges that may be narrowed to columns. -/
def columnPrivileges : List String := ["INSERT", "REFERENCES", "SELECT", "UPDATE"]

/-- Policies and the like that can be applied. -/
def appliedObjects : List (List String) :=
  [["AGGREGATION", "POLICY"], ["AUTHENTICATION", "POLICY"], ["JOIN", "POLICY"],
    ["MASKING", "POLICY"], ["PACKAGES", "POLICY"], ["PASSWORD", "POLICY"],
    ["PROJECTION", "POLICY"], ["ROW", "ACCESS", "POLICY"], ["SESSION", "POLICY"], ["TAG"]]

/-- Objects that can be created. -/
def createdObjects : List (List String) :=
  [["APPLICATION", "PACKAGE"], ["COMPUTE", "POOL"], ["DATA", "EXCHANGE", "LISTING"],
    ["EXTERNAL", "VOLUME"], ["FAILOVER", "GROUP"], ["NETWORK", "POLICY"],
    ["ORGANIZATION", "LISTING"], ["REPLICATION", "GROUP"], ["ACCOUNT"], ["APPLICATION"],
    ["DATABASE"], ["INTEGRATION"], ["ROLE"], ["SCHEMA"], ["SHARE"], ["USER"], ["WAREHOUSE"]]

/-- Objects that can be managed. -/
def managedObjects : List (List String) :=
  [["ACCOUNT", "SUPPORT", "CASES"], ["EVENT", "SHARING"], ["GRANTS"],
    ["LISTING", "AUTO", "FULFILLMENT"], ["ORGANIZATION", "SUPPORT", "CASES"],
    ["USER", "SUPPORT", "CASES"], ["WAREHOUSES"]]

/-- What stands behind a privilege and may be left out. -/
def privilegeDetails : String → List (List String)
  | "CREATE" => createdObjects
  | "EXECUTE" =>
    [["DATA", "METRIC", "FUNCTION"], ["MANAGED", "ALERT"], ["MANAGED", "TASK"], ["ALERT"], ["TASK"]]
  | "MODIFY" =>
    [["LOG", "LEVEL"], ["TRACE", "LEVEL"], ["SESSION", "LOG", "LEVEL"],
      ["SESSION", "TRACE", "LEVEL"]]
  | "MONITOR" => [["EXECUTION"], ["SECURITY"], ["USAGE"]]
  | _ => []

/-- A privilege. -/
def privilege : Parse Unit := do
  if (← acceptPhrase longPrivileges).isSome then return
  if ← acceptWords ["DATABASE", "ROLE"] then
    let _ ← objectName
  else if ← acceptWord "ROLE" then
    let _ ← objectName
  else if ← acceptWord "APPLY" then
    if (← acceptPhrase appliedObjects).isNone then expected "GRANT APPLY type"
  else if ← acceptWord "MANAGE" then
    if (← acceptPhrase managedObjects).isNone then expected "GRANT MANAGE type"
  else if (← acceptOneOf plainPrivileges).isSome then return
  else if (← acceptOneOf columnPrivileges).isSome then
    let _ ← columns false
  else
    match ← acceptOneOf ["CREATE", "EXECUTE", "MODIFY", "MONITOR"] with
    | some word =>
      let _ ← acceptPhrase (privilegeDetails word)
    | none => expected "a privilege keyword"

/-! ### Objects and users -/

/-- Kinds of objects that are named by what holds them, or by more than one word. -/
def heldObjects : List (List String) :=
  [["ALL", "TABLES", "IN", "SCHEMA"], ["ALL", "EXTERNAL", "TABLES", "IN", "SCHEMA"],
    ["ALL", "VIEWS", "IN", "SCHEMA"], ["ALL", "MATERIALIZED", "VIEWS", "IN", "SCHEMA"],
    ["ALL", "FUNCTIONS", "IN", "SCHEMA"], ["ALL", "SEQUENCES", "IN", "SCHEMA"],
    ["FUTURE", "SCHEMAS", "IN", "DATABASE"], ["FUTURE", "TABLES", "IN", "SCHEMA"],
    ["FUTURE", "EXTERNAL", "TABLES", "IN", "SCHEMA"], ["FUTURE", "VIEWS", "IN", "SCHEMA"],
    ["FUTURE", "MATERIALIZED", "VIEWS", "IN", "SCHEMA"],
    ["FUTURE", "SEQUENCES", "IN", "SCHEMA"], ["RESOURCE", "MONITOR"], ["COMPUTE", "POOL"],
    ["FAILOVER", "GROUP"], ["REPLICATION", "GROUP"], ["EXTERNAL", "VOLUME"]]

/-- A name of which any part may be a star. -/
def starredName : Parse Unit := do
  let _ ← items (accept ".") do
    unless ← accept "*" do
      let _ ← ident

/-- The objects that privileges are on. -/
def privilegedObjects : Parse Unit := do
  if (← acceptPhrase heldObjects).isSome then
    let _ ← commas objectName
  else
    let kind ← acceptOneOf ["SEQUENCE", "DATABASE", "SCHEMA", "TABLE", "VIEW", "WAREHOUSE",
      "INTEGRATION", "USER", "CONNECTION", "PROCEDURE", "FUNCTION"]
    let _ ← commas starredName
    if kind == some "PROCEDURE" || kind == some "FUNCTION" then
      if ← accept "(" then
        let _ ← commasBefore ")" r.dataType
        expect ")"

/-- Kinds of users. -/
def userKinds : List (List String) :=
  [["ROLE"], ["USER"], ["SHARE"], ["GROUP"], ["PUBLIC"], ["DATABASE", "ROLE"],
    ["APPLICATION", "ROLE"], ["APPLICATION"]]

/-- The name of a user, which may have a host. -/
def userName : Parse Unit := do
  let name ← objectName
  if ← both (return name.length = 1) (both (isIn [.mysql, .generic]) (accept "@")) then
    let _ ← ident

/-- A user, and whether it is everybody. One without a kind is of the kind of the one before it. -/
def user (wasPublic : Bool) : Parse Bool := do
  let kinds := if (← dialect) == .mssql then userKinds.filter (· != ["PUBLIC"]) else userKinds
  let isPublic ← match ← acceptPhrase kinds with
    | some kind => pure (kind == ["PUBLIC"])
    | none => pure wasPublic
  unless isPublic do
    userName
    if ← accept ":" then
      let _ ← ident
  return isPublic

/-- Users with commas between them. -/
def users : Parse Unit := do
  let _ ← chain (fun due => do
    match due with
    | none => return none
    | some wasPublic =>
      let isPublic ← user wasPublic
      if ← accept "," then return some (some isPublic) else return some none) (some false)

/-- The user who stands behind a pair of keywords, if they are next. -/
def userBehind (words : List String) : Parse Unit := do
  if ← acceptWords words then
    let _ ← ident

/-! ### Statements -/

/-- The privileges, and the objects that they are on. -/
def privileges : Parse Unit := do
  if ← acceptWord "ALL" then
    let _ ← acceptWord "PRIVILEGES"
  else
    let _ ← commas privilege
  if ← acceptWord "ON" then privilegedObjects r

/-- What is given to users, behind `GRANT`. -/
def grant : Parse Statement := do
  privileges r
  expectWord "TO"
  users
  let _ ← acceptWords ["WITH", "GRANT", "OPTION"]
  let _ ← acceptPhrase [["COPY", "CURRENT", "GRANTS"], ["REVOKE", "CURRENT", "GRANTS"]]
  userBehind ["AS"]
  userBehind ["GRANTED", "BY"]
  return .other "GRANT"

/-- What is denied to users, behind `DENY`. -/
def deny : Parse Statement := do
  let hadObjects ← do
    if ← acceptWord "ALL" then
      let _ ← acceptWord "PRIVILEGES"
    else
      let _ ← commas privilege
    acceptWord "ON"
  unless hadObjects do refuseHere "DENY statements must specify an object"
  privilegedObjects r
  expectWord "TO"
  users
  let _ ← acceptOneOf ["CASCADE", "RESTRICT"]
  userBehind ["AS"]
  return .other "DENY"

/-- What is taken from users, behind `REVOKE`. -/
def revoke : Parse Statement := do
  privileges r
  expectWord "FROM"
  users
  userBehind ["GRANTED", "BY"]
  let _ ← acceptOneOf ["CASCADE", "RESTRICT"]
  return .other "REVOKE"

end QueryFlow.Sql.Grammar
