import QueryGuard.Sql.Grammar.Alter

/-!
GRANT, REVOKE and DENY, each behind its keyword. What is granted and to whom is never met by a
reader, so only its extent matters.
-/

namespace QueryGuard.Sql.Grammar

open Sql.Parser

/-- Privileges of several words that stand alone. -/
def wordyPrivileges : List (List String) :=
  [["IMPORTED", "PRIVILEGES"], ["ADD", "SEARCH", "OPTIMIZATION"], ["ATTACH", "LISTING"],
   ["ATTACH", "POLICY"], ["BIND", "SERVICE", "ENDPOINT"], ["EVOLVE", "SCHEMA"], ["IMPORT", "SHARE"],
   ["MANAGE", "VERSIONS"], ["MANAGE", "RELEASES"], ["OVERRIDE", "SHARE", "RESTRICTIONS"],
   ["PURCHASE", "DATA", "EXCHANGE", "LISTING"], ["RESOLVE", "ALL"], ["READ", "SESSION"]]

/-- Privileges of one word that stand alone. -/
def plainPrivileges : List String :=
  ["APPLYBUDGET", "AUDIT", "CONNECT", "DELETE", "DROP", "FAILOVER", "OPERATE", "OWNERSHIP",
   "READ", "REPLICATE", "TEMPORARY", "TRIGGER", "TRUNCATE", "USAGE"]

/-- Privileges that may be restricted to columns. -/
def columnPrivileges : List String :=
  ["INSERT", "REFERENCES", "SELECT", "UPDATE"]

/-- What APPLY may be granted for. -/
def applyTypes : List (List String) :=
  [["AGGREGATION", "POLICY"], ["AUTHENTICATION", "POLICY"], ["JOIN", "POLICY"],
   ["MASKING", "POLICY"], ["PACKAGES", "POLICY"], ["PASSWORD", "POLICY"], ["PROJECTION", "POLICY"],
   ["ROW", "ACCESS", "POLICY"], ["SESSION", "POLICY"], ["TAG"]]

/-- What CREATE may be granted for. -/
def createTypes : List (List String) :=
  [["APPLICATION", "PACKAGE"], ["COMPUTE", "POOL"], ["DATA", "EXCHANGE", "LISTING"],
   ["EXTERNAL", "VOLUME"], ["FAILOVER", "GROUP"], ["NETWORK", "POLICY"], ["ORGANIZATION", "LISTING"],
   ["REPLICATION", "GROUP"], ["ACCOUNT"], ["APPLICATION"], ["DATABASE"], ["INTEGRATION"], ["ROLE"],
   ["SCHEMA"], ["SHARE"], ["USER"], ["WAREHOUSE"]]

/-- What EXECUTE may be granted for. -/
def executeTypes : List (List String) :=
  [["DATA", "METRIC", "FUNCTION"], ["MANAGED", "ALERT"], ["MANAGED", "TASK"], ["ALERT"], ["TASK"]]

/-- What MANAGE may be granted for. -/
def manageTypes : List (List String) :=
  [["ACCOUNT", "SUPPORT", "CASES"], ["EVENT", "SHARING"], ["GRANTS"],
   ["LISTING", "AUTO", "FULFILLMENT"], ["ORGANIZATION", "SUPPORT", "CASES"],
   ["USER", "SUPPORT", "CASES"], ["WAREHOUSES"]]

/-- One privilege. -/
def privilege (g : Nested) : Parser Unit := do
  if ← anyWords wordyPrivileges then return
  else if ← anyWords [["DATABASE", "ROLE"], ["ROLE"]] then someName g
  else if ← word "APPLY" then
    unless ← anyWords applyTypes do needed "GRANT APPLY type"
  else if ← word "CREATE" then
    let _ ← anyWords createTypes
  else if ← hasWord ["EXEC", "EXECUTE"] then
    let _ ← anyWords executeTypes
  else if ← word "MANAGE" then
    unless ← anyWords manageTypes do needed "GRANT management type"
  else if ← word "MODIFY" then
    let _ ← anyWords [["LOG", "LEVEL"], ["TRACE", "LEVEL"], ["SESSION", "LOG", "LEVEL"],
      ["SESSION", "TRACE", "LEVEL"]]
  else if ← word "MONITOR" then
    let _ ← anyWord ["EXECUTION", "SECURITY", "USAGE"]
  else if ← hasWord plainPrivileges then return
  else if ← hasWord columnPrivileges then
    let _ ← columnList false false
  else needed "a privilege keyword"

/-- Groups of objects, by the words before their names. -/
def objectGroups : List (List String) :=
  [["ALL", "TABLES", "IN", "SCHEMA"], ["ALL", "EXTERNAL", "TABLES", "IN", "SCHEMA"],
   ["ALL", "VIEWS", "IN", "SCHEMA"], ["ALL", "MATERIALIZED", "VIEWS", "IN", "SCHEMA"],
   ["ALL", "FUNCTIONS", "IN", "SCHEMA"], ["FUTURE", "SCHEMAS", "IN", "DATABASE"],
   ["FUTURE", "TABLES", "IN", "SCHEMA"], ["FUTURE", "EXTERNAL", "TABLES", "IN", "SCHEMA"],
   ["FUTURE", "VIEWS", "IN", "SCHEMA"], ["FUTURE", "MATERIALIZED", "VIEWS", "IN", "SCHEMA"],
   ["FUTURE", "SEQUENCES", "IN", "SCHEMA"], ["ALL", "SEQUENCES", "IN", "SCHEMA"],
   ["RESOURCE", "MONITOR"], ["COMPUTE", "POOL"], ["FAILOVER", "GROUP"], ["REPLICATION", "GROUP"],
   ["EXTERNAL", "VOLUME"]]

/-- The objects behind ON; a reader meets something only in the types of parameters. -/
def grantObjects (g : Nested) : Parser (List Part) := do
  if ← anyWords objectGroups then
    let _ ← items (objectName g)
    return []
  else
    let kind ← anyWord ["SEQUENCE", "DATABASE", "SCHEMA", "TABLE", "VIEW", "WAREHOUSE", "INTEGRATION",
      "USER", "CONNECTION", "PROCEDURE", "FUNCTION"]
    let _ ← items (plainObjectName g true)
    if ← provided (kind == some "PROCEDURE" || kind == some "FUNCTION") (symbol "(") then
      let types ← itemsOrNone ")" (typeParts g)
      expectSymbol ")"
      return types.flatten
    else return []

/-- The privileges, and what a reader meets in the objects they are for if there are any. -/
def privilegesAndObjects (g : Nested) : Parser (Option (List Part)) := do
  if ← word "ALL" then
    let _ ← word "PRIVILEGES"
  else
    whileTrue do
      privilege g
      return !(← listIsOver (← dialect).trailingCommas fun k => pure (k == "ON"))
  optional (word "ON") (grantObjects g)

/-- The kinds of grantees, by the words before their names. -/
def granteeKinds : List (List String) :=
  [["ROLE"], ["USER"], ["SHARE"], ["GROUP"], ["DATABASE", "ROLE"], ["APPLICATION", "ROLE"],
   ["APPLICATION"]]

/-- Whom privileges are granted to. -/
def grantees (g : Nested) : Parser Unit := do
  let reserved := (← dialect) == .mssql
  loop false fun everyone => do
    let everyone ← do
      if ← anyWords granteeKinds then pure false
      else if ← provided (!reserved) (word "PUBLIC") then pure true
      else pure everyone
    unless everyone do
      granteeName g
      if ← symbol ":" then someIdentifier
    if ← symbol "," then return .again everyone else return .done ()

/-- GRANT behind its keyword. -/
def grant (g : Nested) : Parser Statement := do
  let objects ← privilegesAndObjects g
  expectWord "TO"
  grantees g
  let _ ← words ["WITH", "GRANT", "OPTION"]
  let _ ← anyWords [["COPY", "CURRENT", "GRANTS"], ["REVOKE", "CURRENT", "GRANTS"]]
  if ← word "AS" then someIdentifier
  if ← words ["GRANTED", "BY"] then someIdentifier
  return .plain .grant (objects.getD [])

/-- REVOKE behind its keyword. -/
def revoke (g : Nested) : Parser Statement := do
  let objects ← privilegesAndObjects g
  expectWord "FROM"
  grantees g
  if ← words ["GRANTED", "BY"] then someIdentifier
  dropBehavior
  return .plain .revoke (objects.getD [])

/-- DENY behind its keyword. -/
def deny (g : Nested) : Parser Statement := do
  match ← privilegesAndObjects g with
  | none => refuseHere "DENY statements must specify an object"
  | some objects =>
    expectWord "TO"
    grantees g
    dropBehavior
    if ← word "AS" then someIdentifier
    return .plain (.other "DENY") objects

end QueryGuard.Sql.Grammar
