import QueryGuard.Sql.Grammar.Create

/-!
ALTER and DROP, each behind its keyword.
-/

namespace QueryGuard.Sql.Grammar

open Sql.Parser

/-! ## Operations on tables -/

/-- Where a new column stands. -/
def columnPosition : Parser Unit := do
  if ← dialectIn [.mysql, .generic] then
    unless ← word "FIRST" do
      if ← word "AFTER" then someIdentifier

/-- A partition by its values. -/
def partitionValues (g : Nested) : Parser (List Part) :=
  parens (itemParts g.exprParts)

/-- A part or a partition. -/
def partOrPartition (g : Nested) : Parser (List Part) := do
  let _ ← expectAnyWord ["PART", "PARTITION"]
  g.exprParts

/-- ADD behind its keyword. -/
def addToTable (g : Nested) : Parser (List Part) := do
  let d ← dialect
  match ← tableConstraint g with
  | some parts =>
    let _ ← words ["NOT", "VALID"]
    return parts
  | none =>
    if ← provided (d.isOneOf [.clickhouse, .generic]) (word "PROJECTION") then
      ifNotExists
      someIdentifier
      expectSymbol "("
      expectWord "SELECT"
      let selected ← projection g
      let groups ← groupBy g
      let order ← orderBy g
      expectSymbol ")"
      return selected ++ order ++ groups
    ifNotExists
    let partitions ← many (optional (word "PARTITION") (partitionValues g))
    if !partitions.isEmpty then return partitions.flatten
    let _ ← word "COLUMN"
    if d.isOneOf [.postgres, .bigquery, .duckdb, .generic] then ifNotExists
    let column ← columnDef g
    columnPosition
    return column

/-- RENAME behind its keyword. -/
def renameInTable (g : Nested) : Parser (List Part) := do
  if ← provided ((← dialect) == .postgres) (word "CONSTRAINT") then
    someIdentifier
    expectWord "TO"
    someIdentifier
  else if ← hasWord ["TO", "AS"] then someName g
  else
    let _ ← word "COLUMN"
    someIdentifier
    expectWord "TO"
    someIdentifier
  return []

/-- ENABLE or DISABLE behind its keyword. -/
def switchInTable (enable : Bool) : Parser (List Part) := do
  if ← words ["ROW", "LEVEL", "SECURITY"] then return []
  else
    let named := [["RULE"], ["TRIGGER"]]
    let always := [["ALWAYS", "RULE"], ["ALWAYS", "TRIGGER"], ["REPLICA", "RULE"],
      ["REPLICA", "TRIGGER"]]
    if ← anyWords (if enable then always ++ named else named) then
      someIdentifier
      return []
    else if enable then needed "ALWAYS, REPLICA, ROW LEVEL SECURITY, RULE, or TRIGGER after ENABLE"
    else needed "ROW LEVEL SECURITY, RULE, or TRIGGER after DISABLE"

/-- DROP behind its keyword, in ALTER TABLE. -/
def dropFromTable (g : Nested) : Parser (List Part) := do
  let d ← dialect
  if ← anyWords [["IF", "EXISTS", "PARTITION"], ["PARTITION"]] then partitionValues g
  else if ← word "CONSTRAINT" then
    ifExists
    someIdentifier
    dropBehavior
    return []
  else if ← words ["PRIMARY", "KEY"] then
    dropBehavior
    return []
  else if ← words ["FOREIGN", "KEY"] then
    someIdentifier
    dropBehavior
    return []
  else if ← word "INDEX" then
    someIdentifier
    return []
  else if ← restrictedTo (d.isOneOf [.clickhouse, .generic]) (word "PROJECTION") then
    ifExists
    someIdentifier
    return []
  else if ← words ["CLUSTERING", "KEY"] then return []
  else
    let _ ← word "COLUMN"
    ifExists
    if d.dropColumnList then
      let _ ← identifiers
    else someIdentifier
    dropBehavior
    return []

/-- A new definition of a column behind its name. -/
def changedColumn (g : Nested) : Parser (List Part) := do
  let type ← typeParts g
  let options ← many (columnOption g)
  columnPosition
  return type ++ options.flatten

/-- ALTER COLUMN behind ALTER. -/
def alterColumn (g : Nested) : Parser (List Part) := do
  let d ← dialect
  let _ ← word "COLUMN"
  someIdentifier
  if ← anyWords [["SET", "NOT", "NULL"], ["DROP", "NOT", "NULL"]] then return []
  else if ← words ["SET", "DEFAULT"] then g.exprParts
  else if ← words ["DROP", "DEFAULT"] then return []
  else if ← anyWords [["SET", "DATA", "TYPE"], ["TYPE"]] then
    let type ← typeParts g
    let conversion ← if ← provided d.alterTypeUsing (word "USING") then g.exprParts else pure []
    return type ++ conversion
  else if ← words ["ADD", "GENERATED"] then
    let _ ← anyWords [["ALWAYS"], ["BY", "DEFAULT"]]
    expectWords ["AS", "IDENTITY"]
    sequenceInParens
    return []
  else if d == .postgres then
    needed "SET/DROP NOT NULL, SET DEFAULT, SET DATA TYPE, or ADD GENERATED after ALTER COLUMN"
  else needed "SET/DROP NOT NULL, SET DEFAULT, or SET DATA TYPE after ALTER COLUMN"

/-- A projection in a partition. -/
def projectionInPartition : Parser (List Part) := do
  ifExists
  someIdentifier
  if ← words ["IN", "PARTITION"] then someIdentifier
  return []

/-- One operation of ALTER TABLE. -/
def tableOperation (g : Nested) : Parser (List Part) := do
  let d ← dialect
  let click := d.isOneOf [.clickhouse, .generic]
  if ← word "ADD" then addToTable g
  else if ← word "RENAME" then renameInTable g
  else if ← word "DISABLE" then switchInTable false
  else if ← word "ENABLE" then switchInTable true
  else if ← restrictedTo click (words ["CLEAR", "PROJECTION"]) then projectionInPartition
  else if ← restrictedTo click (words ["MATERIALIZE", "PROJECTION"]) then projectionInPartition
  else if ← word "DROP" then dropFromTable g
  else if ← word "PARTITION" then
    let before ← partitionValues g
    expectWord "RENAME"
    expectWords ["TO", "PARTITION"]
    let after ← partitionValues g
    return before ++ after
  else if ← word "CHANGE" then
    let _ ← word "COLUMN"
    someIdentifier
    someIdentifier
    changedColumn g
  else if ← word "MODIFY" then
    let _ ← word "COLUMN"
    someIdentifier
    changedColumn g
  else if ← word "ALTER" then alterColumn g
  else if ← word "SWAP" then
    expectWord "WITH"
    someName g
    return []
  else if ← provided (d.isOneOf [.postgres, .generic]) (words ["OWNER", "TO"]) then
    owner
    return []
  else if ← provided click (hasWord ["ATTACH", "DETACH"]) then partOrPartition g
  else if ← provided click (hasWord ["FREEZE", "UNFREEZE"]) then
    let part ← partOrPartition g
    if ← word "WITH" then
      expectWord "NAME"
      someIdentifier
    return part
  else if ← words ["CLUSTER", "BY"] then partitionValues g
  else if ← anyWords [["SUSPEND", "RECLUSTER"], ["RESUME", "RECLUSTER"]] then return []
  else if ← indexBuildOption then return []
  else if ← word "AUTO_INCREMENT" then
    let _ ← symbol "="
    numberValue
    return []
  else if ← words ["REPLICA", "IDENTITY"] then
    if ← hasWord ["NOTHING", "FULL", "DEFAULT"] then return []
    else if ← words ["USING", "INDEX"] then
      someIdentifier
      return []
    else needed "NOTHING, FULL, DEFAULT, or USING INDEX index_name after REPLICA IDENTITY"
  else if ← words ["VALIDATE", "CONSTRAINT"] then
    someIdentifier
    return []
  else
    match ← propertiesAfter g ["SET", "TBLPROPERTIES"] with
    | some parts => return parts
    | none =>
      match ← optionsAfter g ["SET"] with
      | some parts => return parts
      | none =>
        needed ("ADD, RENAME, PARTITION, SWAP, DROP, REPLICA IDENTITY, SET, or SET TBLPROPERTIES " ++
          "after ALTER TABLE")

/-- ALTER TABLE behind its keywords. -/
def alterTable (g : Nested) : Parser Statement := do
  ifExists
  let _ ← word "ONLY"
  let name ← objectName g
  onCluster
  let operations ← itemParts (tableOperation g)
  if ← anyWords [["LOCATION"], ["SET", "LOCATION"]] then someIdentifier
  return .plain .alter (.relation name :: operations)

/-! ## Operations on other objects -/

/-- ALTER VIEW behind its keywords. -/
def alterView (g : Nested) : Parser Statement := do
  let name ← objectName g
  let _ ← columnList false false
  let options ← optionParts g ["WITH"]
  expectWord "AS"
  let q ← g.queryParts
  return .plain .alter ([.relation name] ++ q ++ options)

/-- ALTER TYPE behind its keywords. -/
def alterType (g : Nested) : Parser Statement := do
  someName g
  if ← words ["RENAME", "TO"] then someIdentifier
  else if ← words ["ADD", "VALUE"] then
    ifNotExists
    someIdentifier
    if ← hasWord ["BEFORE", "AFTER"] then someIdentifier
  else if ← words ["RENAME", "VALUE"] then
    someIdentifier
    expectWord "TO"
    someIdentifier
  else needed "\x7bRENAME TO | \x7b RENAME | ADD \x7d VALUE\x7d"
  return .plain (.other "ALTER") []

/-- ALTER INDEX behind its keywords. -/
def alterIndex (g : Nested) : Parser Statement := do
  someName g
  if ← word "RENAME" then
    if ← word "TO" then someName g else needed "TO after RENAME"
  else needed "RENAME after ALTER INDEX"
  return .plain .alter []

/-- An option of a role. -/
def roleOption : Parser Unit := do
  if ← hasWord roleFlags.flatten then return
  else if ← word "CONNECTION" then
    expectWord "LIMIT"
    numberValue
  else if ← word "PASSWORD" then rolePassword
  else if ← word "VALID" then
    expectWord "UNTIL"
    let _ ← value
  else needed "option"

/-- ALTER ROLE with settings and options, behind its keywords. -/
def alterPlainRole (g : Nested) : Parser Statement := do
  someIdentifier
  if ← words ["IN", "DATABASE"] then nameIfAny g
  if ← word "RENAME" then
    if ← word "TO" then someIdentifier else needed "TO after RENAME"
    return .plain .alter []
  else if ← word "SET" then
    someName g
    if ← words ["FROM", "CURRENT"] then return .plain .alter []
    else if ← firstOf [symbol "=", word "TO"] then
      if ← word "DEFAULT" then return .plain .alter []
      else match ← attemptTaking g.exprParts with
        | some parts => return .plain .alter parts
        | none => needed "config value"
    else needed "'TO' or '=' or 'FROM CURRENT'"
  else if ← word "RESET" then
    unless ← word "ALL" do someName g
    return .plain .alter []
  else
    let _ ← word "WITH"
    let options ← many (attempt roleOption)
    if options.isEmpty then needed "option"
    return .plain .alter []

/-- ALTER ROLE with members, behind its keywords. -/
def alterRoleMembers : Parser Statement := do
  someIdentifier
  if ← anyWords [["ADD", "MEMBER"], ["DROP", "MEMBER"]] then someIdentifier
  else if ← words ["WITH", "NAME"] then
    if ← symbol "=" then someIdentifier else needed "= after WITH NAME "
  else needed "'ADD' or 'DROP' or 'WITH NAME'"
  return .plain .alter []

/-- ALTER ROLE behind its keywords. -/
def alterRole (g : Nested) : Parser Statement := do
  match ← dialect with
  | .postgres => alterPlainRole g
  | .mssql => alterRoleMembers
  | _ => refuse "ALTER ROLE is only support for PostgreSqlDialect, MsSqlDialect"

/-- ALTER POLICY behind its keywords. -/
def alterPolicy (g : Nested) : Parser Statement := do
  someIdentifier
  expectWord "ON"
  let table ← objectName g
  if ← word "RENAME" then
    expectWord "TO"
    someIdentifier
    return .plain .alter [.relation table]
  else
    let clauses ← policyClauses g
    return .plain .alter (.relation table :: clauses)

/-- ALTER CONNECTOR behind its keywords. -/
def alterConnector (g : Nested) : Parser Statement := do
  someIdentifier
  expectWord "SET"
  let properties ← propertiesAfter g ["DCPROPERTIES"]
  if ← word "URL" then someString
  if ← word "OWNER" then
    let _ ← expectAnyWord ["USER", "ROLE"]
    someIdentifier
  return .plain (.other "ALTER") (properties.getD [])

/-- ALTER SCHEMA behind its keywords. -/
def alterSchema (g : Nested) : Parser Statement := do
  ifExists
  someName g
  let parts ← do
    if (← peekWords ["SET", "OPTIONS"]) then do
      skip
      optionParts g ["OPTIONS"]
    else if ← words ["SET", "DEFAULT", "COLLATE"] then g.exprParts
    else if ← words ["ADD", "REPLICA"] then do
      someIdentifier
      optionParts g ["OPTIONS"]
    else if ← words ["DROP", "REPLICA"] then do
      someIdentifier
      pure []
    else if ← words ["RENAME", "TO"] then do
      someName g
      pure []
    else if ← words ["OWNER", "TO"] then do
      owner
      pure []
    else needed "ALTER SCHEMA operation"
  return .plain (.other "ALTER") parts

/-- ALTER behind its keyword. -/
def alter (g : Nested) : Parser Statement := do
  let k ← expectAnyWord ["VIEW", "TYPE", "TABLE", "INDEX", "ROLE", "POLICY", "CONNECTOR", "ICEBERG",
    "SCHEMA"]
  match k with
  | "VIEW" => alterView g
  | "TYPE" => alterType g
  | "TABLE" => alterTable g
  | "INDEX" => alterIndex g
  | "ROLE" => alterRole g
  | "POLICY" => alterPolicy g
  | "CONNECTOR" => alterConnector g
  | "ICEBERG" =>
    expectWord "TABLE"
    alterTable g
  | _ => alterSchema g

/-- ALTER SESSION behind its keywords. -/
def alterSession : Parser Statement := do
  let setting ← match ← anyWord ["SET", "UNSET"] with
    | some k => pure (k == "SET")
    | none => needed "SET or UNSET"
  let any ← loop false fun any => do
    let t ← peekLocated
    match t.token with
    | .symbol ";" | .eof => return .done any
    | .symbol "," =>
      skip
      return .again any
    | .word _ _ _ =>
      skip
      if setting then keyValue
      return .again true
    | _ => unexpected "another option or end of statement" t
  if !any then refuse "expected at least one option"
  return .plain (.other "ALTER") []

/-! ## DROP -/

/-- The objects that DROP lists by name. -/
def droppedObjects : List (List String) :=
  [["TABLE"], ["VIEW"], ["MATERIALIZED", "VIEW"], ["INDEX"], ["SCHEMA"], ["DATABASE"],
   ["SEQUENCE"], ["STAGE"], ["TYPE"], ["USER"], ["STREAM"]]

/-- The names of dropped objects and what goes with them. -/
def droppedNames (g : Nested) (role : Bool) : Parser Statement := do
  ifExists
  let _ ← items (objectName g)
  let place := (← peekLocated).place
  let cascade ← word "CASCADE"
  let restrict ← word "RESTRICT"
  let purge ← word "PURGE"
  if cascade && restrict then
    fail (.refused "Cannot specify both CASCADE and RESTRICT in DROP" place)
  if role && (cascade || restrict || purge) then
    fail (.refused "Cannot specify CASCADE, RESTRICT, or PURGE in DROP ROLE" place)
  if ← word "ON" then someName g
  return .plain .drop []

/-- DROP of functions or procedures behind the keyword. -/
def dropRoutines (g : Nested) : Parser Statement := do
  ifExists
  let parts ← itemParts (functionDesc g)
  dropBehavior
  return .plain .drop parts

/-- DROP behind its keyword. -/
def drop (g : Nested) : Parser Statement := do
  let d ← dialect
  let temporary ← provided (d.isOneOf [.mysql, .generic, .duckdb]) (word "TEMPORARY")
  let persistent ← provided (d == .duckdb) (word "PERSISTENT")
  if ← anyWords droppedObjects then droppedNames g false
  else if ← word "ROLE" then droppedNames g true
  else if ← hasWord ["FUNCTION", "PROCEDURE"] then dropRoutines g
  else if ← word "POLICY" then
    ifExists
    someIdentifier
    expectWord "ON"
    someName g
    dropBehavior
    return .plain .drop []
  else if ← word "CONNECTOR" then
    ifExists
    someIdentifier
    return .plain (.other "DROP") []
  else if ← word "DOMAIN" then
    ifExists
    someName g
    dropBehavior
    return .plain (.other "DROP") []
  else if ← word "SECRET" then
    ifExists
    someIdentifier
    if ← word "FROM" then skip
    oneLifetime temporary persistent
    return .plain (.other "DROP") []
  else if ← word "TRIGGER" then
    unless d.isOneOf [.postgres, .sqlite, .generic, .mysql, .mssql] do
      back
      needed "an object type after DROP"
    ifExists
    someName g
    if ← word "ON" then someName g
    dropBehavior
    return .plain .drop []
  else if ← word "EXTENSION" then
    ifExists
    let _ ← identifiers
    dropBehavior
    return .plain (.other "DROP") []
  else
    needed ("CONNECTOR, DATABASE, EXTENSION, FUNCTION, INDEX, POLICY, PROCEDURE, ROLE, SCHEMA, " ++
      "SECRET, SEQUENCE, STAGE, TABLE, TRIGGER, TYPE, VIEW, MATERIALIZED VIEW or USER after DROP")

end QueryGuard.Sql.Grammar
