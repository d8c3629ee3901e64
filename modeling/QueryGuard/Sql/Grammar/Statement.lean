import QueryGuard.Sql.Grammar.Transfer

/-!
Statements: the remaining families, and the choice between all of them by the first word.
-/

namespace QueryGuard.Sql.Grammar

open Sql.Parser

/-! ## EXPLAIN -/

/-- Whether a statement explains another or describes a table. -/
def explains : Statement → Bool
  | .plain .explain _ => true
  | .plain (.other opening) _ => ["EXPLAIN", "DESCRIBE", "DESC"].contains opening
  | _ => false

/-- The form of an explanation behind FORMAT. -/
def explainFormat : Parser Unit := do
  let _ ← symbol "="
  let t ← nextLocated
  unless ["TEXT", "GRAPHVIZ", "JSON", "TRADITIONAL", "TREE"].contains t.token.keyword do
    unexpected "fileformat" t

/-- EXPLAIN or one of the words for it, behind the keyword: of a statement, or else of a table. -/
def explain (g : Nested) (k : String) : Parser Statement := do
  let d ← dialect
  let options ← do
    if k == "EXPLAIN" && d.explainOptions && (← peekSymbol "(") then utilityOptions g
    else if ← anyWords [["QUERY", "PLAN"], ["ESTIMATE"]] then pure []
    else do
      let _ ← word "ANALYZE"
      let _ ← word "VERBOSE"
      if ← word "FORMAT" then explainFormat
      pure []
  match ← attempt g.statement with
  | some s =>
    if explains s then refuse "Explain must be root of the plan"
    else return .plain .explain (.statement s :: options)
  | none =>
    let _ ← anyWord ["EXTENDED", "FORMATTED"]
    if d.describeTable then
      let _ ← word "TABLE"
    let name ← objectName g
    return .plain (.other k) [.relation name]

/-! ## Maintenance of tables -/

/-- ANALYZE behind its keyword. -/
def analyze (g : Nested) : Parser Statement := do
  let _ ← word "TABLE"
  let name ← objectName g
  let partitions ← loop [] fun (soFar : List Part) => do
    match ← anyWord ["PARTITION", "FOR", "CACHE", "NOSCAN", "COMPUTE"] with
    | some "PARTITION" => return .again (← partitionValues g)
    | some "FOR" =>
      expectWord "COLUMNS"
      let _ ← attempt identifiers
      return .again soFar
    | some "CACHE" =>
      expectWord "METADATA"
      return .again soFar
    | some "COMPUTE" =>
      expectWord "STATISTICS"
      return .again soFar
    | some _ => return .again soFar
    | none => return .done soFar
  return .plain (.other "ANALYZE") (.relation name :: partitions)

/-- TRUNCATE behind its keyword. -/
def truncate (g : Nested) : Parser Statement := do
  let d ← dialect
  let _ ← word "TABLE"
  let names ← items do
    let _ ← word "ONLY"
    return Part.relation (← objectName g)
  let partitions ← partsAfter "PARTITION" (partitionValues g)
  if d.isOneOf [.postgres, .generic] then
    let _ ← anyWords [["RESTART", "IDENTITY"], ["CONTINUE", "IDENTITY"]]
    dropBehavior
  onCluster
  return .plain .truncate (names ++ partitions)

/-- MSCK behind its keyword. -/
def repairTable (g : Nested) : Parser Statement := do
  let _ ← word "REPAIR"
  expectWord "TABLE"
  let name ← objectName g
  let _ ← attempt do
    let _ ← anyWord ["ADD", "DROP", "SYNC"]
    expectWord "PARTITIONS"
  return .plain (.other "MSCK") [.relation name]

/-- The options and query of a cached table, behind its name. -/
def cachedSource (g : Nested) : Parser (List Part) := do
  let options ← if ← peekWord "OPTIONS" then optionParts g ["OPTIONS"] else pure []
  match ← peek with
  | .eof => return options
  | .word _ _ _ =>
    let _ ← word "AS"
    let q ← g.queryParts
    return options ++ q
  | _ => needed "a QUERY statement"

/-- CACHE behind its keyword. -/
def cacheTable (g : Nested) : Parser Statement := do
  unless ← word "TABLE" do
    someName g
    unless ← word "TABLE" do
      if (← peek) == .eof then back
      needed "a \x60TABLE\x60 keyword"
  let name ← objectName g
  let source ← cachedSource g
  return .plain (.other "CACHE") (.relation name :: source)

/-- UNCACHE behind its keyword. -/
def uncacheTable (g : Nested) : Parser Statement := do
  unless ← word "TABLE" do needed "a \x60TABLE\x60 keyword"
  ifExists
  let name ← objectName g
  return .plain (.other "UNCACHE") [.relation name]

/-- OPTIMIZE behind its keyword. -/
def optimizeTable (g : Nested) : Parser Statement := do
  expectWord "TABLE"
  someName g
  onCluster
  let partition ← partsAfter "PARTITION" do
    if ← word "ID" then
      someIdentifier
      return []
    else g.exprParts
  let _ ← word "FINAL"
  let duplicates ← partsAfter "DEDUPLICATE" (partsAfter "BY" g.exprParts)
  return .plain (.other "OPTIMIZE") (partition ++ duplicates)

/-- VACUUM behind its keyword. -/
def vacuum (g : Nested) : Parser Statement := do
  let _ ← word "FULL"
  let _ ← words ["SORT", "ONLY"]
  let _ ← words ["DELETE", "ONLY"]
  let _ ← word "REINDEX"
  let _ ← word "RECLUSTER"
  if (← attempt (objectName g)).isSome then
    if ← word "TO" then
      let _ ← value
      expectWord "PERCENT"
    let _ ← word "BOOST"
  return .plain (.other "VACUUM") []

/-- RENAME behind its keyword. -/
def renameTables (g : Nested) : Parser Statement := do
  unless ← word "TABLE" do needed "KEYWORD \x60TABLE\x60 after RENAME"
  let _ ← items do
    someName g
    expectWord "TO"
    someName g
  return .plain (.other "RENAME") []

/-- COMMENT behind its keyword. -/
def commentOn (g : Nested) : Parser Statement := do
  ifExists
  expectWord "ON"
  let t ← nextLocated
  let k := t.token.keyword
  if k == "MATERIALIZED" then expectWord "VIEW"
  else unless ["COLUMN", "DATABASE", "DOMAIN", "EXTENSION", "FUNCTION", "INDEX", "PROCEDURE", "ROLE",
      "SCHEMA", "SEQUENCE", "TABLE", "TYPE", "USER", "VIEW"].contains k do
    unexpected "comment object_type" t
  someName g
  expectWord "IS"
  unless ← word "NULL" do someString
  return .plain (.other "COMMENT") []

/-! ## Attached databases -/

/-- The options of an attached database in parentheses, if they are there. -/
def attachOptions : Parser Unit := do
  if ← symbol "(" then
    whileTrue do
      if ← word "READ_ONLY" then
        let _ ← anyWord ["TRUE", "FALSE"]
      else if ← word "TYPE" then someIdentifier
      else needed "expected one of: ), READ_ONLY, TYPE"
      if ← symbol ")" then return false
      else if ← symbol "," then return true
      else needed "expected one of: ')', ','"

/-- ATTACH behind its keyword. -/
def attach (g : Nested) : Parser Statement := do
  let _ ← word "DATABASE"
  if (← dialect) == .duckdb then
    ifNotExists
    someIdentifier
    if ← word "AS" then someIdentifier
    attachOptions
    return .plain (.other "ATTACH") []
  else
    let file ← g.exprParts
    expectWord "AS"
    someIdentifier
    return .plain (.other "ATTACH") file

/-- DETACH behind its keyword. -/
def detach : Parser Statement := do
  let _ ← word "DATABASE"
  ifExists
  someIdentifier
  return .plain (.other "DETACH") []

/-! ## The choice -/

/-- Statements that are a keyword, one rule for its extent, and nothing that a reader meets. -/
def silentStatement (k : String) (p : Parser Unit) : Parser Statement := do
  p
  return .plain (.other k) []

/-- The statement that a keyword opens, behind the keyword; nothing if it opens none. -/
def statementAfter (g : Nested) (k : String) : Parser (Option Statement) := do
  let d ← dialect
  let only (ds : List Dialect) (p : Parser Statement) : Parser (Option Statement) := do
    if d.isOneOf ds then return some (← p) else return none
  let silent (p : Parser Unit) : Parser (Option Statement) := do
    return some (← silentStatement k p)
  let exprs (p : Parser (List Part)) : Parser (Option Statement) := do
    return some (.plain (.other k) (← p))
  match k with
  | "KILL" => return some (← killStatement)
  | "FLUSH" => return some (← flushStatement g)
  | "DESC" | "DESCRIBE" | "EXPLAIN" => return some (← explain g k)
  | "ANALYZE" => return some (← analyze g)
  | "CASE" => return some (← caseStatement g)
  | "IF" => return some (← ifStatement g)
  | "WHILE" => return some (← whileStatement g)
  | "RAISE" => return some (← raiseStatement g)
  | "SELECT" | "WITH" | "VALUES" | "FROM" =>
    back
    return some (.query (← g.query))
  | "TRUNCATE" => return some (← truncate g)
  | "ATTACH" => return some (← attach g)
  | "DETACH" => only [.duckdb, .generic] detach
  | "MSCK" => return some (← repairTable g)
  | "CREATE" => return some (← create g)
  | "CACHE" => return some (← cacheTable g)
  | "DROP" => return some (← drop g)
  | "DISCARD" => silent do
    unless ← hasWord ["ALL", "PLANS", "SEQUENCES", "TEMP", "TEMPORARY"] do
      needed "ALL, PLANS, SEQUENCES, TEMP or TEMPORARY after DISCARD"
  | "DECLARE" => return some (← declareStatement g)
  | "FETCH" => return some (← fetchStatement g)
  | "DELETE" => return some (← delete g)
  | "INSERT" => return some (← insert g)
  | "REPLACE" => return some (← replace g)
  | "UNCACHE" => return some (← uncacheTable g)
  | "UPDATE" => return some (← update g)
  | "ALTER" => return some (← alter g)
  | "CALL" => return some (← callStatement g)
  | "COPY" => return some (← copy g)
  | "OPEN" => silent someIdentifier
  | "CLOSE" => silent do unless ← word "ALL" do someIdentifier
  | "SET" => return some (← setStatement g)
  | "SHOW" => return some (← showStatement g)
  | "USE" => return some (← useStatement g)
  | "GRANT" => return some (← grant g)
  | "DENY" => return some (← deny g)
  | "REVOKE" => return some (← revoke g)
  | "START" =>
    expectWord "TRANSACTION"
    transactionModes
    return some (.plain .transaction [])
  | "BEGIN" => return some (← beginTransaction)
  | "END" => return some (← endTransaction)
  | "SAVEPOINT" => silent someIdentifier
  | "RELEASE" => silent do
    let _ ← word "SAVEPOINT"
    someIdentifier
  | "COMMIT" =>
    chaining
    return some (.plain .transaction [])
  | "RAISERROR" => return some (← raiseError g)
  | "ROLLBACK" => return some (← rollback)
  | "ASSERT" => exprs do
    let condition ← g.exprParts
    let message ← partsAfter "AS" g.exprParts
    return condition ++ message
  | "DEALLOCATE" => silent do
    let _ ← word "PREPARE"
    someIdentifier
  | "EXECUTE" | "EXEC" => return some (← executeStatement g)
  | "PREPARE" => return some (← prepareStatement g)
  | "MERGE" => return some (← merge g)
  | "LISTEN" => if d.listenNotify then silent someIdentifier else return none
  | "UNLISTEN" => if d.listenNotify then return some (← unlistenStatement) else return none
  | "NOTIFY" => if d.listenNotify then return some (← notifyStatement) else return none
  | "PRAGMA" => return some (← pragmaStatement g)
  | "UNLOAD" => return some (← unload g)
  | "RENAME" => return some (← renameTables g)
  | "INSTALL" => only [.duckdb, .generic] (silentStatement k someIdentifier)
  | "LOAD" => return some (← load g)
  | "OPTIMIZE" => only [.clickhouse, .generic] (optimizeTable g)
  | "COMMENT" => if d.commentOn then return some (← commentOn g) else return none
  | "PRINT" => exprs g.exprParts
  | "RETURN" => exprs do return ((← attempt g.exprParts).getD [])
  | "EXPORT" => return some (← exportData g)
  | "VACUUM" => return some (← vacuum g)
  | _ => return none

/-- The statements that one dialect alone has, or reads differently from all others. -/
def ownStatement? (g : Nested) : Parser (Option Statement) := do
  match ← dialect with
  | .mysql =>
    if ← words ["LOCK", "TABLES"] then return some (← lockTables)
    else if ← words ["UNLOCK", "TABLES"] then return some (.plain (.other "UNLOCK") [])
    else return none
  | .sqlite => if ← peekWord "REPLACE" then return some (← insert g) else return none
  | .mssql =>
    if ← word "IF" then return some (← looseIf g)
    else if ← anyWords [["CREATE", "TRIGGER"], ["CREATE", "OR", "ALTER", "TRIGGER"]] then
      return some (← createTableTrigger g)
    else return none
  | .bigquery =>
    let after ← peekNth 1
    let plain := after.keyword == "TRANSACTION" || after == .symbol ";" || after == .eof
    if ← provided (!plain) (word "BEGIN") then return some (← blockWithHandlers g) else return none
  | .snowflake =>
    if ← word "BEGIN" then return some (← blockWithHandlers g)
    else if ← words ["ALTER", "SESSION"] then return some (← alterSession)
    else
      let created ← if ← word "CREATE" then createLoose? g else pure none
      if let some s := created then return some s
      if ← words ["COPY", "INTO"] then return some (← copyInto g)
      match ← anyWord ["LIST", "LS", "REMOVE", "RM"] with
      | some k => return some (← stagedFiles g k)
      | none =>
        if ← anyWords [["SHOW", "TERSE", "OBJECTS"], ["SHOW", "OBJECTS"]] then
          return some (← showObjects g)
        else return none
  | _ => return none

/-- A statement. -/
def statement (g : Nested) : Parser Statement := do
  match ← ownStatement? g with
  | some s => return s
  | none =>
    let t ← nextLocated
    match t.token with
    | .word _ _ k =>
      match ← statementAfter g k with
      | some s => return s
      | none => unexpected "an SQL statement" t
    | .symbol "(" =>
      back
      return .query (← g.query)
    | _ => unexpected "an SQL statement" t

end QueryGuard.Sql.Grammar
