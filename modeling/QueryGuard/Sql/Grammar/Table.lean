import QueryGuard.Sql.Grammar.Block

/-!
Definitions of tables: columns with their options, constraints, and the clauses behind them.
-/

namespace QueryGuard.Sql.Grammar

open Sql.Parser

/-! ## Constraints -/

/-- When a constraint is checked and whether it is enforced. Each may be stated once. -/
def constraintTiming : Parser Unit :=
  loop (false, false, false) fun (deferrable, initially, enforced) => do
    if ← provided (!deferrable) (words ["NOT", "DEFERRABLE"]) then
      return .again (true, initially, enforced)
    else if ← provided (!deferrable) (word "DEFERRABLE") then
      return .again (true, initially, enforced)
    else if ← provided (!initially) (word "INITIALLY") then
      unless ← hasWord ["DEFERRED", "IMMEDIATE"] do needed "one of DEFERRED or IMMEDIATE"
      return .again (deferrable, true, enforced)
    else if ← provided (!enforced) (word "ENFORCED") then
      return .again (deferrable, initially, true)
    else if ← provided (!enforced) (words ["NOT", "ENFORCED"]) then
      return .again (deferrable, initially, true)
    else return .done ()

/-- What happens to referring rows. -/
def referentialAction : Parser Unit := do
  unless ← hasWord ["RESTRICT", "CASCADE"] do
    unless ← words ["SET", "NULL"] do
      unless ← words ["NO", "ACTION"] do
        unless ← words ["SET", "DEFAULT"] do
          needed "one of RESTRICT, CASCADE, SET NULL, NO ACTION or SET DEFAULT"

/-- The table and columns behind REFERENCES, with all that may follow them. -/
def references (g : Nested) : Parser Unit := do
  someName g
  let _ ← columnList false false
  loop (false, false) fun (deleted, updated) => do
    if ← provided (!deleted) (words ["ON", "DELETE"]) then
      referentialAction
      return .again (true, updated)
    else if ← provided (!updated) (words ["ON", "UPDATE"]) then
      referentialAction
      return .again (deleted, true)
    else return .done ()
  constraintTiming

/-- The method of an index behind USING, if it comes next. -/
def indexMethod : Parser Bool := do
  if ← word "USING" then
    someIdentifier
    return true
  else return false

/-- A column or expression of an index. -/
def indexColumn (g : Nested) : Parser (List Part) := do
  let e ← g.exprParts
  unless ← peekAnyWord ["ASC", "DESC", "NULLS", "WITH"] do
    let _ ← attempt identifier
  return e ++ (← orderRest g)

/-- The columns of an index in parentheses. -/
def indexColumns (g : Nested) : Parser (List Part) := do
  return (← parenthesised true false (indexColumn g)).flatten

/-- The options behind the columns of an index. -/
def indexOptions : Parser Unit :=
  whileTrue do
    if ← indexMethod then return true
    else if ← word "COMMENT" then
      someString
      return true
    else return false

/-- A constraint of a table, if one comes next. -/
def tableConstraint (g : Nested) : Parser (Option (List Part)) := do
  let d ← dialect
  let start ← position
  let name ← optional (word "CONSTRAINT") identifier
  let named := name.isSome
  let t ← nextLocated
  let indexed : Parser (List Part) := do
    let columns ← indexColumns g
    indexOptions
    return columns
  let keyed := d.isOneOf [.generic, .mysql]
  match t.token.keyword with
  | "UNIQUE" =>
    let display ← hasWord ["KEY", "INDEX"]
    if display && !keyed then needed "\x60index_name\x60 or \x60(column_name [, ...])\x60"
    if ← word "NULLS" then
      let _ ← word "NOT"
      expectWord "DISTINCT"
    let _ ← optionalWord
    let _ ← indexMethod
    let columns ← indexed
    constraintTiming
    return some columns
  | "PRIMARY" =>
    expectWord "KEY"
    let _ ← optionalWord
    let _ ← indexMethod
    let columns ← indexed
    constraintTiming
    return some columns
  | "FOREIGN" =>
    expectWord "KEY"
    let _ ← optionalWord
    let _ ← columnList true false
    expectWord "REFERENCES"
    references g
    return some []
  | "CHECK" =>
    let e ← parens g.exprParts
    unless ← word "ENFORCED" do
      let _ ← words ["NOT", "ENFORCED"]
    return some e
  | k =>
    if keyed && !named && (k == "INDEX" || k == "KEY") then
      unless ← peekWord "USING" do
        let _ ← optionalWord
      let _ ← indexMethod
      return some (← indexColumns g)
    else if keyed && (k == "FULLTEXT" || k == "SPATIAL") then
      if let some n := name then
        unexpected "FULLTEXT or SPATIAL option without constraint name"
          { t with token := .word n.shown none "" }
      let _ ← hasWord ["KEY", "INDEX"]
      let _ ← optionalWord
      return some (← indexColumns g)
    else if named then unexpected "PRIMARY, UNIQUE, FOREIGN, or CHECK" t
    else
      moveTo start
      return none

/-! ## Columns -/

/-- The bounds, step and start of a sequence, in this order. -/
def sequenceOptions : Parser Unit := do
  if ← word "INCREMENT" then
    let _ ← word "BY"
    signedNumber
  if ← word "MINVALUE" then signedNumber else let _ ← words ["NO", "MINVALUE"]
  if ← word "MAXVALUE" then signedNumber else let _ ← words ["NO", "MAXVALUE"]
  if ← word "START" then
    let _ ← word "WITH"
    signedNumber
  if ← word "CACHE" then signedNumber
  unless ← words ["NO", "CYCLE"] do
    let _ ← word "CYCLE"

/-- Sequence options in parentheses, if they are there. -/
def sequenceInParens : Parser Unit := do
  if ← symbol "(" then
    sequenceOptions
    expectSymbol ")"

/-- How a generated column is generated, behind GENERATED. -/
def generatedColumn (g : Nested) : Parser (Option (List Part)) := do
  if ← anyWords [["ALWAYS", "AS", "IDENTITY"], ["BY", "DEFAULT", "AS", "IDENTITY"]] then
    sequenceInParens
    return some []
  else if ← words ["ALWAYS", "AS"] then
    if ← symbol "(" then
      let e ← within .ordinary g.exprParts
      expectSymbol ")"
      unless ← word "STORED" do
        if (← dialect) == .postgres then needed "STORED"
        let _ ← word "VIRTUAL"
      return some e
    else return none
  else return none

/-- The expression of a computed column, behind AS. -/
def computedColumn (g : Nested) : Parser (List Part) := do
  let e ← parens g.exprParts
  let _ ← anyWord ["STORED", "VIRTUAL"]
  return e

/-- The start and step of numbers between parentheses. -/
def startAndStep : Parser Unit := do
  expectSymbol "("
  signedNumber
  expectSymbol ","
  signedNumber
  expectSymbol ")"

/-- The numbering of a column, a policy or tags on it, if one of them comes next. -/
def columnProperty (g : Nested) : Parser Bool := do
  let start ← position
  let _ ← word "WITH"
  if ← hasWord ["IDENTITY", "AUTOINCREMENT"] then
    if ← peekSymbol "(" then startAndStep
    else if ← word "START" then
      signedNumber
      expectWord "INCREMENT"
      signedNumber
    let _ ← anyWord ["ORDER", "NOORDER"]
    return true
  else if ← anyWords [["MASKING", "POLICY"], ["PROJECTION", "POLICY"]] then
    someName g
    if ← word "USING" then
      let _ ← parens identifiers
    return true
  else if ← word "TAG" then
    tags g
    return true
  else
    moveTo start
    return false

/-- An option of a column, if one comes next. Some keywords are taken in every dialect, though only
some dialects know the option; what follows such a keyword is then read as if it were not there. -/
def commonColumnOption (g : Nested) : Parser (Option (List Part)) := do
  let d ← dialect
  let click := d.isOneOf [.clickhouse, .generic]
  let mysql := d.isOneOf [.mysql, .generic]
  let plainExpr := g.exprParts
  if ← words ["CHARACTER", "SET"] then
    someName g
    return some []
  else if ← word "COLLATE" then
    someName g
    return some []
  else if ← words ["NOT", "NULL"] then return some []
  else if ← word "COMMENT" then
    commentText
    return some []
  else if ← word "NULL" then return some []
  else if ← word "DEFAULT" then return some (← plainExpr)
  else if ← provided click (hasWord ["MATERIALIZED", "ALIAS"]) then return some (← plainExpr)
  else if ← provided click (word "EPHEMERAL") then
    if (← peekSymbol ",") || (← peekSymbol ")") then return some [] else return some (← plainExpr)
  else if ← words ["PRIMARY", "KEY"] then
    constraintTiming
    return some []
  else if ← word "UNIQUE" then
    constraintTiming
    return some []
  else if ← word "REFERENCES" then
    references g
    return some []
  else if ← word "CHECK" then return some (← parens (within .ordinary g.exprParts))
  else if ← restrictedTo mysql (word "AUTO_INCREMENT") then return some []
  else if ← restrictedTo (d.isOneOf [.sqlite, .generic]) (word "AUTOINCREMENT") then
    return some []
  else if ← restrictedTo d.columnAscDesc (word "ASC") then return some []
  else if ← restrictedTo d.columnAscDesc (word "DESC") then return some []
  else if ← restrictedTo mysql (words ["ON", "UPDATE"]) then return some (← plainExpr)
  else if ← word "GENERATED" then generatedColumn g
  else if d.isOneOf [.bigquery, .generic] && (← peekWord "OPTIONS") then
    return some (← optionParts g ["OPTIONS"])
  else if ← restrictedTo (d.isOneOf [.mysql, .sqlite, .duckdb, .generic]) (word "AS") then
    return some (← computedColumn g)
  else if ← restrictedTo mysql (word "SRID") then return some (← plainExpr)
  else if ← restrictedTo (d.isOneOf [.mssql, .generic]) (word "IDENTITY") then
    if ← peekSymbol "(" then startAndStep
    return some []
  else if ← provided (d.isOneOf [.sqlite, .generic]) (words ["ON", "CONFLICT"]) then
    let _ ← expectAnyWord ["ROLLBACK", "ABORT", "FAIL", "IGNORE", "REPLACE"]
    return some []
  else return none

/-- An option of a column, if one comes next. -/
def columnOption (g : Nested) : Parser (Option (List Part)) := do
  if ← provided ((← dialect) == .snowflake) (columnProperty g) then return some []
  else within .columnOptions (commonColumnOption g)

/-- The options of a column, each of which may be named as a constraint. -/
def columnOptions (g : Nested) : Parser (List Part) := do
  let options ← many do
    if ← word "CONSTRAINT" then
      someIdentifier
      match ← columnOption g with
      | some parts => return some parts
      | none => needed "constraint details after CONSTRAINT <name>"
    else columnOption g
  return options.flatten

/-- Whether a column has no type. -/
def lacksType : Parser Bool := do
  if (← dialect) == .sqlite then
    match ← peek with
    | .word _ _ k =>
      return ["CONSTRAINT", "PRIMARY", "NOT", "UNIQUE", "CHECK", "DEFAULT", "COLLATE", "REFERENCES",
        "GENERATED", "AS"].contains k
    | _ => return true
  else return false

/-- A column: name, type and options. -/
def columnDef (g : Nested) : Parser (List Part) := do
  someIdentifier
  let type ← if ← lacksType then pure [] else typeParts g
  return type ++ (← columnOptions g)

/-- Columns and constraints of a table in parentheses, if they are there. -/
def columnDefs (g : Nested) : Parser (List Part) := do
  let trailing := (← dialect).columnTrailingCommas
  if !(← symbol "(") then return []
  else if ← symbol ")" then return []
  else
    let (columns, constraints) ← loop ([], []) fun ((columns, constraints) : List Part × List Part) => do
      let (columns, constraints) ← match ← tableConstraint g with
        | some parts => pure (columns, constraints ++ parts)
        | none =>
          match ← peek with
          | .word _ _ _ => do pure (columns ++ (← columnDef g), constraints)
          | _ => needed "column name or constraint definition"
      let comma ← symbol ","
      let closing ← peekSymbol ")"
      if !comma && !closing then needed "',' or ')' after column definition"
      else if closing && (!comma || trailing) then
        skip
        return .done (columns, constraints)
      else return .again (columns, constraints)
    return columns ++ constraints

/-! ## Behind the columns -/

/-- How rows are laid out in files, behind ROW. -/
def rowFormat : Parser Unit := do
  expectWord "FORMAT"
  match ← anyWord ["SERDE", "DELIMITED"] with
  | some "SERDE" => someString
  | _ =>
    whileTrue do
      match ← anyWord ["FIELDS", "COLLECTION", "MAP", "LINES", "NULL"] with
      | some "FIELDS" =>
        if ← words ["TERMINATED", "BY"] then
          someIdentifier
          if ← words ["ESCAPED", "BY"] then someIdentifier
          return true
        else return false
      | some k =>
        let expected := match k with
          | "COLLECTION" => ["ITEMS", "TERMINATED", "BY"]
          | "MAP" => ["KEYS", "TERMINATED", "BY"]
          | "LINES" => ["TERMINATED", "BY"]
          | _ => ["DEFINED", "AS"]
        if ← words expected then
          someIdentifier
          return true
        else return false
      | none => return false

/-- How a table is stored in files. -/
def storage (g : Nested) : Parser (List Part) :=
  loop [] fun (soFar : List Part) => do
    let start ← position
    match ← anyWord ["ROW", "STORED", "LOCATION", "WITH"] with
    | some "ROW" =>
      rowFormat
      return .again soFar
    | some "STORED" =>
      expectWord "AS"
      if ← word "INPUTFORMAT" then
        let input ← g.exprParts
        expectWord "OUTPUTFORMAT"
        let output ← g.exprParts
        return .again (soFar ++ input ++ output)
      else
        fileFormat
        return .again soFar
    | some "LOCATION" =>
      someString
      return .again soFar
    | some _ =>
      moveTo start
      match ← propertiesAfter g ["WITH", "SERDEPROPERTIES"] with
      | some parts => return .again (soFar ++ parts)
      | none => return .done soFar
    | none => return .done soFar

/-- PARTITIONED BY, if it comes next. -/
def partitionedBy (g : Nested) : Parser (List Part) :=
  partsAfterAll ["PARTITIONED", "BY"] (parens (itemParts (columnDef g)))

/-- CLUSTERED BY, if it comes next. -/
def clusteredBy (g : Nested) : Parser (List Part) := do
  if ← provided (← dialectIn [.hive, .generic]) (words ["CLUSTERED", "BY"]) then
    let _ ← columnList true false
    let sorting ← partsAfterAll ["SORTED", "BY"] (parens (itemParts (orderItem g)))
    expectWord "INTO"
    numberValue
    expectWord "BUCKETS"
    return sorting
  else return []

/-- The keys of settings that take a value. -/
def settingKeys : List (List String) :=
  [["DEFAULT", "CHARSET"], ["CHARSET"], ["DEFAULT", "CHARACTER", "SET"], ["CHARACTER", "SET"],
   ["DEFAULT", "COLLATE"], ["COLLATE"], ["DATA", "DIRECTORY"], ["INDEX", "DIRECTORY"],
   ["KEY_BLOCK_SIZE"], ["ROW_FORMAT"], ["PACK_KEYS"], ["STATS_AUTO_RECALC"], ["STATS_PERSISTENT"],
   ["STATS_SAMPLE_PAGES"], ["DELAY_KEY_WRITE"], ["COMPRESSION"], ["ENCRYPTION"], ["MAX_ROWS"],
   ["MIN_ROWS"], ["AUTOEXTEND_SIZE"], ["AVG_ROW_LENGTH"], ["CHECKSUM"], ["CONNECTION"],
   ["ENGINE_ATTRIBUTE"], ["PASSWORD"], ["SECONDARY_ENGINE_ATTRIBUTE"], ["INSERT_METHOD"],
   ["AUTO_INCREMENT"]]

/-- One setting of a table, if one comes next. -/
def tableSetting : Parser Bool := do
  if ← words ["START", "TRANSACTION"] then return true
  else if ← word "COMMENT" then
    let _ ← symbol "="
    let t ← nextLocated
    match t.token with
    | .string .single _ => return true
    | _ => unexpected "Token::SingleQuotedString" { t with place := none }
  else if ← word "ENGINE" then
    let _ ← symbol "="
    let t ← nextLocated
    match t.token with
    | .word _ _ _ =>
      if ← peekSymbol "(" then
        let _ ← parens (itemsOrNone ")" identifier)
      return true
    | _ => unexpected "Token::Word" t
  else if ← word "TABLESPACE" then
    let _ ← symbol "="
    let t ← nextLocated
    match t.token with
    | .word _ _ _ | .string .single _ =>
      if ← word "STORAGE" then
        let _ ← symbol "="
        let s ← nextLocated
        match s.token with
        | .word text _ _ =>
          unless ["DISK", "MEMORY"].contains text.toUpper do
            unexpected "Storage type (DISK or MEMORY)" s
        | _ => unexpected "Token::Word" s
      return true
    | _ => unexpected "Token::Word" t
  else if ← word "UNION" then
    let _ ← symbol "="
    let t ← nextLocated
    match t.token with
    | .symbol "(" =>
      let _ ← itemsOrNone ")" identifier
      expectSymbol ")"
      return true
    | _ => unexpected "Token::LParen" t
  else
    if ← anyWords settingKeys then
      let _ ← symbol "="
      match ← attempt value with
      | some _ => pure ()
      | none => someIdentifier
      return true
    else return false

/-- The settings of a table. -/
def tableSettings : Parser Unit :=
  whileTrue do
    if ← tableSetting then
      let _ ← symbol ","
      return true
    else return false

/-- What configures a table: options, and how it is partitioned and clustered. -/
def tableConfig (g : Nested) : Parser (List Part × List Part) := do
  let d ← dialect
  if ← word "INHERITS" then
    let _ ← parenthesised true false (tableName g)
  let withOptions ← optionsAfter g ["WITH"]
  let properties ← optionsAfter g ["TBLPROPERTIES"]
  let partition ← if ← provided (d.isOneOf [.bigquery, .postgres, .generic]) (words ["PARTITION", "BY"])
    then g.exprParts else pure []
  let big := d.isOneOf [.bigquery, .generic]
  let cluster ← if ← provided big (words ["CLUSTER", "BY"]) then itemParts g.exprParts else pure []
  let bigOptions ← if big && (← peekWord "OPTIONS") then
      some <$> optionParts g ["OPTIONS"]
    else pure none
  let options := bigOptions <|> properties <|> withOptions
  if d != .hive && options.isNone then tableSettings
  return (options.getD [], partition ++ cluster)

/-- What happens to rows at the end of a transaction, behind ON COMMIT. -/
def onCommit : Parser Unit := do
  unless ← words ["DELETE", "ROWS"] do
    unless ← words ["PRESERVE", "ROWS"] do
      unless ← word "DROP" do
        refuse ("Expecting DELETE ROWS, PRESERVE ROWS or DROP" ++ (← peek).render)

/-- A table that the new one is like, if one is given. -/
def tableLike (g : Nested) : Parser Unit := do
  let start ← position
  if ← provided (← dialect).parenthesisedLike (symbol "(") then
    if ← word "LIKE" then
      let _ ← createdName g
      unless ← words ["INCLUDING", "DEFAULTS"] do
        let _ ← words ["EXCLUDING", "DEFAULTS"]
      expectSymbol ")"
    else moveTo start
  else if ← hasWord ["LIKE", "ILIKE"] then
    let _ ← createdName g

/-- CREATE TABLE behind its keywords. -/
def createTable (g : Nested) : Parser Statement := do
  let d ← dialect
  ifNotExists
  let name ← createdName g
  onCluster
  tableLike g
  if ← word "CLONE" then nameIfAny g
  let columns ← columnDefs g
  if ← provided (d == .hive) (word "COMMENT") then
    let t ← nextLocated
    match t.token with
    | .string .single _ => pure ()
    | _ => unexpected "comment" t
  let _ ← words ["WITHOUT", "ROWID"]
  let partitioned ← partitionedBy g
  let clustered ← clusteredBy g
  let stored ← storage g
  let (options, layout) ← tableConfig g
  let key ← if ← provided (d.isOneOf [.clickhouse, .generic]) (words ["PRIMARY", "KEY"]) then g.exprParts
    else pure []
  let order ← partsAfterAll ["ORDER", "BY"] do
    if ← peekSymbol "(" then tuple g else g.exprParts
  if ← words ["ON", "COMMIT"] then onCommit
  let _ ← word "STRICT"
  let source ← do
    if ← word "AS" then g.queryParts
    else if d.createTableSelect && (← peekWord "SELECT") then g.queryParts
    else pure []
  return .plain .create ([.relation name] ++ columns ++ partitioned ++ stored ++ options ++ source ++
    key ++ order ++ layout ++ clustered)

/-- CREATE EXTERNAL TABLE behind EXTERNAL. -/
def createExternalTable (g : Nested) : Parser Statement := do
  expectWord "TABLE"
  ifNotExists
  let name ← objectName g
  let columns ← columnDefs g
  let partitioned ← partitionedBy g
  let stored ← storage g
  let options ← optionParts g ["TBLPROPERTIES"]
  return .plain .create ([.relation name] ++ columns ++ partitioned ++ stored ++ options)

/-! ## Tables whose clauses come in any order -/

/-- Keywords of clauses with a string behind an equals sign. -/
def stringClauses : List String :=
  ["DEFAULT_DDL_COLLATION", "EXTERNAL_VOLUME", "CATALOG", "BASE_LOCATION", "CATALOG_SYNC",
   "TARGET_LAG"]

/-- What has been read of a table whose clauses come in any order. -/
structure LooseTable where
  columns : List Part := []
  source : List Part := []
  clusters : List Part := []
  located : Bool := false

/-- A clause of such a table, behind its keyword. -/
def looseClause (g : Nested) (t : Located) (k : String) (table : LooseTable) :
    Parser LooseTable := do
  let equals (choices : List String) (what : String) : Parser Unit := do
    expectSymbol "="
    unless ← hasWord choices do needed what
  if stringClauses.contains k then
    expectSymbol "="
    someString
    return { table with located := table.located || k == "BASE_LOCATION" }
  match k with
  | "COPY" => expectWord "GRANTS"
  | "COMMENT" =>
    back
    inlineComment
  | "AS" => return { table with source := ← g.queryParts }
  | "CLONE" => nameIfAny g
  | "LIKE" => someName g
  | "CLUSTER" =>
    expectWord "BY"
    return { table with clusters := ← parens (itemParts g.exprParts) }
  | "ENABLE_SCHEMA_EVOLUTION" | "CHANGE_TRACKING" => equals ["TRUE", "FALSE"] "TRUE or FALSE"
  | "DATA_RETENTION_TIME_IN_DAYS" | "MAX_DATA_EXTENSION_TIME_IN_DAYS" =>
    expectSymbol "="
    someUnsigned
  | "WITH" =>
    let _ ← expectAnyWord ["AGGREGATION", "TAG", "ROW"]
    back
  | "AGGREGATION" =>
    expectWord "POLICY"
    someName g
  | "ROW" =>
    expectWords ["ACCESS", "POLICY"]
    someName g
    expectWord "ON"
    let _ ← parens identifiers
  | "TAG" => tags g
  | "ON" => if ← word "COMMIT" then onCommit else unexpected "end of statement" t
  | "STORAGE_SERIALIZATION_POLICY" => equals ["COMPATIBLE", "OPTIMIZED"] "storage_serialization_policy"
  | "IF" => unless ← words ["NOT", "EXISTS"] do unexpected "end of statement" t
  | "WAREHOUSE" =>
    expectSymbol "="
    someIdentifier
  | "REFRESH_MODE" => equals ["AUTO", "FULL", "INCREMENTAL"] "AUTO, FULL or INCREMENTAL"
  | "INITIALIZE" => equals ["ON_CREATE", "ON_SCHEDULE"] "ON_CREATE or ON_SCHEDULE"
  | "REQUIRE" => unless ← word "USER" do unexpected "end of statement" t
  | _ => unexpected "end of statement" t
  return table

/-- CREATE TABLE with its clauses in any order, behind its keywords. -/
def createLooseTable (g : Nested) (iceberg : Bool) : Parser Statement := do
  ifNotExists
  let name ← objectName g
  let table ← loop ({} : LooseTable) fun table => do
    let start ← position
    let t ← nextLocated
    match t.token with
    | .word _ _ k => return .again (← looseClause g t k table)
    | .symbol "(" =>
      moveTo start
      return .again { table with columns := ← columnDefs g }
    | .eof => return .done table
    | .symbol ";" =>
      moveTo start
      return .done table
    | _ => unexpected "end of statement" t
  if iceberg && !table.located then refuse "BASE_LOCATION is required for ICEBERG tables"
  else
    return .plain .create ([.relation name] ++ table.columns ++ table.source ++ table.clusters)

end QueryGuard.Sql.Grammar
