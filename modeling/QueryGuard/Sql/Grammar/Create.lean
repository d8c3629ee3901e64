import QueryGuard.Sql.Grammar.Table

/-!
CREATE for everything but tables: views, functions, triggers, indexes, schemas, roles and others.
-/

namespace QueryGuard.Sql.Grammar

open Sql.Parser

/-! ## Views -/

/-- The name of a user, which may have a host. -/
def granteeName (g : Nested) : Parser Unit := do
  let name ← objectName g
  if ← provided ((← dialect).userAtHost && name.length == 1) (symbol "@") then someIdentifier

/-- The algorithm, definer and security of a view. -/
def viewSecurity (g : Nested) : Parser Unit := do
  if ← word "ALGORITHM" then
    expectSymbol "="
    let _ ← expectAnyWord ["UNDEFINED", "MERGE", "TEMPTABLE"]
  if ← word "DEFINER" then
    expectSymbol "="
    granteeName g
  if ← words ["SQL", "SECURITY"] then
    let _ ← expectAnyWord ["DEFINER", "INVOKER"]

/-- The columns of a view in parentheses, if they are there. -/
def viewColumns (g : Nested) : Parser (List Part) := do
  let d ← dialect
  if ← symbol "(" then
    if ← symbol ")" then return []
    else
      let columns ← itemsTrailing d.viewColumnTrailingCommas do
        someIdentifier
        let options ← many (columnOption g)
        let type ← if d == .clickhouse then typeParts g else pure []
        return type ++ options.flatten
      expectSymbol ")"
      return columns.flatten
  else return []

/-- CREATE VIEW from SECURE, MATERIALIZED or VIEW on. -/
def createView (g : Nested) : Parser Statement := do
  let d ← dialect
  let _ ← word "SECURE"
  let _ ← word "MATERIALIZED"
  expectWord "VIEW"
  let first ← words ["IF", "NOT", "EXISTS"]
  let _ ← createdName g
  unless first do ifNotExists
  let columns ← viewColumns g
  let withOptions ← optionsAfter g ["WITH"]
  if ← word "CLUSTER" then
    expectWord "BY"
    let _ ← columnList false false
  let bigOptions ← if d.isOneOf [.bigquery, .generic] then optionsAfter g ["OPTIONS"] else pure none
  if ← provided (d.isOneOf [.clickhouse, .generic]) (word "TO") then someName g
  if ← provided d.createViewComment (word "COMMENT") then
    expectSymbol "="
    commentText
  expectWord "AS"
  let q ← g.queryParts
  if d.isOneOf [.redshift, .generic] then
    let _ ← words ["WITH", "NO", "SCHEMA", "BINDING"]
  return .plain .create (columns ++ q ++ (bigOptions <|> withOptions).getD [])

/-! ## Functions, macros and procedures -/

/-- A parameter of a function by its type, which may have a name before it. What stands before the
type has been read as a type too, and is a name if it ends in a word. -/
def functionArg (g : Nested) : Parser (List Part) := do
  unless ← word "IN" do
    unless ← word "OUT" do
      let _ ← word "INOUT"
  let first ← typeParts g
  let last ← lastLocated
  let second ← if ← peekWord "DEFAULT" then pure none else attempt (typeParts g)
  if second.isSome then
    match last.token with
    | .word _ _ _ => pure ()
    | _ => unexpected "a name or type" last
  let default ← if ← firstOf [word "DEFAULT", symbol "="] then g.exprParts else pure []
  return second.getD first ++ default

/-- A function by its name and the types of its parameters. -/
def functionDesc (g : Nested) : Parser (List Part) := do
  someName g
  if ← symbol "(" then
    if ← symbol ")" then return []
    else
      let args ← itemParts (functionArg g)
      expectSymbol ")"
      return args
  else return []

/-- The body of a function as a string. -/
def functionString : Parser Unit := do
  match ← peek with
  | .dollarString _ _ =>
    if ← dialectIn [.postgres, .generic] then skip else someString
  | _ => someString

/-- The clauses of a function, each of which may be given once. -/
inductive FunctionClause where
  | body | language | behavior | nullCall | parallel
deriving DecidableEq, Repr

/-- The clauses behind the parameters of a function. -/
def functionClauses (g : Nested) : Parser (List Part) := do
  let once (seen : List FunctionClause) (c : FunctionClause) (name : String) : Parser Unit := do
    if seen.contains c then refuse (name ++ " specified more than once")
  let (_, parts) ← loop ([], []) fun ((seen, parts) : List FunctionClause × List Part) => do
    if ← word "AS" then
      once seen .body "AS"
      functionString
      return .again (.body :: seen, parts)
    else if ← word "LANGUAGE" then
      once seen .language "LANGUAGE"
      someIdentifier
      return .again (.language :: seen, parts)
    else if ← hasWord ["IMMUTABLE", "STABLE", "VOLATILE"] then
      once seen .behavior "IMMUTABLE | STABLE | VOLATILE"
      return .again (.behavior :: seen, parts)
    else if ← anyWords [["CALLED", "ON", "NULL", "INPUT"], ["RETURNS", "NULL", "ON", "NULL", "INPUT"],
        ["STRICT"]] then
      once seen .nullCall "CALLED ON NULL INPUT | RETURNS NULL ON NULL INPUT | STRICT"
      return .again (.nullCall :: seen, parts)
    else if ← word "PARALLEL" then
      once seen .parallel "PARALLEL \x7b UNSAFE | RESTRICTED | SAFE \x7d"
      unless ← hasWord ["UNSAFE", "RESTRICTED", "SAFE"] do
        needed "one of UNSAFE | RESTRICTED | SAFE"
      return .again (.parallel :: seen, parts)
    else if ← word "RETURN" then
      once seen .body "RETURN"
      let e ← g.exprParts
      return .again (.body :: seen, parts ++ e)
    else return .done (seen, parts)
  return parts

/-- A function with parameters by type and clauses in any order. -/
def createPlainFunction (g : Nested) : Parser Statement := do
  someName g
  expectSymbol "("
  let args ← if ← peekSymbol ")" then pure [] else itemParts (functionArg g)
  expectSymbol ")"
  let result ← partsAfter "RETURNS" (typeParts g)
  let clauses ← functionClauses g
  return .plain .create (args ++ result ++ clauses)

/-- A function made from a class, behind FUNCTION. -/
def createClassFunction (g : Nested) : Parser Statement := do
  someName g
  expectWord "AS"
  functionString
  if ← word "USING" then
    let _ ← expectAnyWord ["JAR", "FILE", "ARCHIVE"]
    someString
  return .plain .create []

/-- The name and the named parameters of a function. -/
def namedParams (g : Nested) : Parser (List Part) := do
  someName g
  expectSymbol "("
  let params ← itemsOrNone ")" do
    someIdentifier
    let type ← typeParts g
    let default ← if ← symbol "=" then g.exprParts else pure []
    return type ++ default
  expectSymbol ")"
  return params.flatten

/-- A function whose body is an expression, behind FUNCTION. -/
def createExprFunction (g : Nested) : Parser Statement := do
  ifNotExists
  let params ← namedParams g
  let result ← partsAfter "RETURNS" (typeParts g)
  unless ← word "DETERMINISTIC" do
    let _ ← words ["NOT", "DETERMINISTIC"]
  if ← word "LANGUAGE" then someIdentifier
  let remote ← words ["REMOTE", "WITH", "CONNECTION"]
  if remote then someName g
  let optionsFirst ← peekWord "OPTIONS"
  let before ← optionParts g ["OPTIONS"]
  let body ← if remote then pure []
    else do
      expectWord "AS"
      g.exprParts
  let after ← if !remote && !optionsFirst then optionParts g ["OPTIONS"] else pure []
  return .plain .create (params ++ result ++ body ++ before ++ after)

/-- What a reader meets in a selection that stands alone. -/
def bareSelect (g : Nested) : Parser (List Part) := do
  match ← select g with
  | .select _ parts => return parts
  | _ => return []

/-- A function whose body is statements or a returned query, behind FUNCTION. -/
def createBlockFunction (g : Nested) : Parser Statement := do
  let params ← namedParams g
  expectWord "RETURNS"
  let named : Parser (List Part) := do
    someIdentifier
    unless (← peekWord "TABLE") && (← peekNth 1) == .symbol "(" do needed "TABLE"
    typeParts g
  let result ← match ← attempt named with
    | some columns => pure columns
    | none => typeParts g
  let _ ← word "AS"
  let body ← do
    if ← word "BEGIN" then do
      let ss ← statementList g ["END"]
      expectWord "END"
      pure ss
    else if ← word "RETURN" then
      if ← peekSymbol "(" then g.exprParts
      else if ← peekWord "SELECT" then bareSelect g
      else refuseHere "Expected a subquery (or bare SELECT statement) after RETURN"
    else refuseHere "Unparsable function body"
  return .plain .create (params ++ result ++ body)

/-- Fails because the object whose keyword has just been read cannot be created. -/
def noSuchObject : Parser α := do
  back
  needed "an object type after CREATE"

/-- A macro behind its keyword. -/
def createMacro (g : Nested) : Parser Statement := do
  if ← dialectIn [.duckdb, .generic] then
    someName g
    expectSymbol "("
    let args ← if ← peekSymbol ")" then pure []
      else itemParts do
        someIdentifier
        if ← firstOf [symbol ":=", symbol "=>"] then g.exprParts else return []
    expectSymbol ")"
    expectWord "AS"
    let body ← if ← word "TABLE" then g.queryParts else g.exprParts
    return .plain (.other "CREATE") (args ++ body)
  else noSuchObject

/-- A function behind its keyword. -/
def createFunction (g : Nested) : Parser Statement := do
  match ← dialect with
  | .hive => createClassFunction g
  | .postgres | .generic => createPlainFunction g
  | .duckdb => createMacro g
  | .bigquery => createExprFunction g
  | .mssql => createBlockFunction g
  | _ => noSuchObject

/-- The parameters of a procedure in parentheses, if they are there. -/
def procedureParams (g : Nested) : Parser (List Part) := do
  if !(← symbol "(") then return []
  else if ← symbol ")" then return []
  else loop [] fun (soFar : List Part) => do
    let param ← match ← peek with
      | .word _ _ _ => do
        unless ← word "IN" do
          unless ← word "OUT" do
            let _ ← word "INOUT"
        someIdentifier
        let type ← typeParts g
        let default ← if ← symbol "=" then g.exprParts else pure []
        pure (type ++ default)
      | _ => pure []
    let comma ← symbol ","
    if ← symbol ")" then return .done (soFar ++ param)
    else if comma then return .again (soFar ++ param)
    else needed "',' or ')' after parameter definition"

/-- A procedure behind its keyword. -/
def createProcedure (g : Nested) : Parser Statement := do
  someName g
  let params ← procedureParams g
  if ← word "LANGUAGE" then someIdentifier
  expectWord "AS"
  let body ← branch g ["END"]
  return .plain .create (params ++ body)

/-! ## Triggers -/

/-- When a trigger fires. -/
def triggerPeriod : Parser Unit := do
  let k ← expectAnyWord ["FOR", "BEFORE", "AFTER", "INSTEAD"]
  if k == "INSTEAD" then expectWord "OF"

/-- What a trigger fires on. -/
def triggerEvent : Parser Unit := do
  let k ← expectAnyWord ["INSERT", "UPDATE", "DELETE", "TRUNCATE"]
  if k == "UPDATE" then
    if ← word "OF" then
      let _ ← identifiers

/-- The names of the rows before and after, behind REFERENCING. -/
def triggerRows (g : Nested) : Parser Unit :=
  whileTrue do
    if (← peekAnyWord ["OLD", "NEW"]) && (← peekNthWord 1 "TABLE") then
      skip
      skip
      let _ ← word "AS"
      someName g
      return true
    else
      let _ ← anyWord ["OLD", "NEW"]
      return false

/-- A trigger behind its keyword. -/
def createTrigger (g : Nested) : Parser Statement := do
  unless ← dialectIn [.postgres, .sqlite, .generic, .mysql, .mssql] do noSuchObject
  someName g
  let _ ← attempt triggerPeriod
  whileTrue do
    triggerEvent
    word "OR"
  expectWord "ON"
  someName g
  if ← word "FROM" then nameIfAny g
  constraintTiming
  if ← word "REFERENCING" then triggerRows g
  if ← word "FOR" then
    let _ ← word "EACH"
    let _ ← expectAnyWord ["ROW", "STATEMENT"]
  let condition ← partsAfter "WHEN" g.exprParts
  let body ← if ← word "EXECUTE" then do
      let _ ← expectAnyWord ["FUNCTION", "PROCEDURE"]
      functionDesc g
    else branch g ["END"]
  return .plain .create (condition ++ body)

/-- A trigger that names its table first, behind its keyword. -/
def createTableTrigger (g : Nested) : Parser Statement := do
  someName g
  expectWord "ON"
  someName g
  triggerPeriod
  let _ ← items triggerEvent
  expectWord "AS"
  return .plain .create (← branch g ["END"])

/-! ## Indexes, schemas and databases -/

/-- An operation on the way an index is built. -/
def indexBuildOption : Parser Bool := do
  if ← word "ALGORITHM" then
    let _ ← symbol "="
    unless ← hasWord ["DEFAULT", "INSTANT", "INPLACE", "COPY"] do
      needed "DEFAULT, INSTANT, INPLACE, or COPY after ALGORITHM [=]"
    return true
  else if ← word "LOCK" then
    let _ ← symbol "="
    unless ← hasWord ["DEFAULT", "EXCLUSIVE", "NONE", "SHARED"] do
      needed "DEFAULT, EXCLUSIVE, NONE or SHARED after LOCK [=]"
    return true
  else return false

/-- An index behind its keyword. -/
def createIndex (g : Nested) : Parser Statement := do
  let _ ← word "CONCURRENTLY"
  let conditional ← words ["IF", "NOT", "EXISTS"]
  unless ← provided (!conditional) (word "ON") do
    someName g
    let _ ← indexMethod
    expectWord "ON"
  let table ← objectName g
  let _ ← indexMethod
  let columns ← indexColumns g
  if ← word "INCLUDE" then
    let _ ← parens identifiers
  if ← word "NULLS" then
    let _ ← word "NOT"
    expectWord "DISTINCT"
  let options ← if ← provided (← dialect).createIndexWith (word "WITH") then
      parens (itemParts g.exprParts)
    else pure []
  let condition ← partsAfter "WHERE" g.exprParts
  indexOptions
  whileTrue indexBuildOption
  return .plain .create ([.relation table] ++ columns ++ options ++ condition)

/-- A virtual table behind VIRTUAL. -/
def createVirtualTable (g : Nested) : Parser Statement := do
  expectWord "TABLE"
  ifNotExists
  let name ← objectName g
  expectWord "USING"
  someIdentifier
  let _ ← columnList false false
  return .plain (.other "CREATE") [.relation name]

/-- A schema behind its keyword. -/
def createSchema (g : Nested) : Parser Statement := do
  ifNotExists
  if ← word "AUTHORIZATION" then someIdentifier
  else
    someName g
    if ← word "AUTHORIZATION" then someIdentifier
  let collation ← partsAfterAll ["DEFAULT", "COLLATE"] g.exprParts
  let withOptions ← optionParts g ["WITH"]
  let options ← optionParts g ["OPTIONS"]
  if ← word "CLONE" then someName g
  return .plain .create (withOptions ++ options ++ collation)

/-- A database behind its keyword. -/
def createDatabase (g : Nested) : Parser Statement := do
  ifNotExists
  someName g
  whileTrue do
    if ← hasWord ["LOCATION", "MANAGEDLOCATION"] then
      someString
      return true
    else return false
  if ← word "CLONE" then someName g
  return .plain .create []

/-- A setting of a database behind its keyword, which `t` is. -/
def databaseSetting (g : Nested) (t : Located) (k : String) : Parser Unit := do
  if ["DATA_RETENTION_TIME_IN_DAYS", "MAX_DATA_EXTENSION_TIME_IN_DAYS"].contains k then
    expectSymbol "="
    someUnsigned
  else if ["EXTERNAL_VOLUME", "CATALOG", "DEFAULT_DDL_COLLATION", "COMMENT", "CATALOG_SYNC",
      "CATALOG_SYNC_NAMESPACE_FLATTEN_DELIMITER"].contains k then
    expectSymbol "="
    someString
  else match k with
    | "CLONE" => someName g
    | "REPLACE_INVALID_CHARACTERS" =>
      expectSymbol "="
      unless ← hasWord ["TRUE", "FALSE"] do needed "TRUE or FALSE"
    | "STORAGE_SERIALIZATION_POLICY" =>
      expectSymbol "="
      unless ← hasWord ["COMPATIBLE", "OPTIMIZED"] do needed "storage_serialization_policy"
    | "CATALOG_SYNC_NAMESPACE_MODE" =>
      expectSymbol "="
      unless ← hasWord ["NEST", "FLATTEN"] do unexpected "NEST or FLATTEN" t
    | "WITH" =>
      if ← word "TAG" then tags g
      else if ← word "CONTACT" then
        let _ ← parens (items do
          someIdentifier
          expectSymbol "="
          someIdentifier)
      else unexpected "TAG or CONTACT" t
    | _ => unexpected "end of statement" t

/-- A database with settings in any order, behind its keyword. The semicolon that ends the settings
belongs to them. -/
def createLooseDatabase (g : Nested) : Parser Statement := do
  ifNotExists
  someName g
  whileTrue do
    let t ← nextLocated
    match t.token with
    | .eof | .symbol ";" => return false
    | .word _ _ k =>
      databaseSetting g t k
      return true
    | _ => unexpected "end of statement" t
  return .plain .create []

/-! ## Roles, users and policies -/

/-- The options of a role, by pairs of keywords of which one may be given once. -/
def roleFlags : List (List String) :=
  [["LOGIN", "NOLOGIN"], ["INHERIT", "NOINHERIT"], ["BYPASSRLS", "NOBYPASSRLS"],
   ["CREATEDB", "NOCREATEDB"], ["CREATEROLE", "NOCREATEROLE"], ["SUPERUSER", "NOSUPERUSER"],
   ["REPLICATION", "NOREPLICATION"]]

/-- The keywords of the options of a role in a dialect. -/
def roleKeywords (d : Dialect) : List String :=
  match d with
  | .mssql => ["AUTHORIZATION"]
  | .postgres => roleFlags.flatten ++ ["PASSWORD", "CONNECTION", "VALID", "IN", "ROLE", "ADMIN", "USER"]
  | _ => []

/-- The password of a role behind its keyword. -/
def rolePassword : Parser Unit := do
  unless ← word "NULL" do
    let _ ← value

/-- The name of an option of a role, whose first keyword has been read, and what stands behind it. -/
def namedRoleOption (g : Nested) (k : String) : Parser (String × Parser Unit) := do
  let names : Parser Unit := do
    let _ ← identifiers
  match roleFlags.find? (·.contains k) with
  | some pair => return (" or ".intercalate pair, pure ())
  | none =>
    match k with
    | "AUTHORIZATION" => return (k, someName g)
    | "PASSWORD" => return (k, rolePassword)
    | "CONNECTION" =>
      expectWord "LIMIT"
      return ("CONNECTION LIMIT", numberValue)
    | "VALID" =>
      expectWord "UNTIL"
      return ("VALID UNTIL", do let _ ← value)
    | "IN" =>
      match ← anyWord ["ROLE", "GROUP"] with
      | some kind => return ("IN " ++ kind, names)
      | none => needed "ROLE or GROUP after IN"
    | _ => return (k, names)

/-- Roles behind their keyword. -/
def createRole (g : Nested) : Parser Statement := do
  ifNotExists
  let _ ← items (objectName g)
  let _ ← word "WITH"
  let keywords := roleKeywords (← dialect)
  loop [] fun (seen : List String) => do
    let place := (← peekLocated).place
    match ← anyWord keywords with
    | none => return .done ()
    | some k =>
      let (option, rest) ← namedRoleOption g k
      if seen.contains option then fail (.refused ("Found multiple " ++ option) place)
      rest
      return .again (option :: seen)
  return .plain .create []

/-- A user behind its keyword. -/
def createUser : Parser Statement := do
  ifNotExists
  someIdentifier
  keyValues ["WITH", "TAG"]
  let _ ← word "WITH"
  if ← word "TAG" then keyValuesInParens
  return .plain (.other "CREATE") []

/-- The owner of an object. -/
def owner : Parser Unit := do
  unless ← hasWord ["CURRENT_USER", "CURRENT_ROLE", "SESSION_USER"] do
    match ← outcome identifier with
    | .ok _ => pure ()
    | .error e =>
      refuse ("Expected: CURRENT_USER, CURRENT_ROLE, SESSION_USER or identifier after OWNER TO. " ++
        e.message)

/-- The roles and conditions of a policy. -/
def policyClauses (g : Nested) : Parser (List Part) := do
  if ← word "TO" then
    let _ ← items owner
  let condition ← partsAfter "USING" (parens g.exprParts)
  let check ← partsAfterAll ["WITH", "CHECK"] (parens g.exprParts)
  return condition ++ check

/-- A policy behind its keyword. -/
def createPolicy (g : Nested) : Parser Statement := do
  someIdentifier
  expectWord "ON"
  let table ← objectName g
  if ← word "AS" then
    let _ ← expectAnyWord ["PERMISSIVE", "RESTRICTIVE"]
  if ← word "FOR" then
    let _ ← expectAnyWord ["ALL", "SELECT", "INSERT", "UPDATE", "DELETE"]
  let clauses ← policyClauses g
  return .plain .create (.relation table :: clauses)

/-! ## Types and sequences -/

/-- A type behind its keyword. -/
def createType (g : Nested) : Parser Statement := do
  someName g
  expectWord "AS"
  if ← word "ENUM" then
    expectSymbol "("
    let _ ← itemsOrNone ")" identifier
    expectSymbol ")"
    return .plain .create []
  if !(← symbol "(") then return .plain .create []
  if ← symbol ")" then return .plain .create []
  let attributes ← loop [] fun (soFar : List Part) => do
    someIdentifier
    let type ← typeParts g
    if ← word "COLLATE" then someName g
    let comma ← symbol ","
    if ← symbol ")" then return .done (soFar ++ type)
    else if comma then return .again (soFar ++ type)
    else needed "',' or ')' after attribute definition"
  return .plain .create attributes

/-- A domain behind its keyword. -/
def createDomain (g : Nested) : Parser Statement := do
  someName g
  expectWord "AS"
  let type ← typeParts g
  if ← word "COLLATE" then someIdentifier
  let default ← partsAfter "DEFAULT" g.exprParts
  let constraints ← many (tableConstraint g)
  return .plain (.other "CREATE") (type ++ default ++ constraints.flatten)

/-- A sequence behind its keyword. -/
def createSequence (g : Nested) : Parser Statement := do
  ifNotExists
  someName g
  let type ← partsAfter "AS" (typeParts g)
  sequenceOptions
  if ← words ["OWNED", "BY"] then
    unless ← word "NONE" do someName g
  return .plain .create type

/-! ## Extensions, secrets, connectors, servers and stages -/

/-- An extension behind its keyword. -/
def createExtension : Parser Statement := do
  ifNotExists
  someIdentifier
  if ← word "WITH" then
    if ← word "SCHEMA" then someIdentifier
    if ← word "VERSION" then someIdentifier
    let _ ← word "CASCADE"
  return .plain (.other "CREATE") []

/-- Fails where something would be temporary and persistent at once. -/
def oneLifetime (temporary persistent : Bool) : Parser Unit := do
  if temporary && persistent then needed "TEMPORARY or PERSISTENT"

/-- A secret behind its keyword. Where its name or its place is no name, what stands there is passed
over. -/
def createSecret (temporary persistent : Bool) : Parser Statement := do
  ifNotExists
  unless ← peekSymbol "(" do
    let located ← do
      if ← word "IN" then
        match ← next with
        | .word _ _ _ | .string .single _ | .string .double _ => pure true
        | _ => pure false
      else
        skip
        pure false
    if ← provided (!located && !(← peekSymbol "(")) (word "IN") then skip
  expectSymbol "("
  expectWord "TYPE"
  someIdentifier
  if ← symbol "," then
    let _ ← items do
      someIdentifier
      someIdentifier
  expectSymbol ")"
  oneLifetime temporary persistent
  return .plain (.other "CREATE") []

/-- A connector behind its keyword. -/
def createConnector (g : Nested) : Parser Statement := do
  ifNotExists
  someIdentifier
  if ← word "TYPE" then someString
  if ← word "URL" then someString
  inlineComment
  let properties ← propertiesAfter g ["WITH", "DCPROPERTIES"]
  return .plain (.other "CREATE") (properties.getD [])

/-- A server behind its keyword. -/
def createServer (g : Nested) : Parser Statement := do
  ifNotExists
  someName g
  if ← word "TYPE" then someIdentifier
  if ← word "VERSION" then someIdentifier
  expectWords ["FOREIGN", "DATA", "WRAPPER"]
  someName g
  if ← word "OPTIONS" then
    expectSymbol "("
    let _ ← items do
      someIdentifier
      someIdentifier
    expectSymbol ")"
  return .plain (.other "CREATE") []

/-- Where the files of a stage are and how to reach them. -/
def stageParams : Parser Unit := do
  if ← word "URL" then
    expectSymbol "="
    match ← next with
    | .string .single _ => pure ()
    | _ => needed "a URL statement"
  if ← word "STORAGE_INTEGRATION" then
    expectSymbol "="
    skip
  if ← word "ENDPOINT" then
    expectSymbol "="
    match ← next with
    | .string .single _ => pure ()
    | _ => needed "an endpoint statement"
  if ← word "CREDENTIALS" then
    expectSymbol "="
    keyValuesInParens
  if ← word "ENCRYPTION" then
    expectSymbol "="
    keyValuesInParens

/-- A stage behind its keyword. -/
def createStage (g : Nested) : Parser Statement := do
  ifNotExists
  someName g
  stageParams
  let _ ← ["DIRECTORY", "FILE_FORMAT", "COPY_OPTIONS"].mapM fun k => do
    if ← word k then
      expectSymbol "="
      keyValuesInParens
  if ← word "COMMENT" then
    expectSymbol "="
    commentText
  return .plain (.other "CREATE") []

/-! ## The choice -/

/-- CREATE behind its keyword. -/
def create (g : Nested) : Parser Statement := do
  let replacing ← words ["OR", "REPLACE"]
  let _ ← words ["OR", "ALTER"]
  let _ ← word "LOCAL"
  let _ ← word "GLOBAL"
  let _ ← word "TRANSIENT"
  let temporary ← hasWord ["TEMP", "TEMPORARY"]
  let persistent ← provided ((← dialect) == .duckdb) (word "PERSISTENT")
  viewSecurity g
  if ← word "TABLE" then createTable g
  else if (← peekAnyWord ["MATERIALIZED", "VIEW"]) || (← peekWords ["SECURE", "MATERIALIZED", "VIEW"]) ||
      (← peekWords ["SECURE", "VIEW"]) then createView g
  else if ← word "POLICY" then createPolicy g
  else if ← word "EXTERNAL" then createExternalTable g
  else if ← word "FUNCTION" then createFunction g
  else if ← word "DOMAIN" then createDomain g
  else if ← word "TRIGGER" then createTrigger g
  else if ← words ["CONSTRAINT", "TRIGGER"] then createTrigger g
  else if ← word "MACRO" then createMacro g
  else if ← word "SECRET" then createSecret temporary persistent
  else if ← word "USER" then createUser
  else if replacing then
    needed "[EXTERNAL] TABLE or [MATERIALIZED] VIEW or FUNCTION after CREATE OR REPLACE"
  else if ← word "EXTENSION" then createExtension
  else if ← word "INDEX" then createIndex g
  else if ← words ["UNIQUE", "INDEX"] then createIndex g
  else if ← word "VIRTUAL" then createVirtualTable g
  else if ← word "SCHEMA" then createSchema g
  else if ← word "DATABASE" then createDatabase g
  else if ← word "ROLE" then createRole g
  else if ← word "SEQUENCE" then createSequence g
  else if ← word "TYPE" then createType g
  else if ← word "PROCEDURE" then createProcedure g
  else if ← word "CONNECTOR" then createConnector g
  else if ← word "SERVER" then createServer g
  else needed "an object type after CREATE"

/-- CREATE where stages, tables and databases have clauses in any order, behind its keyword. If it
creates something else there is no result, and CREATE, OR REPLACE and TEMPORARY count as not read;
as many tokens are given back, whatever other words stood between them. -/
def createLoose? (g : Nested) : Parser (Option Statement) := do
  let replacing ← words ["OR", "REPLACE"]
  let _ ← anyWord ["LOCAL", "GLOBAL"]
  let _ ← word "DYNAMIC"
  let lifetime ← anyWord ["TEMP", "TEMPORARY", "VOLATILE", "TRANSIENT", "ICEBERG"]
  if ← word "STAGE" then return some (← createStage g)
  else if ← word "TABLE" then return some (← createLooseTable g (lifetime == some "ICEBERG"))
  else if ← word "DATABASE" then return some (← createLooseDatabase g)
  else
    let temporary := lifetime == some "TEMP" || lifetime == some "TEMPORARY"
    let count := 1 + (if replacing then 2 else 0) + (if temporary then 1 else 0)
    (List.replicate count back).forM id
    return none

end QueryGuard.Sql.Grammar
