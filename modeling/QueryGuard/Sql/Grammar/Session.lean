import QueryGuard.Sql.Grammar.Access

/-!
Statements about the session: variables, listings, transactions, cursors, prepared statements and
notifications, each behind its keyword.
-/

namespace QueryGuard.Sql.Grammar

open Sql.Parser

/-! ## Transactions -/

/-- The modes of a transaction. A comma between two of them may be left out. -/
def transactionModes : Parser Unit :=
  loop false fun required => do
    if ← words ["ISOLATION", "LEVEL"] then
      unless ← anyWords [["READ", "UNCOMMITTED"], ["READ", "COMMITTED"], ["REPEATABLE", "READ"],
          ["SERIALIZABLE"], ["SNAPSHOT"]] do
        needed "isolation level"
      return .again (← symbol ",")
    else if ← anyWords [["READ", "ONLY"], ["READ", "WRITE"]] then return .again (← symbol ",")
    else if required then needed "transaction mode"
    else return .done ()

/-- TRANSACTION or one of the words for it, if it comes next. -/
def transactionWord : Parser Unit := do
  let _ ← anyWord ["TRANSACTION", "WORK"]

/-- Whether another transaction follows. -/
def chaining : Parser Unit := do
  transactionWord
  if ← word "AND" then
    let _ ← word "NO"
    expectWord "CHAIN"

/-- BEGIN of a transaction, behind its keyword. -/
def beginTransaction : Parser Statement := do
  if (← dialect).beginModifiers then
    let _ ← anyWord ["DEFERRED", "IMMEDIATE", "EXCLUSIVE", "TRY", "CATCH"]
  transactionWord
  transactionModes
  return .plain .transaction []

/-- END of a transaction, behind its keyword. -/
def endTransaction : Parser Statement := do
  if (← dialect).endModifiers then
    let _ ← anyWord ["TRY", "CATCH"]
  chaining
  return .plain .transaction []

/-- ROLLBACK behind its keyword. -/
def rollback : Parser Statement := do
  chaining
  if ← word "TO" then
    let _ ← word "SAVEPOINT"
    someIdentifier
  return .plain .transaction []

/-! ## Variables -/

/-- The values of a variable. -/
def variableValues (g : Nested) (inParens : Bool) : Parser (List Part) := do
  if inParens then expectSymbol "("
  let values ← loop [] fun (soFar : List Part) => do
    let v ← if ← peekAnyWord ["SELECT", "WITH"] then g.queryParts
      else match ← attemptTaking g.exprParts with
        | some parts => pure parts
        | none => needed "variable value"
    if ← symbol "," then return .again (soFar ++ v) else return .done (soFar ++ v)
  if inParens then expectSymbol ")"
  return values

/-- The scope of a variable, if one is given. -/
def variableScope : Parser Bool :=
  hasWord ["SESSION", "LOCAL", "GLOBAL"]

/-- An assignment among several. -/
def variableAssignment (g : Nested) : Parser (List Part) := do
  let _ ← variableScope
  if ← provided (← dialect).parenthesisedSet (symbol "(") then needed "Unparenthesized assignment"
  someName g
  unless ← firstOf [symbol "=", word "TO"] do needed "assignment operator"
  g.exprParts

/-- ON or OFF. -/
def onOrOff : Parser Unit := do
  unless ← hasWord ["ON", "OFF"] do needed "ON or OFF"

/-- Settings of a session without an equals sign. -/
def sessionSetting (g : Nested) : Parser (List Part) := do
  let names (what : String) : Parser Unit := do
    let _ ← items do
      let t ← nextLocated
      match t.token with
      | .word _ _ _ => pure ()
      | _ => unexpected what t
  if ← word "STATISTICS" then
    unless ← hasWord ["IO", "PROFILE", "TIME", "XML"] do needed "IO, PROFILE, TIME or XML"
    onOrOff
    return []
  else if ← word "IDENTITY_INSERT" then
    someName g
    onOrOff
    return []
  else if ← word "OFFSETS" then
    names "SQL keyword"
    onOrOff
    return []
  else
    names "Session param name"
    let _ ← g.exprParts
    return []

/-- The role to act as. -/
def setRole : Parser Unit := do
  expectWord "ROLE"
  unless ← word "NONE" do someIdentifier

/-- An assignment to a variable or to several, behind the scope. -/
def setVariables (g : Nested) (hasScope : Bool) : Parser (List Part) := do
  let d ← dialect
  if d.setAssignments && hasScope then back
  let several ← if d.setAssignments then attempt (itemParts (variableAssignment g)) else pure none
  match several with
  | some parts => return parts
  | none =>
    let inParens ← provided d.parenthesisedSet (symbol "(")
    if inParens then
      let _ ← identifiers
      expectSymbol ")"
    else someName g
    if ← firstOf [symbol "=", word "TO"] then variableValues g inParens
    else if d.setWithoutOperator then
      back
      sessionSetting g
    else needed "equals sign or TO"

/-- SET behind its keyword. -/
def setStatement (g : Nested) : Parser Statement := do
  let d ← dialect
  let hive ← word "HIVEVAR"
  let hasScope ← if hive then pure false else variableScope
  if hive then expectSymbol ":"
  let parts ← do
    if (← attempt setRole).isSome then pure []
    else if ← anyWords [["TIME", "ZONE"], ["TIMEZONE"]] then
      if ← firstOf [symbol "=", word "TO"] then variableValues g false else g.exprParts
    else if ← provided d.setNames (word "NAMES") then do
      unless ← word "DEFAULT" do
        someIdentifier
        if ← word "COLLATE" then someString
      pure []
    else if ← word "CHARACTERISTICS" then do
      expectWords ["AS", "TRANSACTION"]
      transactionModes
      pure []
    else if ← word "TRANSACTION" then do
      if ← word "SNAPSHOT" then
        let _ ← value
      else transactionModes
      pure []
    else setVariables g hasScope
  return .plain .set parts

/-! ## Listings -/

/-- A filter of a listing, if there is one. -/
def showFilter (g : Nested) : Parser (List Part) := do
  if ← hasWord ["LIKE", "ILIKE"] then
    someString
    return []
  else if ← word "WHERE" then g.exprParts
  else
    let _ ← attempt literalString
    return []

/-- The object that a listing is about, if one is given. -/
def showScope (g : Nested) : Parser (List Part) := do
  if ← hasWord ["FROM", "IN"] then
    match ← anyWord ["ACCOUNT", "DATABASE", "SCHEMA", "TABLE", "VIEW"] with
    | some k =>
      if (k == "DATABASE" || k == "SCHEMA") &&
          ((← peekWords ["STARTS", "WITH"]) || (← peekWord "LIMIT")) then return []
      else
        match ← attempt (objectName g) with
        | some name => return [.relation name]
        | none => return []
    | none =>
      let name ← objectName g
      if ← hasWord ["FROM", "IN"] then
        let schema ← identifier
        return [.relation (schema.text :: name)]
      else return [.relation name]
  else return []

/-- The options of a listing. -/
def showOptions (g : Nested) : Parser (List Part) := do
  let early := (← dialect).showLikeBeforeIn
  let before ← if early then showFilter g else pure []
  let scope ← showScope g
  let after ← if early then pure [] else showFilter g
  if ← words ["STARTS", "WITH"] then
    let _ ← value
  let limit ← if ← word "LIMIT" then
      if ← word "ALL" then pure [] else g.exprParts
    else pure []
  if ← word "FROM" then
    let _ ← value
  return scope ++ limit ++ before ++ after

/-- SHOW behind its keyword. -/
def showStatement (g : Nested) : Parser Statement := do
  let server := (← dialect).isOneOf [.mysql, .generic]
  let _ ← word "TERSE"
  let extended ← word "EXTENDED"
  let full ← word "FULL"
  let _ ← word "SESSION"
  let _ ← word "GLOBAL"
  let external ← word "EXTERNAL"
  let listing (p : Parser (List Part)) : Parser Statement := do return .plain .showOther (← p)
  let nothing (p : Parser Unit) : Parser Statement := do
    p
    return .plain .showOther []
  if ← hasWord ["COLUMNS", "FIELDS"] then return .plain .showColumns (← showOptions g)
  else if ← word "TABLES" then
    unless external do
      let _ ← word "HISTORY"
    listing (showOptions g)
  else if ← anyWords [["MATERIALIZED", "VIEWS"], ["VIEWS"]] then listing (showOptions g)
  else if ← word "FUNCTIONS" then listing (showFilter g)
  else if extended || full then
    refuse "EXTENDED/FULL are not supported with this type of SHOW query"
  else if ← word "CREATE" then nothing do
    let _ ← expectAnyWord ["TABLE", "TRIGGER", "FUNCTION", "PROCEDURE", "EVENT", "VIEW"]
    someName g
  else if ← word "COLLATION" then listing (showFilter g)
  else if ← firstOf [restrictedTo server (word "VARIABLES"), restrictedTo server (word "STATUS")] then
    listing (showFilter g)
  else if ← anyWords [["CHARSET"], ["CHARACTER", "SET"]] then listing (showFilter g)
  else if ← hasWord ["DATABASES", "SCHEMAS"] then
    let _ ← word "HISTORY"
    listing (showOptions g)
  else nothing restOfNames

/-- A listing of objects, behind its keyword. -/
def showObjects (g : Nested) : Parser Statement := do
  return .plain .showOther (← showOptions g)

/-- USE behind its keyword. -/
def useStatement (g : Nested) : Parser Statement := do
  let d ← dialect
  let done : Statement := .plain (.other "USE") []
  if ← provided (d == .hive) (word "DEFAULT") then return done
  let kinds := match d with
    | .databricks => ["CATALOG", "DATABASE", "SCHEMA"]
    | .snowflake => ["DATABASE", "SCHEMA", "WAREHOUSE", "ROLE", "SECONDARY"]
    | _ => []
  if (← anyWord kinds) == some "SECONDARY" then
    let _ ← expectAnyWord ["ROLES", "ROLE"]
    unless ← hasWord ["ALL", "NONE"] do
      let _ ← identifiers
  else someName g
  return done

/-! ## Cursors -/

/-- A cursor behind DECLARE. -/
def declareCursor (g : Nested) : Parser (List Part) := do
  someIdentifier
  let _ ← word "BINARY"
  let _ ← anyWord ["INSENSITIVE", "ASENSITIVE"]
  let _ ← anyWords [["SCROLL"], ["NO", "SCROLL"]]
  expectWord "CURSOR"
  if ← hasWord ["WITH", "WITHOUT"] then expectWord "HOLD"
  expectWord "FOR"
  g.queryParts

/-- Variables of one type behind DECLARE. -/
def declareTyped (g : Nested) : Parser (List Part) := do
  let _ ← identifiers
  if ← word "DEFAULT" then g.exprParts
  else
    let type ← typeParts g
    let default ← partsAfter "DEFAULT" g.exprParts
    return type ++ default

/-- A value behind DEFAULT or an assignment sign, if there is one. -/
def declaredValue (g : Nested) : Parser (Option (List Part)) := do
  if ← firstOf [word "DEFAULT", symbol ":="] then return some (← g.exprParts) else return none

/-- Several declarations behind DECLARE, closed by semicolons. Behind a semicolon only a word that
spells no keyword opens another declaration. -/
def declareSeveral (g : Nested) : Parser (List Part) :=
  loop [] fun (soFar : List Part) => do
    someIdentifier
    let parts ← do
      if ← word "CURSOR" then do
        expectWord "FOR"
        if ← peekWord "SELECT" then g.queryParts else g.exprParts
      else if ← word "RESULTSET" then do pure ((← declaredValue g).getD [])
      else if ← word "EXCEPTION" then
        if ← peekSymbol "(" then g.exprParts else pure []
      else match ← declaredValue g with
        | some parts => pure parts
        | none =>
          match ← peek with
          | .word _ _ _ => do
            let type ← typeParts g
            pure (type ++ (← declaredValue g).getD [])
          | _ => pure []
    let start ← position
    if ← symbol ";" then
      let continues := match ← peek with
        | .word text _ _ => !keywords.contains (Token.keywordForm text.toList)
        | _ => false
      if continues then return .again (soFar ++ parts)
      moveTo start
    return .done (soFar ++ parts)

/-- A variable or cursor behind DECLARE, where variables begin with an at sign. -/
def declareMarked (g : Nested) : Parser (List Part) := do
  let name ← identifier
  unless name.text.startsWith "@" || (← peekWord "CURSOR") do
    refuse "Invalid MsSql variable declaration."
  let type ← if ← word "CURSOR" then pure []
    else do
      let _ ← word "AS"
      typeParts g
  let value ← do
    if ← word "FOR" then g.queryParts
    else if ← symbol "=" then g.exprParts
    else pure []
  return type ++ value

/-- DECLARE behind its keyword. -/
def declareStatement (g : Nested) : Parser Statement := do
  let parts ← match ← dialect with
    | .bigquery => declareTyped g
    | .snowflake => declareSeveral g
    | .mssql => itemParts (declareMarked g)
    | _ => declareCursor g
  return .plain (.other "DECLARE") parts

/-- FETCH as a statement, behind its keyword. -/
def fetchStatement (g : Nested) : Parser Statement := do
  match ← anyWord ["NEXT", "PRIOR", "FIRST", "LAST", "ABSOLUTE", "RELATIVE", "FORWARD", "BACKWARD",
      "ALL"] with
  | some "ABSOLUTE" | some "RELATIVE" => numberValue
  | some "FORWARD" | some "BACKWARD" => unless ← word "ALL" do numberValue
  | some _ => pure ()
  | none => numberValue
  unless ← hasWord ["FROM", "IN"] do refuseHere "Expected FROM or IN"
  someIdentifier
  if ← word "INTO" then someName g
  return .plain (.other "FETCH") []

/-! ## Prepared statements and calls -/

/-- PREPARE behind its keyword. -/
def prepareStatement (g : Nested) : Parser Statement := do
  someIdentifier
  let types ← if ← symbol "(" then do
      let types ← itemParts (typeParts g)
      expectSymbol ")"
      pure types
    else pure []
  expectWord "AS"
  let prepared ← g.statementParts
  return .plain (.other "PREPARE") (types ++ prepared)

/-- EXECUTE behind its keyword. -/
def executeStatement (g : Nested) : Parser Statement := do
  let d ← dialect
  unless ← provided d.executeImmediate (word "IMMEDIATE") do someName g
  let inParens ← symbol "("
  let last ← peek
  let ended := last == .eof || ["USING", "OUTPUT", "DEFAULT"].contains last.keyword
  let params ← do
    if inParens then itemsOrNone ")" g.exprParts
    else if ended then pure []
    else itemsOrNone ";" g.exprParts
  if inParens then expectSymbol ")"
  if ← word "INTO" then
    let _ ← identifiers
  let used ← partsAfter "USING" (itemParts (aliasedExpr g))
  let _ ← word "OUTPUT"
  let _ ← word "DEFAULT"
  return .plain (.other "EXECUTE") (params.flatten ++ used)

/-- CALL behind its keyword. -/
def callStatement (g : Nested) : Parser Statement := do
  let name ← objectName g
  let parts ← if ← peekSymbol "(" then do
      pure (← call g (operand g) (name.map fun n => { text := n })).parts
    else pure []
  return .plain (.other "CALL") parts

/-- RAISERROR behind its keyword. -/
def raiseError (g : Nested) : Parser Statement := do
  expectSymbol "("
  let message ← g.exprParts
  expectSymbol ","
  let severity ← g.exprParts
  expectSymbol ","
  let state ← g.exprParts
  let args ← if ← symbol "," then itemParts g.exprParts else pure []
  expectSymbol ")"
  if ← word "WITH" then
    let _ ← items (expectAnyWord ["LOG", "NOWAIT", "SETERROR"])
  return .plain (.other "RAISERROR") (message ++ severity ++ state ++ args)

/-! ## Notifications and settings of the engine -/

/-- NOTIFY behind its keyword. -/
def notifyStatement : Parser Statement := do
  someIdentifier
  if ← symbol "," then someString
  return .plain (.other "NOTIFY") []

/-- UNLISTEN behind its keyword. -/
def unlistenStatement : Parser Statement := do
  unless ← symbol "*" do
    match ← attempt identifier with
    | some _ => pure ()
    | none => needed "wildcard or identifier"
  return .plain (.other "UNLISTEN") []

/-- The value of a pragma. -/
def pragmaValue : Parser Unit := do
  let first ← peek
  let _ ← value
  match first with
  | .string .single _ | .string .double _ | .number _ _ | .placeholder _ | .symbol _ => pure ()
  | .word _ (some _) _ => pure ()
  | _ =>
    back
    needed "number or string or ? placeholder"

/-- PRAGMA behind its keyword. -/
def pragmaStatement (g : Nested) : Parser Statement := do
  someName g
  if ← symbol "(" then
    pragmaValue
    expectSymbol ")"
  else if ← symbol "=" then pragmaValue
  return .plain (.other "PRAGMA") []

/-- KILL behind its keyword. -/
def killStatement : Parser Statement := do
  let modifier ← anyWord ["CONNECTION", "QUERY", "MUTATION"]
  someUnsigned
  if modifier == some "MUTATION" then
    unless ← dialectIn [.clickhouse, .generic] do
      needed "Unsupported type for KILL, allowed: CONNECTION | QUERY"
  return .plain (.other "KILL") []

/-- The tables behind FLUSH TABLES and how they are locked. A list of tables begins with a word that
is no keyword, other keywords are passed over, and the first token that is no word ends it all and
is taken too. -/
def flushedTables (g : Nested) : Parser Unit :=
  whileTrue do
    let start ← position
    match ← next with
    | .word _ _ "WITH" =>
      let _ ← words ["READ", "LOCK"]
      return true
    | .word _ _ "FOR" =>
      let _ ← word "EXPORT"
      return true
    | .word text quote k =>
      unless (Token.word text quote k).isKeyword do
        moveTo start
        let _ ← items (objectName g)
      return true
    | _ => return false

/-- FLUSH behind its keyword. -/
def flushStatement (g : Nested) : Parser Statement := do
  unless ← dialectIn [.mysql, .generic] do refuseHere "Unsupported statement FLUSH"
  let _ ← anyWord ["NO_WRITE_TO_BINLOG", "LOCAL"]
  if ← anyWords [["BINARY", "LOGS"], ["ENGINE", "LOGS"], ["ERROR", "LOGS"], ["GENERAL", "LOGS"],
      ["HOSTS"], ["PRIVILEGES"], ["OPTIMIZER_COSTS"]] then pure ()
  else if ← words ["RELAY", "LOGS"] then
    if ← words ["FOR", "CHANNEL"] then someName g
  else if ← anyWords [["SLOW", "LOGS"], ["STATUS"], ["USER_RESOURCES"], ["LOGS"]] then pure ()
  else if ← word "TABLES" then flushedTables g
  else needed ("BINARY LOGS, ENGINE LOGS, ERROR LOGS, GENERAL LOGS, HOSTS, LOGS, PRIVILEGES, " ++
    "OPTIMIZER_COSTS,RELAY LOGS [FOR CHANNEL channel], SLOW LOGS, STATUS, USER_RESOURCES")
  return .plain (.other "FLUSH") []

/-- LOCK TABLES behind its keywords. -/
def lockTables : Parser Statement := do
  let _ ← items do
    someIdentifier
    let _ ← aliasOutside ["READ", "WRITE", "LOW_PRIORITY"]
    if ← word "READ" then
      let _ ← word "LOCAL"
    else if ← anyWords [["WRITE"], ["LOW_PRIORITY", "WRITE"]] then pure ()
    else needed "an lock type in LOCK TABLES"
  return .plain (.other "LOCK") []

end QueryGuard.Sql.Grammar
