import QueryGuard.Sql.Grammar.Select

/-!
Statements that change rows: INSERT, UPDATE, DELETE and MERGE, each behind its keyword.
-/

namespace QueryGuard.Sql.Grammar

open Sql.Parser

/-- What happens on a conflict, behind OR; REPLACE may stand alone. -/
def conflictClause : Parser Unit := do
  if (← peekWord "OR") &&
      ["REPLACE", "ROLLBACK", "ABORT", "FAIL", "IGNORE"].contains (← peekNth 1).keyword then
    skip
    skip
  else
    let _ ← word "REPLACE"

/-- An assignment to a column or to several. -/
def assignment (g : Nested) : Parser (List Part) := do
  if ← symbol "(" then
    let _ ← items (objectName g)
    expectSymbol ")"
  else
    let _ ← objectName g
  expectSymbol "="
  g.exprParts

/-- One or more assignments. -/
def assignments (g : Nested) : Parser (List Part) :=
  itemParts (assignment g)

/-! ## INSERT -/

/-- The file format behind STORED AS. -/
def fileFormat : Parser Unit := do
  let t ← nextLocated
  unless ["AVRO", "JSONFILE", "ORC", "PARQUET", "RCFILE", "SEQUENCEFILE",
      "TEXTFILE"].contains t.token.keyword do
    unexpected "fileformat" t

/-- What to insert and where in the table: column names, partition, and a query or assignments. -/
def insertSource (g : Nested) : Parser (List Part) := do
  let d ← dialect
  if ← words ["DEFAULT", "VALUES"] then return []
  let subquery := (← peek) == .symbol "(" && (← peekNth 1).keyword == "SELECT"
  let partition ← if subquery then pure []
    else do
      let _ ← columnList false (d == .mysql)
      let partition ← partsAfter "PARTITION" (parens (itemParts g.exprParts))
      if d == .hive then
        let _ ← columnList false false
      pure partition
  let source ← do
    if ← peekAnyWord ["FORMAT", "SETTINGS"] then pure []
    else if ← provided d.insertSet (word "SET") then assignments g
    else g.queryParts
  return source ++ partition

/-- What to do with rows that are there already, behind ON. -/
def onInsert (g : Nested) : Parser (List Part) := do
  if ← word "CONFLICT" then
    if ← words ["ON", "CONSTRAINT"] then
      let _ ← objectName g
    else if ← peekSymbol "(" then
      let _ ← columnList true false
    expectWord "DO"
    if ← word "NOTHING" then return []
    else
      expectWord "UPDATE"
      expectWord "SET"
      let changes ← assignments g
      let condition ← partsAfter "WHERE" g.exprParts
      return changes ++ condition
  else
    expectWords ["DUPLICATE", "KEY", "UPDATE"]
    assignments g

/-- The table to insert into, or a table function. -/
def insertTarget (g : Nested) : Parser (List Part) := do
  if ← provided (← dialect).insertFormat (word "FUNCTION") then
    let name ← objectName g
    return (← call g (operand g) (name.map fun n => { text := n })).parts
  else relation g

/-- INSERT behind its keyword. -/
def insert (g : Nested) : Parser Statement := do
  let d ← dialect
  conflictClause
  if d.isOneOf [.mysql, .generic] then
    let _ ← anyWord ["LOW_PRIORITY", "DELAYED", "HIGH_PRIORITY"]
    let _ ← word "IGNORE"
  let _ ← word "OVERWRITE"
  let _ ← word "INTO"
  let _ ← word "LOCAL"
  if ← word "DIRECTORY" then
    let _ ← literalString
    if ← words ["STORED", "AS"] then fileFormat
    return .plain (.other "INSERT") (← g.queryParts)
  let _ ← word "TABLE"
  let target ← insertTarget g
  if ← provided (d == .postgres) (word "AS") then
    let _ ← identifier
  let source ← insertSource g
  let (options, format) ← if d.insertFormat then do
      let options ← settings g
      let format ← partsAfter "FORMAT" do
        let _ ← identifier
        return ((← attempt (itemParts g.exprParts)).getD [])
      pure (options.getD [], format)
    else pure ([], [])
  if ← provided (d.isOneOf [.mysql, .generic]) (word "AS") then
    let _ ← objectName g
    let _ ← columnList false false
  let changes ← partsAfter "ON" (onInsert g)
  let returned ← returning g
  return .plain .insert (target ++ source ++ changes ++ returned ++ options ++ format)

/-- REPLACE behind its keyword. -/
def replace (g : Nested) : Parser Statement := do
  if (← dialect).isOneOf [.mysql, .generic] then insert g
  else refuseHere "Unsupported statement REPLACE"

/-! ## UPDATE and DELETE -/

/-- UPDATE behind its keyword. -/
def update (g : Nested) : Parser Statement := do
  conflictClause
  let table ← tableAndJoins g
  let before ← optional (word "FROM") (fromItems g)
  expectWord "SET"
  let changes ← assignments g
  let tables ← match before with
    | some tables => pure tables
    | none => partsAfter "FROM" (fromItems g)
  let condition ← partsAfter "WHERE" g.exprParts
  let returned ← returning g
  let limit ← partsAfter "LIMIT" g.exprParts
  return .plain .update (table ++ changes ++ tables ++ condition ++ returned ++ limit)

/-- DELETE behind its keyword. -/
def delete (g : Nested) : Parser Statement := do
  unless ← word "FROM" do
    unless (← dialect).isOneOf [.bigquery, .generic] do
      let _ ← items (objectName g)
      expectWord "FROM"
  let tables ← itemParts (tableAndJoins g)
  let used ← partsAfter "USING" (itemParts (tableAndJoins g))
  let condition ← partsAfter "WHERE" g.exprParts
  let returned ← returning g
  let order ← partsAfterAll ["ORDER", "BY"] (itemParts (orderItem g))
  let limit ← if ← word "LIMIT" then
      if ← word "ALL" then pure [] else g.exprParts
    else pure []
  return .plain .delete (tables ++ used ++ condition ++ returned ++ order ++ limit)

/-! ## MERGE -/

/-- Which rows a clause of MERGE is about. -/
inductive MergeCase where
  | matched | notMatched | notMatchedByTarget | notMatchedBySource
deriving DecidableEq, Repr

namespace MergeCase

/-- How the rows are written. -/
def text : MergeCase → String
  | .matched => "MATCHED"
  | .notMatched => "NOT MATCHED"
  | .notMatchedByTarget => "NOT MATCHED BY TARGET"
  | .notMatchedBySource => "NOT MATCHED BY SOURCE"

/-- Whether the rows are new, so that they can be inserted and nothing else. -/
def isNew : MergeCase → Bool
  | .notMatched | .notMatchedByTarget => true
  | .matched | .notMatchedBySource => false

end MergeCase

/-- The rows that a clause of MERGE is about. -/
def mergeCase : Parser MergeCase := do
  let negated ← word "NOT"
  expectWord "MATCHED"
  if !negated then return .matched
  else if ← words ["BY", "SOURCE"] then return .notMatchedBySource
  else if ← words ["BY", "TARGET"] then return .notMatchedByTarget
  else return .notMatched

/-- A clause of MERGE behind WHEN. -/
def mergeClause (g : Nested) : Parser (List Part) := do
  let d ← dialect
  let rows ← mergeCase
  let condition ← partsAfter "AND" g.exprParts
  expectWord "THEN"
  let notAllowed (action : String) : Parser (List Part) :=
    refuse (action ++ " is not allowed in a " ++ rows.text ++ " merge clause")
  let action ← match ← anyWord ["UPDATE", "INSERT", "DELETE"] with
    | some "UPDATE" =>
      if rows.isNew then notAllowed "UPDATE"
      else do
        expectWord "SET"
        assignments g
    | some "DELETE" => if rows.isNew then notAllowed "DELETE" else pure []
    | some _ =>
      if !rows.isNew then notAllowed "INSERT"
      else do
        let _ ← columnList false (d == .mysql)
        if ← provided (d.isOneOf [.bigquery, .generic]) (word "ROW") then pure []
        else
          expectWord "VALUES"
          valueRows g (d == .mysql)
    | none => refuse "expected UPDATE, DELETE or INSERT in merge clause"
  return condition ++ action

/-- MERGE behind its keyword. -/
def merge (g : Nested) : Parser Statement := do
  let _ ← word "INTO"
  let target ← factorParts g
  expectWord "USING"
  let source ← factorParts g
  expectWord "ON"
  let condition ← g.exprParts
  let clauses ← many (optional (word "WHEN") (mergeClause g))
  let output ← match ← anyWord ["OUTPUT", "RETURNING"] with
    | some k => do
      let selected ← projection g
      if ← provided (k == "OUTPUT") (word "INTO") then
        let _ ← intoTarget g
      pure selected
    | none => pure []
  return .plain .merge (target ++ source ++ condition ++ clauses.flatten ++ output)

end QueryGuard.Sql.Grammar
