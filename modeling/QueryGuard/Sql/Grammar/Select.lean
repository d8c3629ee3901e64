import QueryGuard.Sql.Grammar.From

/-!
Selections: the selected items and the clauses that follow them.

A reader meets the clauses in the order DISTINCT ON, TOP, selected items, FROM, WHERE and so on,
whatever the order in which they are written.
-/

namespace QueryGuard.Sql.Grammar

open Sql.Parser

/-- A list of expressions in parentheses, which may be empty. -/
def tuple (g : Nested) : Parser (List Part) := do
  expectSymbol "("
  if ← symbol ")" then return []
  else
    let es ← itemParts g.exprParts
    expectSymbol ")"
    return es

/-- A list of expressions in parentheses, or a single expression without them. -/
def tupleOrExpr (g : Nested) : Parser (List Part) := do
  if ← peekSymbol "(" then tuple g else g.exprParts

/-! ## Selected items -/

/-- A name that may be renamed behind AS. -/
def renamedName : Parser Unit := do
  let _ ← identifier
  expectWord "AS"
  let _ ← identifier

/-- EXCLUDE and the columns it names, if it comes next. -/
def excludeColumns : Parser Unit := do
  if ← word "EXCLUDE" then
    if ← symbol "(" then
      let _ ← identifiers
      expectSymbol ")"
    else
      let _ ← identifier

/-- What may follow a star among the selected items. -/
def wildcardOptions (g : Nested) : Parser (List Part) := do
  let d ← dialect
  let ilike ← provided d.wildcardIlike (word "ILIKE")
  if ilike then
    let t ← nextLocated
    match t.token with
    | .string .single _ => pure ()
    | _ => unexpected "ilike pattern" t
  if !ilike && d.wildcardExclude then excludeColumns
  if ← provided d.wildcardExcept (word "EXCEPT") then
    if ← peekSymbol "(" then
      let _ ← columnList true false
    else
      let _ ← identifier
  let replaced ← if ← provided d.wildcardReplace (word "REPLACE") then
      if ← symbol "(" then do
        let parts ← itemParts do
          let e ← g.exprParts
          let _ ← word "AS"
          let _ ← identifier
          return e
        expectSymbol ")"
        pure parts
      else do
        let t ← nextLocated
        unexpected "( after REPLACE but" t
    else pure []
  if ← provided d.wildcardRename (word "RENAME") then
    if ← symbol "(" then
      let _ ← items renamedName
      expectSymbol ")"
    else renamedName
  return replaced

/-- A selected item. -/
def selectItem (g : Nested) : Parser (List Part) := do
  let d ← dialect
  if d == .snowflake then
    let _ ← word "CONNECT_BY_ROOT"
  let e ← wildcardExpr g
  let plain : Parser (List Part) := do
    if ← provided d.expressionStar (symbols [".", "*"]) then
      let options ← wildcardOptions g
      return e.parts ++ options
    else
      let _ ← columnAlias
      return e.parts
  match e.shape with
  | .wildcard | .qualifiedWildcard => wildcardOptions g
  | .identifier name =>
    if name.quote.isNone && name.text.toLower == "from" then
      refuseHere ("Expected an expression, found: " ++ name.text)
    else plain
  | .equation _ => if d.equationAlias then return e.parts else plain
  | _ => plain

/-- The selected items. -/
def projection (g : Nested) : Parser (List Part) := do
  let trailing := (← dialect).projectionTrailingCommas
  return (← itemsTrailing trailing (selectItem g)).flatten

/-- RETURNING and the items behind it, if it comes next. -/
def returning (g : Nested) : Parser (List Part) :=
  partsAfter "RETURNING" (itemParts (selectItem g))

/-! ## Before the selected items -/

/-- Whether rows are values or structures instead of rows. -/
def rowMode : Parser Unit := do
  if (← dialect) == .bigquery then
    unless ← anyWords [["DISTINCT", "AS", "VALUE"], ["DISTINCT", "AS", "STRUCT"], ["AS", "VALUE"],
        ["ALL", "AS", "VALUE"], ["AS", "STRUCT"], ["ALL", "AS", "STRUCT"]] do
      if ← word "AS" then needed "VALUE or STRUCT"

/-- DISTINCT with the expressions behind ON. -/
def distinctOn (g : Nested) : Parser (List Part) := do
  if ← allOrDistinct then
    if ← word "ON" then tuple g else return []
  else return []

/-- The number of rows behind TOP. -/
def topQuantity (g : Nested) : Parser (List Part) := do
  let quantity ← if ← symbol "(" then do
      let e ← g.exprParts
      expectSymbol ")"
      pure e
    else do
      someUnsigned
      pure []
  let _ ← word "PERCENT"
  let _ ← words ["WITH", "TIES"]
  return quantity

/-- The table that a selection creates, behind INTO. -/
def intoTarget (g : Nested) : Parser ObjectName := do
  let _ ← anyWord ["TEMP", "TEMPORARY"]
  let _ ← word "UNLOGGED"
  let _ ← word "TABLE"
  objectName g

/-! ## Behind the tables -/

/-- Any number of lateral views. -/
def lateralViews (g : Nested) : Parser (List Part) := do
  let views ← many do
    if ← words ["LATERAL", "VIEW"] then
      let _ ← word "OUTER"
      let e ← g.exprParts
      let _ ← objectName g
      let _ ← items (aliasOutside ["WHERE", "GROUP", "CLUSTER", "HAVING", "LATERAL"])
      return some e
    else return none
  return views.flatten

/-- One item of GROUP BY. -/
def groupItem (g : Nested) : Parser (List Part) := do
  if (← dialect).groupingExpressions then
    if ← words ["GROUPING", "SETS"] then parens (itemParts (tuple g))
    else if ← hasWord ["CUBE", "ROLLUP"] then parens (itemParts (tupleOrExpr g))
    else if ← symbols ["(", ")"] then return []
    else g.exprParts
  else g.exprParts

/-- GROUP BY, if it comes next. -/
def groupBy (g : Nested) : Parser (List Part) := do
  if ← words ["GROUP", "BY"] then
    let es ← if ← word "ALL" then pure [] else itemParts (groupItem g)
    if (← dialect).groupingModifiers then
      whileTrue do
        if ← word "WITH" then
          let _ ← expectAnyWord ["ROLLUP", "CUBE", "TOTALS"]
          return true
        else return false
    let sets ← partsAfterAll ["GROUPING", "SETS"] (parens (itemParts (tupleOrExpr g)))
    return es ++ sets
  else return []

/-- A named window. -/
def namedWindow (g : Nested) : Parser (List Part) := do
  let _ ← identifier
  expectWord "AS"
  if ← symbol "(" then windowSpec g (operand g)
  else if (← dialect).namedWindowReference then
    let _ ← identifier
    return []
  else needed "("

/-- Named windows and QUALIFY, in either order of writing. -/
def windowsAndQualify (g : Nested) : Parser (List Part) := do
  let windows := itemParts (namedWindow g)
  if ← word "WINDOW" then
    let ws ← windows
    let q ← partsAfter "QUALIFY" g.exprParts
    return ws ++ q
  else if ← word "QUALIFY" then
    let q ← g.exprParts
    let ws ← partsAfter "WINDOW" windows
    return ws ++ q
  else return []

/-- A hierarchy: its start, and how rows are connected. -/
def hierarchy (g : Nested) : Parser (List Part) := do
  let relationships := within .hierarchy (itemParts g.exprParts)
  if ← words ["CONNECT", "BY"] then
    let rs ← relationships
    expectWords ["START", "WITH"]
    let start ← g.exprParts
    return start ++ rs
  else
    expectWords ["START", "WITH"]
    let start ← g.exprParts
    expectWords ["CONNECT", "BY"]
    let rs ← relationships
    return start ++ rs

/-! ## The whole -/

/-- A selection, which may begin with FROM. -/
def select (g : Nested) : Parser Body := do
  let d ← dialect
  let early ← if ← provided d.fromFirst (word "FROM") then some <$> fromItems g else pure none
  if early.isSome && !(← peekWord "SELECT") then return .select none (early.getD [])
  expectWord "SELECT"
  rowMode
  let top : Parser (List Part) := partsAfter "TOP" (topQuantity g)
  let topBefore ← if d.topBeforeDistinct then top else pure []
  let distinct ← distinctOn g
  let topAfter ← if d.topBeforeDistinct then pure [] else top
  let selected ← if d.emptyProjection && (← peekWord "FROM") then pure [] else projection g
  if d.selectExclude then excludeColumns
  let into ← optional (word "INTO") (intoTarget g)
  let tables ← match early with
    | some tables => pure tables
    | none => partsAfter "FROM" (fromItems g)
  let views ← lateralViews g
  let prewhere ← if ← provided (d.isOneOf [.clickhouse, .generic]) (word "PREWHERE") then g.exprParts
    else pure []
  let condition ← partsAfter "WHERE" g.exprParts
  let groups ← groupBy g
  let clusters ← partsAfterAll ["CLUSTER", "BY"] (itemParts g.exprParts)
  let distribution ← partsAfterAll ["DISTRIBUTE", "BY"] (itemParts g.exprParts)
  let sorting ← partsAfterAll ["SORT", "BY"] (itemParts (orderItem g))
  let having ← partsAfter "HAVING" g.exprParts
  let windows ← windowsAndQualify g
  let connected ← if d.connectBy && (← peekAnyWord ["START", "CONNECT"]) then hierarchy g
    else pure []
  return .select into (distinct ++ topBefore ++ topAfter ++ selected ++ tables ++ views ++ prewhere ++
    condition ++ groups ++ clusters ++ distribution ++ sorting ++ having ++ windows ++ connected)

end QueryGuard.Sql.Grammar
