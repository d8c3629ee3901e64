import QueryGuard.Sql.Grammar.Write

/-!
Queries: common table expressions, a body built with set operators, and the clauses behind it.

INTERSECT binds more tightly than the other set operators; operators that bind equally are taken
from the left.

The columns of a common table expression may have types, and a nested table in such a type may hold
queries. Names of common table expressions are given out to queries as they are entered, and what
relies on that order takes the bodies to be entered first. So whatever is met in these types is kept
behind the body of the query, with its other clauses.
-/

namespace QueryGuard.Sql.Grammar

open Sql.Parser

/-! ## Common table expressions -/

/-- A common table expression, and what a reader meets in the types of its columns. -/
def cte (g : Nested) : Parser (Cte × List Part) := do
  let name ← identifier
  let columns ← if ← word "AS" then pure []
    else do
      let columns ← aliasColumns g
      expectWord "AS"
      pure columns
  if (← dialect) == .postgres then
    unless ← word "MATERIALIZED" do
      let _ ← words ["NOT", "MATERIALIZED"]
  let q ← parens g.query
  if ← word "FROM" then
    let _ ← identifier
  return (.mk name.text q, columns.flatMap (·.parts))

/-! ## Bodies -/

/-- The table behind TABLE. Three tokens are taken whatever they are; the second of them tells
whether the name is qualified. -/
def tableBody : Parser Body := do
  let first ← nextLocated
  let second ← nextLocated
  let third ← nextLocated
  if second.token == .symbol "." then
    match first.token, third.token with
    | .word schema _ _, .word name _ _ => return .table (some name) (some schema)
    | .word _ _ _, _ => unexpected "Table name" third
    | _, _ => unexpected "Schema name" first
  else
    match first.token with
    | .word name _ _ => return .table (some name) none
    | _ => unexpected "Table name" first

/-- A body without set operators. -/
def plainBody (g : Nested) : Parser Body := do
  let d ← dialect
  if (← peekWord "SELECT") || (d.fromFirst && (← peekWord "FROM")) then select g
  else if ← symbol "(" then
    let q ← g.query
    expectSymbol ")"
    return .nested q
  else if ← word "VALUES" then return .values (← valueRows g (d == .mysql))
  else if ← word "TABLE" then tableBody
  else needed "SELECT, VALUES, or a subquery in the query body"

/-- The set operator that a keyword stands for, with how tightly it binds. -/
def setOperator? : String → Option (SetOperator × Nat)
  | "UNION" => some (.union, 10)
  | "EXCEPT" | "MINUS" => some (.except, 10)
  | "INTERSECT" => some (.intersect, 20)
  | _ => none

/-- ALL, DISTINCT and BY NAME behind a set operator. -/
def setQuantifier : Parser Unit := do
  unless ← words ["DISTINCT", "BY", "NAME"] do
    unless ← words ["BY", "NAME"] do
      if ← word "ALL" then
        let _ ← words ["BY", "NAME"]
      else
        let _ ← word "DISTINCT"

/-- A body whose operators bind more tightly than `precedence`. `fuel` bounds the nesting of
operators, which is at most the number of their precedences. -/
def bodyAt (g : Nested) : Nat → Nat → Parser Body
  | 0, _ => fail .tooDeep
  | fuel + 1, precedence => do
    let first ← plainBody g
    loop first fun left => do
      match setOperator? (← peek).keyword with
      | none => return .done left
      | some (op, binding) =>
        if precedence ≥ binding then return .done left
        else
          skip
          setQuantifier
          let right ← bodyAt g fuel binding
          return .again (.setOperation op left right)

/-- The body of a query. -/
def body (g : Nested) : Parser Body :=
  bodyAt g 3 0

/-! ## Clauses behind the body -/

/-- ORDER BY, if it comes next. -/
def orderBy (g : Nested) : Parser (List Part) := do
  let d ← dialect
  if ← words ["ORDER", "BY"] then
    if ← provided d.orderByAll (word "ALL") then
      orderOptions
      return []
    else
      let order ← itemParts (orderItem g)
      if ← provided (d.isOneOf [.clickhouse, .generic]) (word "INTERPOLATE") then
        if ← symbol "(" then
          let fillings ← itemsOrNone ")" do
            let _ ← identifier
            partsAfter "AS" g.exprParts
          expectSymbol ")"
          return order ++ fillings.flatten
        else return order
      else return order
  else return []

/-- The number of rows to pass over, behind OFFSET. -/
def offset (g : Nested) : Parser (List Part) := do
  let e ← g.exprParts
  let _ ← anyWord ["ROW", "ROWS"]
  return e

/-- LIMIT and OFFSET, in either order of writing. -/
def limitAndOffset (g : Nested) : Parser (List Part) := do
  let d ← dialect
  let early ← optional (word "OFFSET") (offset g)
  if ← word "LIMIT" then
    let all ← word "ALL"
    let limit ← if all then pure [] else g.exprParts
    if ← provided (d.limitComma && early.isNone && !all) (symbol ",") then
      let count ← g.exprParts
      return limit ++ count
    else
      let groups ← if ← provided (d.isOneOf [.clickhouse, .generic]) (word "BY") then
          itemParts g.exprParts
        else pure []
      let skipped ← match early with
        | some skipped => pure skipped
        | none => partsAfter "OFFSET" (offset g)
      return limit ++ skipped ++ groups
  else return early.getD []

/-- The number of rows behind FETCH. -/
def fetchClause : Parser Unit := do
  let _ ← anyWord ["FIRST", "NEXT"]
  unless ← hasWord ["ROW", "ROWS"] do
    let _ ← value
    let _ ← word "PERCENT"
    let _ ← anyWord ["ROW", "ROWS"]
  unless ← word "ONLY" do
    let _ ← words ["WITH", "TIES"]

/-- A string in parentheses. -/
def stringInParens : Parser Unit := do
  let _ ← parens literalString

/-- The form of an XML document behind FOR XML. -/
def xmlForm : Parser Unit := do
  match ← anyWord ["RAW", "AUTO", "EXPLICIT", "PATH"] with
  | some k =>
    if (k == "RAW" || k == "PATH") && (← peekSymbol "(") then stringInParens
  | none => refuse "Expected FOR XML [RAW | AUTO | EXPLICIT | PATH ]"
  whileTrue do
    if ← symbol "," then
      match ← anyWord ["ELEMENTS", "BINARY", "ROOT", "TYPE"] with
      | some "BINARY" => expectWord "BASE64"
      | some "ROOT" => stringInParens
      | _ => pure ()
      return true
    else return false

/-- The form of a JSON document behind FOR JSON. -/
def jsonForm : Parser Unit := do
  unless ← hasWord ["AUTO", "PATH"] do refuse "Expected FOR JSON [AUTO | PATH ]"
  whileTrue do
    if ← symbol "," then
      match ← anyWord ["ROOT", "INCLUDE_NULL_VALUES", "WITHOUT_ARRAY_WRAPPER"] with
      | some "ROOT" => stringInParens
      | _ => pure ()
      return true
    else return false

/-- Locks on rows and the form of the result, each behind FOR. -/
def forClauses (g : Nested) : Parser Unit :=
  whileTrue do
    if ← word "FOR" then
      match ← anyWord ["XML", "JSON", "BROWSE"] with
      | some "XML" =>
        xmlForm
        return false
      | some "JSON" =>
        jsonForm
        return false
      | some _ => return false
      | none =>
        let _ ← expectAnyWord ["UPDATE", "SHARE"]
        if ← word "OF" then
          let _ ← objectName g
        unless ← word "NOWAIT" do
          let _ ← words ["SKIP", "LOCKED"]
        return true
    else return false

/-! ## Pipes -/

/-- An expression that may have an alias and a direction. -/
def orderedExpr (g : Nested) : Parser (List Part) := do
  let e ← g.exprParts
  let _ ← aliasOutside ["ASC", "DESC", "GROUP"]
  let _ ← anyWord ["ASC", "DESC"]
  return e

/-- An alias, if there is one; without AS any name is one. -/
def optionalAlias : Parser Unit := do
  if ← word "AS" then
    let _ ← identifier
  else
    let _ ← attempt identifier

/-- Queries in parentheses between commas. -/
def pipedQueries (g : Nested) : Parser (List Part) :=
  itemParts (parens g.queryParts)

/-- What an operator behind a pipe mentions, behind its keyword. -/
def pipeStep (g : Nested) (k : String) : Parser (List Part) := do
  match k with
  | "SELECT" | "EXTEND" => itemParts (selectItem g)
  | "SET" => assignments g
  | "DROP" =>
    restOfNames
    return []
  | "AS" =>
    let _ ← identifier
    return []
  | "WHERE" => g.exprParts
  | "LIMIT" =>
    let limit ← g.exprParts
    let skipped ← partsAfter "OFFSET" g.exprParts
    return limit ++ skipped
  | "AGGREGATE" =>
    let totals ← if ← peekWord "GROUP" then pure [] else itemParts (orderedExpr g)
    let groups ← partsAfterAll ["GROUP", "BY"] (itemParts (orderedExpr g))
    return totals ++ groups
  | "ORDER" =>
    let _ ← expectAnyWord ["BY"]
    itemParts (orderItem g)
  | "TABLESAMPLE" =>
    back
    tableSample g
  | "RENAME" =>
    let _ ← items do
      let _ ← identifier
      let _ ← word "AS"
      let _ ← identifier
    return []
  | "UNION" =>
    setQuantifier
    pipedQueries g
  | "INTERSECT" | "EXCEPT" =>
    unless ← words ["DISTINCT", "BY", "NAME"] do
      unless ← word "DISTINCT" do
        refuse (k ++ " pipe operator requires DISTINCT modifier")
    pipedQueries g
  | "CALL" =>
    let name ← objectName g
    let e ← call g (operand g) (name.map fun n => { text := n })
    optionalAlias
    return e.parts
  | "PIVOT" =>
    expectSymbol "("
    let aggregates ← itemParts (aliasedCall g)
    expectWord "FOR"
    whileTrue do
      let _ ← identifier
      symbol "."
    expectWord "IN"
    let source ← pivotValues g
    expectSymbol ")"
    optionalAlias
    return aggregates ++ source
  | "UNPIVOT" =>
    expectSymbol "("
    let _ ← identifier
    expectWord "FOR"
    let _ ← identifier
    expectWord "IN"
    let _ ← parens identifiers
    expectSymbol ")"
    optionalAlias
    return []
  | _ =>
    back
    let (joins, count) ← joinsAt g (tableFactor g) (← bound)
    if count == 1 then return joins else refuse "Join pipe operator must have a single join"

/-- The operators behind pipes. -/
def pipeSteps (g : Nested) : Parser (List Part) := do
  if (← dialect).hasPipes then
    let steps ← many do
      if ← symbol "|>" then
        let k ← expectAnyWord ["SELECT", "EXTEND", "SET", "DROP", "AS", "WHERE", "LIMIT",
          "AGGREGATE", "ORDER", "TABLESAMPLE", "RENAME", "UNION", "INTERSECT", "EXCEPT", "CALL",
          "PIVOT", "UNPIVOT", "JOIN", "INNER", "LEFT", "RIGHT", "FULL", "CROSS"]
        return some (← pipeStep g k)
      else return none
    return steps.flatten
  else return []

/-! ## The whole -/

/-- The clauses behind the body of a query. -/
def queryClauses (g : Nested) : Parser (List Part) := do
  let order ← orderBy g
  let limits ← limitAndOffset g
  let options ← settings g
  if ← word "FETCH" then fetchClause
  forClauses g
  if ← provided (← dialectIn [.clickhouse, .generic]) (word "FORMAT") then
    unless ← word "NULL" do
      let _ ← identifier
  let pipes ← pipeSteps g
  return order ++ limits ++ options.getD [] ++ pipes

/-- A query. -/
def query (g : Nested) : Parser Query := do
  let defined ← if ← word "WITH" then do
      let _ ← word "RECURSIVE"
      items (cte g)
    else pure []
  let ctes := defined.map (·.1)
  let columns := defined.flatMap (·.2)
  match ← anyWord ["INSERT", "UPDATE", "DELETE", "MERGE"] with
  | some "INSERT" => return .mk ctes (.write (← insert g)) columns
  | some "UPDATE" => return .mk ctes (.write (← update g)) columns
  | some "DELETE" => return .mk ctes (.write (← delete g)) columns
  | some _ => return .mk ctes (.write (← merge g)) columns
  | none =>
    let b ← body g
    let rest ← queryClauses g
    return .mk ctes b (columns ++ rest)

end QueryGuard.Sql.Grammar
