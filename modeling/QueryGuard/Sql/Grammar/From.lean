import QueryGuard.Sql.Grammar.Expr

/-!
Tables, derived tables and joins: what stands behind FROM.

An opening parenthesis begins a derived table or joins in parentheses. The derived table is tried
first; whatever is wrong with it, short of nesting too deep, leaves the joins to be tried.
-/

namespace QueryGuard.Sql.Grammar

open Sql.Parser

/-- A column of an alias, which may have a type: how a message shows it, and what a reader meets in
the type. -/
structure AliasColumn where
  shown : String
  parts : List Part := []

/-- An alias of a table, with its columns if any are named. -/
structure TableAlias where
  name : Name
  columns : List AliasColumn := []

namespace TableAlias

/-- How a message shows an alias. -/
def shown (a : TableAlias) : String :=
  if a.columns.isEmpty then a.name.shown
  else a.name.shown ++ " (" ++ ", ".intercalate (a.columns.map (·.shown)) ++ ")"

/-- The text of the name of an alias, if there is one. -/
def text? (a : Option TableAlias) : Option String :=
  a.map (·.name.text)

/-- What a reader meets in the columns of an alias, if there is one. -/
def partsOf (a : Option TableAlias) : List Part :=
  a.toList.flatMap fun a => a.columns.flatMap (·.parts)

end TableAlias

/-- An item of FROM together with what the rule around it needs to know. -/
structure Factored where
  factor : TableFactor
  aliasName : Option TableAlias := none
  /-- The item is a group of joins in parentheses. -/
  joined : Bool := false
  /-- The alias of the item is met before what the item is made of. -/
  aliasFirst : Bool := false

namespace Factored

/-- A named table, or with arguments a call. Its alias is met before the arguments. -/
def named (name : ObjectName) (aliasName : Option TableAlias) (args : Option (List Part))
    (rest : List Part) : Factored :=
  let columns := TableAlias.partsOf aliasName
  let factor := match args with
    | some args => .table name (TableAlias.text? aliasName) (some (columns ++ args)) rest
    | none => .table name (TableAlias.text? aliasName) none (columns ++ rest)
  { factor := factor, aliasName := aliasName }

/-- A derived table. Its alias is met behind the query. -/
def derived (aliasName : Option TableAlias) (query : Query) : Factored where
  factor := .derived (TableAlias.text? aliasName) query (TableAlias.partsOf aliasName)
  aliasName := aliasName

/-- An item without a name of its own, with its alias at the end. -/
def compound (aliasName : Option TableAlias) (parts : List Part) : Factored where
  factor := .compound (parts ++ TableAlias.partsOf aliasName)
  aliasName := aliasName

/-- The item, which has no alias yet, with one given behind parentheses around it. -/
def withAlias (f : Factored) (aliasName : TableAlias) : Factored :=
  match f.factor with
  | .table name _ args rest => named name aliasName args rest
  | .derived _ query _ => derived aliasName query
  | .compound parts =>
    let columns := TableAlias.partsOf aliasName
    let parts := if f.aliasFirst then columns ++ parts else parts ++ columns
    { f with factor := .compound parts, aliasName := aliasName }

end Factored

/-- The columns behind an alias, each of which may have a type. -/
def aliasColumns (g : Nested) : Parser (List AliasColumn) := do
  if ← symbol "(" then
    let columns ← items do
      let n ← identifier
      match ← attempt (dataType g) with
      | some type => return { shown := n.shown ++ " " ++ type.text, parts := type.parts }
      | none => return { shown := n.shown }
    expectSymbol ")"
    return columns
  else return []

/-- An alias of a table, with column names if there are any. -/
def tableAlias (g : Nested) : Parser (Option TableAlias) := do
  match ← aliasJudgedBy mayAliasTable with
  | some n => return some { name := n, columns := ← aliasColumns g }
  | none => return none

/-- An item without a name of its own. -/
def compoundFactor (g : Nested) (parts : List Part) : Parser Factored := do
  return .compound (← tableAlias g) parts

/-- A derived table behind its opening parenthesis. -/
def derivedTable (g : Nested) : Parser Factored := do
  let q ← g.query
  expectSymbol ")"
  return .derived (← tableAlias g) q

/-- The settings at the end of a query or an argument list. -/
def settings (g : Nested) : Parser (Option (List Part)) := do
  if ← provided (← dialectIn [.clickhouse, .generic]) (word "SETTINGS") then
    let parts ← itemParts do
      let _ ← identifier
      expectSymbol "="
      g.exprParts
    return some parts
  else return none

/-- The arguments of a table function behind the opening parenthesis. -/
def tableArguments (g : Nested) : Parser (List Part) := do
  if ← symbol ")" then return []
  let trailing := (← dialect).trailingCommas
  let parts ← loop [] fun (soFar : List Part) => do
    match ← settings g with
    | some more => return .done (soFar ++ more)
    | none =>
      let arg ← argumentParts g
      if ← listIsOver trailing (fun k => do return !(← mayAliasColumn k)) then
        return .done (soFar ++ arg)
      else return .again (soFar ++ arg)
  expectSymbol ")"
  return parts

/-- An expression that may have an alias behind AS. -/
def aliasedExpr (g : Nested) : Parser (List Part) := do
  let e ← g.exprParts
  if ← word "AS" then
    let _ ← identifier
  return e

/-- A call of an aggregate in a pivot, which may have an alias behind AS. -/
def aliasedCall (g : Nested) : Parser (List Part) := do
  match ← next with
  | .word text _ _ =>
    let e ← call g (operand g) [{ text := text }]
    if ← word "AS" then
      let _ ← identifier
    return e.parts
  | _ => needed "a function identifier"

/-- The values that a pivot turns into columns, in parentheses. -/
def pivotValues (g : Nested) : Parser (List Part) := do
  expectSymbol "("
  let source ← do
    if ← word "ANY" then partsAfterAll ["ORDER", "BY"] (itemParts (orderItem g))
    else if ← peekAnyWord ["SELECT", "WITH"] then g.queryParts
    else itemParts (aliasedExpr g)
  expectSymbol ")"
  return source

/-- A pivot of a table behind its keyword. -/
def pivot (g : Nested) (table : Factored) : Parser Factored := do
  let d ← dialect
  expectSymbol "("
  let aggregates ← itemParts (aliasedCall g)
  expectWord "FOR"
  let column : Parser (List Part) := do
    return (← g.subexpr (Binding.between.precedence d)).parts
  let columns ← if ← peekSymbol "(" then do pure (← parenthesised true false column).flatten
    else column
  expectWord "IN"
  let source ← pivotValues g
  let onNull ← partsAfterAll ["DEFAULT", "ON", "NULL"] (parens g.exprParts)
  expectSymbol ")"
  compoundFactor g ([.factor table.factor] ++ aggregates ++ columns ++ source ++ onNull)

/-- The reverse of a pivot behind its keyword. -/
def unpivot (g : Nested) (table : Factored) : Parser Factored := do
  if ← hasWord ["INCLUDE", "EXCLUDE"] then expectWord "NULLS"
  expectSymbol "("
  let v ← g.exprParts
  expectWord "FOR"
  let _ ← identifier
  expectWord "IN"
  let columns ← parenthesised true false (aliasedExpr g)
  expectSymbol ")"
  compoundFactor g ([.factor table.factor] ++ v ++ columns.flatten)

/-- Any number of pivots behind a table. -/
def pivots (g : Nested) (table : Factored) : Parser Factored :=
  loop table fun t => do
    match ← anyWord ["PIVOT", "UNPIVOT"] with
    | some "PIVOT" => return .again (← pivot g t)
    | some _ => return .again (← unpivot g t)
    | none => return .done t

/-- A sample of a table, if one is asked for. -/
def tableSample (g : Nested) : Parser (List Part) := do
  if ← hasWord ["TABLESAMPLE", "SAMPLE"] then
    let _ ← anyWord ["BERNOULLI", "ROW", "SYSTEM", "BLOCK"]
    let inParens ← symbol "("
    let quantity ← if ← provided inParens (word "BUCKET") then do
        numberValue
        expectWords ["OUT", "OF"]
        numberValue
        partsAfter "ON" g.exprParts
      else do
        let v ← match ← attempt g.expr with
          | some e => pure e.parts
          | none => do
            match ← next with
            | .word _ _ _ => pure []
            | _ => refuseHere "Expecting number or byte length e.g. 100M"
        let _ ← anyWord ["ROWS", "PERCENT"]
        pure v
    if inParens then expectSymbol ")"
    if ← hasWord ["REPEATABLE", "SEED"] then
      expectSymbol "("
      numberValue
      expectSymbol ")"
    let offset ← partsAfter "OFFSET" g.exprParts
    return quantity ++ offset
  else return []

/-- The version of a table, if one is asked for. -/
def tableVersion (g : Nested) : Parser (List Part) := do
  if (← dialect).tableVersions then
    if ← words ["FOR", "SYSTEM_TIME", "AS", "OF"] then g.exprParts
    else if ← peekAnyWord ["AT", "BEFORE"] then
      let name ← tableName g
      return (← call g (operand g) (name.map fun n => { text := n })).parts
    else return []
  else return []

/-- Index hints behind a table. -/
def indexHintList : Parser Unit := do
  let one : Parser (Option Unit) := do
    match ← anyWord ["USE", "IGNORE", "FORCE"] with
    | none => return none
    | some _ =>
      unless ← hasWord ["INDEX", "KEY"] do needed "INDEX or KEY"
      if ← word "FOR" then
        unless ← word "JOIN" do
          unless ← words ["ORDER", "BY"] do
            unless ← words ["GROUP", "BY"] do needed "JOIN, ORDER BY or GROUP BY"
      expectSymbol "("
      unless ← peekSymbol ")" do
        let _ ← identifiers
      expectSymbol ")"
      return some ()
  let _ ← many one

/-- How often an element of a row pattern repeats, as a range behind its opening brace. The numbers
are judged once the brace is closed, at the place of the first token. -/
def repetitionRange : Parser Unit := do
  let first ← nextLocated
  let check := fun text => IntegerKind.unsigned32.check text first.place
  match first.token with
  | .symbol "," =>
    let t ← nextLocated
    match t.token with
    | .number most _ =>
      expectSymbol "\x7d"
      check most
    | _ => unexpected "literal number" t
  | .number least _ =>
    if ← symbol "," then
      let t ← nextLocated
      match t.token with
      | .number most _ =>
        expectSymbol "\x7d"
        check least
        check most
      | .symbol "\x7d" => check least
      | _ => unexpected "\x7d or upper bound" t
    else
      expectSymbol "\x7d"
      check least
  | _ => unexpected "quantifier range" first

/-- How often an element of a row pattern repeats, if it is stated. -/
def repetition : Parser Bool := do
  match ← peek with
  | .symbol "*" | .symbol "+" | .placeholder "?" =>
    skip
    return true
  | .symbol "\x7b" =>
    skip
    repetitionRange
    return true
  | _ => return false

/-- A pattern of rows. `fuel` bounds the nesting. -/
def rowPattern : Nat → Parser Unit
  | 0 => fail .tooDeep
  | fuel + 1 => do
    let element : Parser Unit := do
      match ← next with
      | .symbol "^" | .placeholder "$" => pure ()
      | .symbol "\x7b" =>
        expectSymbol "-"
        let _ ← identifier
        expectSymbol "-"
        expectSymbol "\x7d"
      | .word "PERMUTE" none _ =>
        expectSymbol "("
        let _ ← identifiers
        expectSymbol ")"
      | .symbol "(" =>
        rowPattern fuel
        expectSymbol ")"
      | _ =>
        back
        let _ ← identifier
    whileTrue do
      whileTrue do
        element
        whileTrue repetition
        return !(← peekSymbol ")") && !(← peekSymbol "|")
      symbol "|"

/-- A recognition of row patterns behind its keyword. -/
def rowRecognition (g : Nested) (table : Factored) : Parser Factored := do
  expectSymbol "("
  let partitions ← partsAfterAll ["PARTITION", "BY"] (itemParts g.exprParts)
  let order ← partsAfterAll ["ORDER", "BY"] (itemParts (orderItem g))
  let measures ← partsAfter "MEASURES" (itemParts do
    let e ← g.exprParts
    let _ ← word "AS"
    let _ ← identifier
    return e)
  if ← words ["ONE", "ROW", "PER", "MATCH"] then pure ()
  else if ← words ["ALL", "ROWS", "PER", "MATCH"] then
    unless ← words ["SHOW", "EMPTY", "MATCHES"] do
      unless ← words ["OMIT", "EMPTY", "MATCHES"] do
        let _ ← words ["WITH", "UNMATCHED", "ROWS"]
  if ← words ["AFTER", "MATCH", "SKIP"] then
    if ← words ["PAST", "LAST", "ROW"] then pure ()
    else if ← words ["TO", "NEXT", "ROW"] then pure ()
    else if ← anyWords [["TO", "FIRST"], ["TO", "LAST"]] then
      let _ ← identifier
    else
      let t ← nextLocated
      unexpected "after match skip option" t
  expectWord "PATTERN"
  expectSymbol "("
  rowPattern (← bound)
  expectSymbol ")"
  expectWord "DEFINE"
  let definitions ← itemParts do
    let _ ← identifier
    expectWord "AS"
    g.exprParts
  expectSymbol ")"
  compoundFactor g
    ([.factor table.factor] ++ partitions ++ order ++ measures ++ definitions)

/-- What a reader meets in a column of a table made from a document. `fuel` bounds the nesting. -/
def documentColumn (g : Nested) : Nat → Parser (List Part)
  | 0 => fail .tooDeep
  | fuel + 1 => do
    if ← word "NESTED" then
      let _ ← word "PATH"
      let _ ← value
      expectWord "COLUMNS"
      parens (itemParts (documentColumn g fuel))
    else
      let _ ← identifier
      if ← word "FOR" then
        expectWord "ORDINALITY"
        return []
      else
        let type ← typeParts g
        let _ ← word "EXISTS"
        expectWord "PATH"
        let _ ← value
        whileTrue do
          match ← anyWord ["NULL", "ERROR", "DEFAULT"] with
          | none => return false
          | some k =>
            if k == "DEFAULT" then
              let _ ← value
            expectWord "ON"
            unless ← word "EMPTY" do expectWord "ERROR"
            return true
        return type

/-- A table made from a document, behind the opening parenthesis. -/
def documentTable (g : Nested) : Parser Factored := do
  let e ← g.exprParts
  expectSymbol ","
  let _ ← value
  expectWord "COLUMNS"
  expectSymbol "("
  let fuel ← bound
  let columns ← itemParts (documentColumn g fuel)
  expectSymbol ")"
  expectSymbol ")"
  compoundFactor g (e ++ columns)

/-- A table made by OPENJSON, behind the opening parenthesis. -/
def openDocument (g : Nested) : Parser Factored := do
  let e ← g.exprParts
  if ← symbol "," then
    let _ ← value
  expectSymbol ")"
  let columns ← partsAfter "WITH" (parens (itemParts do
    let _ ← identifier
    let type ← typeParts g
    match ← peek with
    | .string .single _ => skip
    | _ => pure ()
    if ← word "AS" then expectWord "JSON"
    return type))
  compoundFactor g (e ++ columns)

/-- A table made by XMLTABLE, behind the opening parenthesis. -/
def markupTable (g : Nested) : Parser Factored := do
  let namespaces ← if ← word "XMLNAMESPACES" then do
      expectSymbol "("
      let parts ← itemParts do
        let e ← g.exprParts
        expectWord "AS"
        let _ ← identifier
        return e
      expectSymbol ")"
      expectSymbol ","
      pure parts
    else pure []
  let row ← g.exprParts
  let passing ← if ← word "PASSING" then
      loop [] fun (soFar : List Part) => do
        if ← word "BY" then
          let _ ← word "VALUE"
        let e ← aliasedExpr g
        if ← symbol "," then return .again (soFar ++ e) else return .done (soFar ++ e)
    else pure []
  expectWord "COLUMNS"
  let columns ← itemParts do
    let _ ← identifier
    if ← word "FOR" then
      expectWord "ORDINALITY"
      return []
    else
      let type ← typeParts g
      let path ← partsAfter "PATH" g.exprParts
      let default ← partsAfter "DEFAULT" g.exprParts
      unless ← words ["NOT", "NULL"] do
        let _ ← word "NULL"
      return type ++ path ++ default
  expectSymbol ")"
  compoundFactor g (namespaces ++ row ++ passing ++ columns)

/-- The rows of VALUES behind the keyword. -/
def valueRows (g : Nested) (mayBeEmpty : Bool) : Parser (List Part) :=
  itemParts do
    let _ ← word "ROW"
    expectSymbol "("
    if mayBeEmpty && (← peekSymbol ")") then
      skip
      return []
    else
      let row ← itemParts g.exprParts
      expectSymbol ")"
      return row

/-- UNNEST in FROM behind its keyword. -/
def unnestFactor (g : Nested) : Parser Factored := do
  expectSymbol "("
  let arrays ← itemParts g.exprParts
  expectSymbol ")"
  let _ ← words ["WITH", "ORDINALITY"]
  let aliasName ← tableAlias g
  if ← word "WITH" then
    if ← word "OFFSET" then
      let _ ← aliasOutside reservedForColumnAlias
  return {
    factor := .compound (TableAlias.partsOf aliasName ++ arrays)
    aliasName := aliasName
    aliasFirst := true }

/-- The clauses of a semantic view, each of which may stand once. -/
structure SemanticClauses where
  dimensions : Option (List Part) := none
  metrics : Option (List Part) := none
  facts : Option (List Part) := none
  condition : Option (List Part) := none

/-- A semantic view behind the opening parenthesis. -/
def semanticView (g : Nested) : Parser Factored := do
  let _ ← tableName g
  let once (k : String) (found : Option (List Part)) : Parser Unit := do
    if found.isSome then refuse (k ++ " clause can only be specified once")
  let columns : Parser (List Part) := itemParts do return (← wildcardExpr g).parts
  let clauses ← loop {} fun (soFar : SemanticClauses) => do
    if ← symbol ")" then return .done soFar
    match ← anyWord ["DIMENSIONS", "METRICS", "FACTS", "WHERE"] with
    | some "DIMENSIONS" =>
      once "DIMENSIONS" soFar.dimensions
      return .again { soFar with dimensions := some (← columns) }
    | some "METRICS" =>
      once "METRICS" soFar.metrics
      return .again { soFar with metrics := some (← columns) }
    | some "FACTS" =>
      once "FACTS" soFar.facts
      return .again { soFar with facts := some (← columns) }
    | some _ =>
      once "WHERE" soFar.condition
      return .again { soFar with condition := some (← g.exprParts) }
    | none =>
      refuseHere ("Expected one of DIMENSIONS, METRICS, FACTS or WHERE, got " ++ (← peek).render)
  compoundFactor g (clauses.dimensions.getD [] ++ clauses.metrics.getD [] ++
    clauses.facts.getD [] ++ clauses.condition.getD [])

/-- A named table or a table function, with all that may follow it. -/
def namedTable (g : Nested) : Parser Factored := do
  let d ← dialect
  let name ← tableName g
  let path ← if d.partiql && (← peekSymbol "[") then documentPath g else pure []
  if ← provided (d.isOneOf [.mysql, .generic]) (word "PARTITION") then
    expectSymbol "("
    let _ ← identifiers
    expectSymbol ")"
  let version ← tableVersion g
  let args ← if ← symbol "(" then some <$> tableArguments g else pure none
  let _ ← words ["WITH", "ORDINALITY"]
  let before ← if d.sampleBeforeAlias then tableSample g else pure []
  let aliasName ← tableAlias g
  if d.indexHints then
    let _ ← attempt indexHintList
  let hints ← do
    let i ← position
    if ← words ["WITH"] then
      if ← symbol "(" then
        let hints ← itemParts g.exprParts
        expectSymbol ")"
        pure hints
      else
        moveTo i
        pure []
    else pure []
  let after ← if d.sampleBeforeAlias then pure [] else tableSample g
  let table ← pivots g (.named name aliasName args (hints ++ version ++ path ++ before ++ after))
  if ← provided d.matchRecognize (word "MATCH_RECOGNIZE") then rowRecognition g table
  else return table

/-! ## Joins -/

/-- The condition of a join. -/
def joinConstraint (g : Nested) (natural : Bool) : Parser (List Part) := do
  if natural then return []
  else if ← word "ON" then g.exprParts
  else if ← word "USING" then
    let _ ← parenthesised true false (tableName g)
    return []
  else return []

/-- The keywords of an ordinary join, up to the joined table; `false` if none stands here. -/
def joinOperator (natural : Bool) : Parser Bool := do
  match (← peek).keyword with
  | "INNER" | "JOIN" =>
    let _ ← word "INNER"
    expectWord "JOIN"
    return true
  | "LEFT" | "RIGHT" =>
    let side := (← next).keyword
    match ← anyWord ["OUTER", "SEMI", "ANTI", "JOIN"] with
    | some "JOIN" => return true
    | some _ =>
      expectWord "JOIN"
      return true
    | none => refuse ("expected OUTER, SEMI, ANTI or JOIN after " ++ side)
  | "ANTI" | "SEMI" =>
    skip
    expectWord "JOIN"
    return true
  | "FULL" =>
    skip
    let _ ← word "OUTER"
    expectWord "JOIN"
    return true
  | "OUTER" => needed "LEFT, RIGHT, or FULL"
  | "STRAIGHT_JOIN" =>
    skip
    return true
  | _ => if natural then needed "a join type after NATURAL" else return false

/-- Any number of joins behind a table: what a reader meets in them, and how many there are.
`fuel` bounds the nesting of joins without parentheses. -/
def joinsAt (g : Nested) (factor : Parser Factored) : Nat → Parser (List Part × Nat)
  | 0 => fail .tooDeep
  | fuel + 1 => do
    let d ← dialect
    loop ([], 0) fun ((soFar, count) : List Part × Nat) => do
      let _ ← word "GLOBAL"
      let joined := fun (f : Factored) (more : List Part) =>
        Step.again (α := List Part × Nat) (soFar ++ [Part.factor f.factor] ++ more, count + 1)
      if ← word "CROSS" then
        match ← anyWord ["JOIN", "APPLY"] with
        | some k =>
          let f ← factor
          let constraint ← if k == "JOIN" && d.crossJoinCondition then joinConstraint g false
            else pure []
          return joined f constraint
        | none => needed "JOIN or APPLY after CROSS"
      else if ← word "OUTER" then
        expectWord "APPLY"
        return joined (← factor) []
      else if ← word "ASOF" then
        expectWord "JOIN"
        let f ← factor
        expectWord "MATCH_CONDITION"
        let condition ← parens g.exprParts
        let constraint ← joinConstraint g false
        return joined f (condition ++ constraint)
      else
        let natural ← word "NATURAL"
        if ← joinOperator natural then
          let f ← factor
          let f ← if !d.leftAssociativeJoins &&
              (← peekAnyWord ["JOIN", "INNER", "LEFT", "RIGHT", "FULL"]) then do
              let (inner, _) ← joinsAt g factor fuel
              pure { factor := .compound (Part.factor f.factor :: inner), joined := true }
            else pure f
          let constraint ← joinConstraint g natural
          return joined f constraint
        else return .done (soFar, count)

/-- An item of FROM with the joins behind it: the item, what a reader meets in the joins, and
how many there are. -/
def joinedFactor (g : Nested) (factor : Parser Factored) :
    Parser (Factored × List Part × Nat) := do
  let f ← factor
  let (joins, count) ← joinsAt g factor (← bound)
  return (f, joins, count)

/-- Joins in parentheses, behind the opening parenthesis. -/
def parenthesisedJoins (g : Nested) (factor : Parser Factored) : Parser Factored := do
  let (f, joins, count) ← joinedFactor g factor
  if count != 0 || f.joined then
    expectSymbol ")"
    let aliasName ← tableAlias g
    return { Factored.compound aliasName (Part.factor f.factor :: joins) with joined := true }
  else if (← dialect).parenthesisedTable then
    expectSymbol ")"
    match ← tableAlias g with
    | none => return f
    | some outer =>
      match f.aliasName with
      | some inner => refuse ("duplicate alias " ++ inner.shown)
      | none => return f.withAlias outer
  else needed "joined table"

/-- An item of FROM. `fuel` bounds the nesting of parentheses. -/
def factorAt (g : Nested) : Nat → Parser Factored
  | 0 => fail .tooDeep
  | fuel + 1 => do
    let d ← dialect
    if ← word "LATERAL" then
      if ← symbol "(" then derivedTable g
      else
        let _ ← objectName g
        expectSymbol "("
        let args ← if ← symbol ")" then pure []
          else do
            let args ← itemParts (argumentParts g)
            expectSymbol ")"
            pure args
        compoundFactor g args
    else if ← word "TABLE" then
      let e ← parens g.exprParts
      compoundFactor g e
    else if ← symbol "(" then
      match ← attempt (derivedTable g) with
      | some derived => pivots g derived
      | none => parenthesisedJoins g (factorAt g fuel)
    else if ← provided d.valuesInFrom (wordBefore "VALUES" "(") then
      let rows ← valueRows g false
      return .derived (← tableAlias g) (.mk [] (.values rows) [])
    else if ← provided d.unnest (word "UNNEST") then unnestFactor g
    else if ← wordBefore "JSON_TABLE" "(" then
      skip
      documentTable g
    else if ← wordBefore "OPENJSON" "(" then
      skip
      openDocument g
    else if ← wordBefore "XMLTABLE" "(" then
      skip
      markupTable g
    else if ← provided d.semanticViews (wordBefore "SEMANTIC_VIEW" "(") then
      skip
      semanticView g
    else namedTable g

/-- An item of FROM. -/
def tableFactor (g : Nested) : Parser Factored := do
  factorAt g (← bound)

/-- What a reader meets in an item of FROM. -/
def factorParts (g : Nested) : Parser (List Part) := do
  return [.factor (← tableFactor g).factor]

/-- What a reader meets in an item of FROM and the joins behind it. -/
def tableAndJoins (g : Nested) : Parser (List Part) := do
  let fuel ← bound
  let (f, joins, _) ← joinedFactor g (factorAt g fuel)
  return Part.factor f.factor :: joins

/-- The items behind FROM. -/
def fromItems (g : Nested) : Parser (List Part) := do
  let trailing := (← dialect).fromTrailingCommas
  let closes := fun k => do
    if k == "" then return false else return !(← mayNameTable k)
  return (← itemsWith trailing closes (tableAndJoins g)).flatten

end QueryGuard.Sql.Grammar
