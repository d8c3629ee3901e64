import QueryGuard.Sql.Grammar.DataType
import QueryGuard.Sql.Grammar.Precedence

/-!
Expressions.

An expression is an operand followed by operators and further operands, taken in by precedence. A
word that opens a form of its own, such as CASE, is tried as that form first; where the form is not
completed the word may still be a name.
-/

namespace QueryGuard.Sql.Grammar

open Sql.Parser

/-- An expression that is nothing but its parts. -/
def Expr.ofParts (parts : List Part) : Expr :=
  { parts := parts }

/-! ## Ordering and windows -/

/-- ASC, DESC, NULLS FIRST and NULLS LAST. -/
def orderOptions : Parser Unit := do
  let _ ← anyWord ["ASC", "DESC"]
  unless ← words ["NULLS", "FIRST"] do
    let _ ← words ["NULLS", "LAST"]

/-- What a reader meets behind a keyword, if the keyword comes next. -/
def partsAfter (k : String) (p : Parser (List Part)) : Parser (List Part) := do
  if ← word k then p else return []

/-- What a reader meets behind keywords, if they come next. -/
def partsAfterAll (ks : List String) (p : Parser (List Part)) : Parser (List Part) := do
  if ← words ks then p else return []

/-- What may follow an ordered expression: its direction, and how gaps are filled. -/
def orderRest (g : Nested) : Parser (List Part) := do
  orderOptions
  if ← provided (← dialectIn [.clickhouse, .generic]) (words ["WITH", "FILL"]) then
    let fromParts ← partsAfter "FROM" g.exprParts
    let toParts ← partsAfter "TO" g.exprParts
    let stepParts ← partsAfter "STEP" g.exprParts
    return fromParts ++ toParts ++ stepParts
  else return []

/-- One item of an ordering. -/
def orderItem (g : Nested) : Parser (List Part) := do
  let e ← g.exprParts
  return e ++ (← orderRest g)

/-- A field of a date or time. -/
def dateFields : List String :=
  ["YEAR", "YEARS", "MONTH", "MONTHS", "WEEK", "WEEKS", "DAY", "DAYOFWEEK", "DAYOFYEAR", "DAYS",
   "DATE", "DATETIME", "HOUR", "HOURS", "MINUTE", "MINUTES", "SECOND", "SECONDS", "CENTURY",
   "DECADE", "DOY", "DOW", "EPOCH", "ISODOW", "ISOYEAR", "ISOWEEK", "JULIAN", "MICROSECOND",
   "MICROSECONDS", "MILLENIUM", "MILLENNIUM", "MILLISECOND", "MILLISECONDS", "NANOSECOND",
   "NANOSECONDS", "QUARTER", "TIME", "TIMEZONE", "TIMEZONE_ABBR", "TIMEZONE_HOUR",
   "TIMEZONE_MINUTE", "TIMEZONE_REGION"]

/-- The units that may stand behind an interval. -/
def intervalUnits : List String :=
  ["YEAR", "YEARS", "MONTH", "MONTHS", "WEEK", "WEEKS", "DAY", "DAYS", "HOUR", "HOURS", "MINUTE",
   "MINUTES", "SECOND", "SECONDS", "CENTURY", "DECADE", "DOW", "DOY", "EPOCH", "ISODOW", "ISOYEAR",
   "JULIAN", "MICROSECOND", "MICROSECONDS", "MILLENIUM", "MILLENNIUM", "MILLISECOND",
   "MILLISECONDS", "NANOSECOND", "NANOSECONDS", "QUARTER", "TIMEZONE", "TIMEZONE_HOUR",
   "TIMEZONE_MINUTE"]

/-- A field of a date or time, by its keyword, or empty if it is one of the user's own. -/
def dateField : Parser String := do
  let d ← dialect
  let start ← position
  let t ← nextLocated
  match t.token with
  | .word _ _ k =>
    if k == "WEEK" then
      if ← provided (d.isOneOf [.bigquery, .generic]) (symbol "(") then
        let _ ← identifier
        expectSymbol ")"
      return k
    else if dateFields.contains k then return k
    else if d.extractCustomField then
      moveTo start
      let _ ← identifier
      return ""
    else unexpected "date/time field" t
  | .string .single _ =>
    if d.extractQuotedField then return "" else unexpected "date/time field" t
  | _ => unexpected "date/time field" t

/-- What stands behind the value of an interval: unit, precisions, last unit. -/
def intervalQualifier : Parser Unit := do
  let d ← dialect
  let leading ← if intervalUnits.contains (← peek).keyword then some <$> dateField
    else if d.intervalNeedsUnit then
      refuseHere "INTERVAL requires a unit after the literal value"
    else pure none
  if leading == some "SECOND" then
    if ← symbol "(" then
      someUnsigned
      if ← symbol "," then someUnsigned
      expectSymbol ")"
  else
    let _ ← optionalPrecision
    if ← word "TO" then
      let last ← dateField
      if last == "SECOND" then
        let _ ← optionalPrecision

/-- An interval behind its keyword, where `operand` reads a single operand. -/
def interval (g : Nested) (operand : Parser Expr) : Parser Expr := do
  let e ← if (← dialect).intervalNeedsUnit then g.expr else operand
  intervalQualifier
  return .ofParts e.parts

/-- One end of a window frame. -/
def frameBound (g : Nested) (operand : Parser Expr) : Parser (List Part) := do
  if ← words ["CURRENT", "ROW"] then return []
  else
    let parts ← if ← word "UNBOUNDED" then pure []
      else match ← peek with
        | .string .single _ => do pure (← interval g operand).parts
        | _ => g.exprParts
    if ← hasWord ["PRECEDING", "FOLLOWING"] then return parts
    else needed "PRECEDING or FOLLOWING"

/-- The frame of a window. -/
def windowFrame (g : Nested) (operand : Parser Expr) : Parser (List Part) := do
  let t ← nextLocated
  if ["ROWS", "RANGE", "GROUPS"].contains t.token.keyword then
    if ← word "BETWEEN" then
      let a ← frameBound g operand
      expectWord "AND"
      let b ← frameBound g operand
      return a ++ b
    else frameBound g operand
  else unexpected "ROWS, RANGE, GROUPS" t

/-- A window behind its opening parenthesis. -/
def windowSpec (g : Nested) (operand : Parser Expr) : Parser (List Part) := do
  match ← peek with
  | .word text quote k => unless (Token.word text quote k).isKeyword do skip
  | _ => pure ()
  let partitions ← partsAfterAll ["PARTITION", "BY"] (itemParts g.exprParts)
  let order ← partsAfterAll ["ORDER", "BY"] (itemParts (orderItem g))
  if ← symbol ")" then return partitions ++ order
  else
    let frame ← windowFrame g operand
    expectSymbol ")"
    return partitions ++ order ++ frame

/-! ## Calls -/

/-- The treatment of nulls, if it is stated. -/
def nullTreatment : Parser Bool := do
  if ← hasWord ["RESPECT", "IGNORE"] then
    expectWord "NULLS"
    return true
  else return false

/-- The clauses on nulls and on the returned type that calls building documents may have. -/
def documentClauses (g : Nested) : Parser (List Part) := do
  unless ← words ["ABSENT", "ON", "NULL"] do
    let _ ← words ["NULL", "ON", "NULL"]
  partsAfter "RETURNING" (typeParts g)

/-- ALL or DISTINCT before arguments. -/
def allOrDistinct : Parser Bool := do
  let place := (← peekLocated).place
  let all ← word "ALL"
  let distinct ← word "DISTINCT"
  if all && distinct then fail (.refused "Cannot specify both ALL and DISTINCT" place)
  else return distinct

/-- What happens when an aggregated list grows too long. -/
def onOverflow (g : Nested) : Parser (List Part) := do
  if ← words ["ON", "OVERFLOW"] then
    if ← word "ERROR" then return []
    else
      expectWord "TRUNCATE"
      let t ← peek
      let parts ← match t with
        | .word _ _ k =>
          if k == "WITH" || k == "WITHOUT" then pure []
          else needed "either filler, WITH, or WITHOUT in LISTAGG"
        | .string .single _ | .string .escaped _ | .string .unicode _ | .string .national _
        | .string .hex _ => g.exprParts
        | _ => needed "either filler, WITH, or WITHOUT in LISTAGG"
      unless ← hasWord ["WITH", "WITHOUT"] do needed "either WITH or WITHOUT in LISTAGG"
      expectWord "COUNT"
      return parts
  else return []

/-- The arguments of a call behind the opening parenthesis, and whether they state the treatment
of nulls. -/
def arguments (g : Nested) : Parser (List Part × Bool) := do
  let d ← dialect
  let first ← documentClauses g
  if ← symbol ")" then return (first, false)
  let _ ← allOrDistinct
  let args ← itemParts (argumentParts g)
  let nulls ← if d.nullTreatmentArgument then nullTreatment else pure false
  let order ← partsAfterAll ["ORDER", "BY"] (itemParts (orderItem g))
  let limit ← partsAfter "LIMIT" g.exprParts
  let having ← if ← provided (d.isOneOf [.generic, .bigquery]) (word "HAVING") then do
      let _ ← expectAnyWord ["MIN", "MAX"]
      g.exprParts
    else pure []
  if ← provided (d.isOneOf [.generic, .mysql]) (word "SEPARATOR") then
    let _ ← value
  let overflow ← onOverflow g
  let last ← documentClauses g
  expectSymbol ")"
  -- the clauses stand behind the arguments, those read before them first
  return (args ++ first ++ order ++ limit ++ having ++ overflow ++ last, nulls)

/-- A call of a function behind its name. -/
def call (g : Nested) (operand : Parser Expr) (names : List Name) : Parser Expr := do
  let d ← dialect
  expectSymbol "("
  if d.queryAsArgument && (← peekAnyWord ["SELECT", "WITH"]) then
    let q ← g.query
    expectSymbol ")"
    return { shape := .call names, parts := [.query q] }
  let (first, firstNulls) ← arguments g
  let (params, args, nulls) ←
    if ← provided (d.isOneOf [.clickhouse, .generic]) (symbol "(") then do
      let (second, secondNulls) ← arguments g
      pure (first, second, secondNulls)
    else pure ([], first, firstNulls)
  let group ← if ← words ["WITHIN", "GROUP"] then do
      expectSymbol "("
      expectWords ["ORDER", "BY"]
      let order ← itemParts (orderItem g)
      expectSymbol ")"
      pure order
    else pure []
  let filter ←
    if ← provided d.aggregateFilter (word "FILTER") then
      if ← symbol "(" then
        if ← word "WHERE" then do
          let e ← g.exprParts
          expectSymbol ")"
          pure e
        else pure []
      else pure []
    else pure []
  unless nulls do
    let _ ← nullTreatment
  let window ← if ← word "OVER" then
      if ← symbol "(" then windowSpec g operand
      else do
        let _ ← identifier
        pure []
    else pure []
  return { shape := .call names, parts := params ++ args ++ filter ++ window ++ group }

/-! ## Forms that a keyword opens -/

/-- CASE behind its keyword. -/
def caseExpr (g : Nested) : Parser Expr := do
  let operand ← if ← word "WHEN" then pure []
    else do
      let e ← g.exprParts
      expectWord "WHEN"
      pure e
  let branches ← loop [] fun (soFar : List Part) => do
    let condition ← g.exprParts
    expectWord "THEN"
    let result ← g.exprParts
    let soFar := soFar ++ condition ++ result
    if ← word "WHEN" then return .again soFar else return .done soFar
  let otherwise ← partsAfter "ELSE" g.exprParts
  expectWord "END"
  return .ofParts (operand ++ branches ++ otherwise)

/-- The format of a cast, if there is one. -/
def castFormat : Parser Unit := do
  if ← word "FORMAT" then
    let _ ← value
    if ← words ["AT", "TIME", "ZONE"] then
      let _ ← value

/-- A cast behind its keyword. -/
def castExpr (g : Nested) : Parser Expr := do
  expectSymbol "("
  let e ← g.exprParts
  expectWord "AS"
  let type ← typeParts g
  castFormat
  expectSymbol ")"
  return .ofParts (e ++ type)

/-- A conversion behind its keyword. -/
def convertExpr (g : Nested) : Parser Expr := do
  expectSymbol "("
  if (← dialect).typeBeforeValue then
    let type ← typeParts g
    expectSymbol ","
    let e ← g.exprParts
    let styles ← if ← symbol "," then itemParts g.exprParts else pure []
    expectSymbol ")"
    return .ofParts (e ++ type ++ styles)
  let e ← g.exprParts
  if ← word "USING" then
    let _ ← objectName g
    expectSymbol ")"
    return .ofParts e
  expectSymbol ","
  let type ← typeParts g
  if ← words ["CHARACTER", "SET"] then
    let _ ← objectName g
  expectSymbol ")"
  return .ofParts (e ++ type)

/-- EXISTS behind its keyword. -/
def existsExpr (g : Nested) : Parser Expr := do
  return .ofParts (← parens g.queryParts)

/-- EXTRACT behind its keyword. -/
def extractExpr (g : Nested) : Parser Expr := do
  expectSymbol "("
  let _ ← dateField
  unless ← word "FROM" do
    unless ← provided (← dialect).extractComma (symbol ",") do refuse "Expected 'FROM' or ','"
  let e ← g.exprParts
  expectSymbol ")"
  return .ofParts e

/-- CEIL or FLOOR behind its keyword. -/
def roundingExpr (g : Nested) : Parser Expr := do
  expectSymbol "("
  let e ← g.exprParts
  if ← word "TO" then
    let _ ← dateField
  else if ← symbol "," then
    let t ← peek
    let _ ← value
    match t with
    | .number _ _ => pure ()
    | _ => refuse "Scale field can only be of number type"
  expectSymbol ")"
  return .ofParts e

/-- POSITION behind its keyword. -/
def positionExpr (g : Nested) (operand : Parser Expr) (name : Name) : Parser Expr := do
  let special : Parser Expr := do
    expectSymbol "("
    let e ← g.subexpr (Binding.between.precedence (← dialect))
    expectWord "IN"
    let whole ← g.exprParts
    expectSymbol ")"
    return .ofParts (e.parts ++ whole)
  match ← attempt special with
  | some e => return e
  | none => call g operand [name]

/-- SUBSTRING behind its keyword. -/
def substringExpr (g : Nested) : Parser Expr := do
  expectSymbol "("
  let e ← g.exprParts
  let start ← if ← symbol "," then g.exprParts else partsAfter "FROM" g.exprParts
  let length ← do
    if ← word "FOR" then g.exprParts
    else if ← symbol "," then g.exprParts else pure []
  expectSymbol ")"
  return .ofParts (e ++ start ++ length)

/-- OVERLAY behind its keyword. -/
def overlayExpr (g : Nested) : Parser Expr := do
  expectSymbol "("
  let e ← g.exprParts
  expectWord "PLACING"
  let what ← g.exprParts
  expectWord "FROM"
  let start ← g.exprParts
  let length ← partsAfter "FOR" g.exprParts
  expectSymbol ")"
  return .ofParts (e ++ what ++ start ++ length)

/-- TRIM behind its keyword. -/
def trimExpr (g : Nested) : Parser Expr := do
  expectSymbol "("
  let _ ← anyWord ["BOTH", "LEADING", "TRAILING"]
  let e ← g.exprParts
  if ← word "FROM" then
    let whole ← g.exprParts
    expectSymbol ")"
    return .ofParts (whole ++ e)
  else
    let comma ← symbol ","
    let characters ← if comma && (← dialect).trimComma then itemParts g.exprParts else pure []
    expectSymbol ")"
    return .ofParts (e ++ characters)

/-- The elements of an array behind the opening bracket. -/
def arrayElements (g : Nested) : Parser Expr := do
  let es ← itemsOrNone "]" g.exprParts
  expectSymbol "]"
  return .ofParts es.flatten

/-- NOT behind its keyword. -/
def notExpr (g : Nested) : Parser Expr := do
  if ← word "EXISTS" then existsExpr g
  else
    let e ← g.subexpr (Binding.not.precedence (← dialect))
    return .ofParts e.parts

/-- MATCH behind its keyword. -/
def matchExpr (g : Nested) : Parser Expr := do
  let _ ← parenthesised true false (tableName g)
  expectWord "AGAINST"
  expectSymbol "("
  let _ ← value
  unless ← words ["IN", "NATURAL", "LANGUAGE", "MODE", "WITH", "QUERY", "EXPANSION"] do
    unless ← words ["IN", "NATURAL", "LANGUAGE", "MODE"] do
      unless ← words ["IN", "BOOLEAN", "MODE"] do
        let _ ← words ["WITH", "QUERY", "EXPANSION"]
  expectSymbol ")"
  return {}

/-- A literal of a structure behind its keyword. -/
def structExpr (g : Nested) : Parser Expr := do
  let (types, tooMany) ← structFields g (dataTypeAt g (← bound))
  if tooMany then refuseHere "unmatched > in STRUCT literal"
  expectSymbol "("
  let fields ← itemParts do
    let e ← g.exprParts
    if ← word "AS" then
      if types.isSome then
        back
        refuseHere "Typed syntax does not allow AS"
      let _ ← identifier
    return e
  expectSymbol ")"
  return .ofParts (fields ++ (types.getD []).flatMap (·.parts))

/-- The entries of a map between braces. -/
def mapEntries (g : Nested) (key : Parser (List Part)) : Parser Expr := do
  expectSymbol "\x7b"
  let es ← itemsOrNone "\x7d" do
    let k ← key
    expectSymbol ":"
    let v ← g.exprParts
    return k ++ v
  expectSymbol "\x7d"
  return .ofParts es.flatten

/-- What an opening brace begins; the brace has been given back. -/
def braceExpr (g : Nested) (operand : Parser Expr) : Parser Expr := do
  let brace ← nextLocated
  let scalarCall : Parser Expr := do
    expectWord "FN"
    let name ← objectName g
    call g operand (name.map fun n => { text := n })
  let moment : Parser Expr := do
    let t ← nextLocated
    match t.token with
    | .word text none _ =>
      if ["d", "t", "ts"].contains text then value else unexpected "literal" t
    | _ => unexpected "literal" t
  let body ← match ← attempt scalarCall with
    | some e => pure (some e)
    | none => attempt moment
  match body with
  | some e =>
    expectSymbol "\x7d"
    return e
  | none =>
    if (← dialect).dictionaries then
      back
      mapEntries g do
        let _ ← identifier
        return []
    else unexpected "an expression" brace

/-- An array subscript behind the opening bracket: an index or a slice. -/
def subscript (g : Nested) : Parser (List Part) := do
  let lower ← if ← symbol ":" then pure none else some <$> g.exprParts
  if ← symbol "]" then return lower.getD []
  if lower.isSome then expectSymbol ":"
  if ← symbol "]" then return lower.getD []
  let upper ← g.exprParts
  let sofar := lower.getD [] ++ upper
  if ← symbol "]" then return sofar
  expectSymbol ":"
  if ← symbol "]" then return sofar
  let stride ← g.exprParts
  expectSymbol "]"
  return sofar ++ stride

/-- The steps of a path into a document. -/
def documentPath (g : Nested) : Parser (List Part) := do
  let key : Parser Unit := do
    let t ← nextLocated
    match t.token with
    | .word _ none _ | .word _ (some '"') _ | .string .double _ => pure ()
    | _ => unexpected "variant object key name" t
  loop ([], true) fun ((soFar, first) : List Part × Bool) => do
    if ← provided first (symbol ":") then
      key
      return .again (soFar, false)
    else if ← provided (!first) (symbol ".") then
      key
      return .again (soFar, false)
    else if ← symbol "[" then
      let k ← g.exprParts
      expectSymbol "]"
      return .again (soFar ++ k, false)
    else return .done soFar

/-! ## Operands -/

/-- The form that a keyword opens, nothing if it opens none. -/
def keywordForm (g : Nested) (operand : Parser Expr) (name : Name) (k : String) :
    Parser (Option Expr) := do
  let d ← dialect
  match k with
  | "TRUE" | "FALSE" => return if d.booleanLiterals then some { shape := .literal k } else none
  | "NULL" => return some { shape := .literal k }
  | "CURRENT_CATALOG" | "CURRENT_USER" | "SESSION_USER" | "USER" =>
    return if d.isOneOf [.postgres, .generic] then some { shape := .call [name] } else none
  | "CURRENT_TIMESTAMP" | "CURRENT_TIME" | "CURRENT_DATE" | "LOCALTIME" | "LOCALTIMESTAMP" =>
    if ← symbol "(" then
      let (args, _) ← arguments g
      return some { shape := .call [name], parts := args }
    else return some { shape := .call [name] }
  | "CASE" => return some (← caseExpr g)
  | "CONVERT" => return some (← convertExpr g)
  | "TRY_CONVERT" => if d.tryConvert then return some (← convertExpr g) else return none
  | "CAST" | "TRY_CAST" | "SAFE_CAST" => return some (← castExpr g)
  | "EXISTS" =>
    let next := (← peekNth 1).keyword
    if d != .databricks || next == "SELECT" || next == "WITH" then return some (← existsExpr g)
    else return none
  | "EXTRACT" => return some (← extractExpr g)
  | "CEIL" | "FLOOR" => return some (← roundingExpr g)
  | "POSITION" =>
    if ← peekSymbol "(" then return some (← positionExpr g operand name) else return none
  | "SUBSTR" | "SUBSTRING" => return some (← substringExpr g)
  | "OVERLAY" => return some (← overlayExpr g)
  | "TRIM" => return some (← trimExpr g)
  | "INTERVAL" => return some (← interval g operand)
  | "ARRAY" =>
    if ← symbol "[" then return some (← arrayElements g)
    else if ← provided (!d.isOneOf [.clickhouse, .databricks]) (symbol "(") then
      let q ← g.query
      expectSymbol ")"
      return some { shape := .call [name], parts := [.query q] }
    else return none
  | "NOT" => return some (← notExpr g)
  | "MATCH" => if d.matchAgainst then return some (← matchExpr g) else return none
  | "STRUCT" => if d.structLiterals then return some (← structExpr g) else return none
  | "PRIOR" =>
    if ← settingIs .hierarchy then
      let e ← g.subexpr (Binding.plusMinus.precedence d)
      return some (.ofParts e.parts)
    else return none
  | "MAP" =>
    if d.mapLiterals && (← peekSymbol "\x7b") then return some (← mapEntries g g.exprParts)
    else return none
  | _ =>
    if d.hasGeometry && geometricTypes.contains k then return some (← value) else return none

/-- A word as a name, a call, or an introducer of a string. -/
def nameForm (g : Nested) (operand : Parser Expr) (name : Name) : Parser Expr := do
  let d ← dialect
  let joinSign := d.outerJoinSign && (← peek) == .symbol "(" && (← peekNth 1) == .symbol "+" &&
    (← peekNth 2) == .symbol ")"
  match ← peek with
  | .symbol "(" =>
    if joinSign then return { shape := .identifier name } else call g operand [name]
  | .string .single _ | .string .double _ | .string .hex _ =>
    if name.text.startsWith "_" then
      skip
      return {}
    else return { shape := .identifier name }
  | .symbol "->" =>
    if d.lambdas then
      skip
      return .ofParts (← g.exprParts)
    else return { shape := .identifier name }
  | _ => return { shape := .identifier name }

/-- COLLATE and a collation behind an operand. Among the options of a column it is one of them and
stays where it is. -/
def collated (e : Expr) (g : Nested) : Parser Expr := do
  if ← provided (!(← settingIs .columnOptions)) (word "COLLATE") then
    let _ ← objectName g
    return .ofParts e.parts
  else return e

/-- What a word begins: the form of its keyword, or a name if the form is not there or is not
completed. Behind a form not completed nothing is collated. -/
def wordOperand (g : Nested) (operand : Parser Expr) (name : Name) (k : String) :
    Parser Expr := do
  match ← outcome (keywordForm g operand name k) with
  | .ok (some e) => collated e g
  | .ok none => collated (← nameForm g operand name) g
  | .error e =>
    let reserved := reservedForName.contains k && !(k == "INTERVAL" && (← dialect).intervalMayBeName)
    if reserved then fail e
    else match ← outcome (nameForm g operand name) with
      | .ok named => return named
      | .error _ => fail e

/-- A function of several arguments in parentheses behind the opening one. -/
def lambda (g : Nested) : Parser Expr := do
  let _ ← identifiers
  expectSymbol ")"
  expectSymbol "->"
  return .ofParts (← g.exprParts)

/-- What an opening parenthesis begins. Behind a function nothing is collated. -/
def parenthesisOperand (g : Nested) : Parser Expr := do
  if ← peekAnyWord ["SELECT", "WITH"] then
    let q ← g.query
    expectSymbol ")"
    collated (.ofParts [.query q]) g
  else
    let found ← if (← dialect).lambdas then attempt (lambda g) else pure none
    match found with
    | some e => return e
    | none =>
      let es ← within .ordinary (itemParts g.exprParts)
      expectSymbol ")"
      collated (.ofParts es) g

/-- An operand without what may follow it. `fuel` bounds how many INTERVAL keywords stand in a
row. -/
def operandAt (g : Nested) : Nat → Parser Expr
  | 0 => fail .tooDeep
  | fuel + 1 => do
    let d ← dialect
    let operand := operandAt g fuel
    let typed : Parser Expr := do
      let type ← dataType g
      match type.shape with
      | .interval => interval g operand
      | .custom => refuse "dummy"
      | .builtin =>
        let _ ← value
        return .ofParts type.parts
    match ← attempt typed with
    | some e => return e
    | none =>
      let signed : Binding → Parser Expr := fun b => do
        let e ← g.subexpr (b.precedence d)
        collated (.ofParts e.parts) g
      let given : Parser Expr := do
        back
        collated (← value) g
      let t ← nextLocated
      match t.token with
      | .word text quote k => wordOperand g operand ⟨text, quote⟩ k
      | .string .escaped _ =>
        if d.escapeStringValues then given else unexpected "an expression" t
      | .number _ _ | .placeholder _ | .string _ _ | .dollarString _ _ | .symbol ":" => given
      | .symbol "[" => collated (← arrayElements g) g
      | .symbol "-" | .symbol "+" => signed .timesDivide
      | .symbol "!" => if d.bangNegates then signed .not else unexpected "an expression" t
      | .symbol "!!" | .symbol "|/" | .symbol "||/" | .symbol "~" =>
        if d = .postgres then signed .plusMinus else unexpected "an expression" t
      | .symbol "#" | .symbol "@-@" | .symbol "@@" | .symbol "?-" | .symbol "?|" =>
        if d.hasGeometry then signed .plusMinus else unexpected "an expression" t
      | .symbol "@" => if d = .postgres then signed .plusMinus else given
      | .symbol "(" => parenthesisOperand g
      | .symbol "\x7b" =>
        back
        collated (← braceExpr g operand) g
      | _ => unexpected "an expression" t

/-- An operand without what may follow it. -/
def operand (g : Nested) : Parser Expr := do
  operandAt g (← bound)

/-- The names of an expression that is a possibly qualified name. -/
def ExprShape.names? : ExprShape → Option (List Name)
  | .identifier n => some [n]
  | .compound ns => some ns
  | _ => none

/-- The shape of an expression followed by a period and another. -/
def ExprShape.dot (left right : ExprShape) : ExprShape :=
  match left.names?, right with
  | some ns, .identifier n => .compound (ns ++ [n])
  | some ns, .compound ms => .compound (ns ++ ms)
  | some ns, .call ms => .call (ns ++ ms)
  | some [_], .outerJoin => .outerJoin
  | _, _ => .other

/-- An operand and what has been read of the fields and subscripts behind it. -/
structure Access where
  expr : Expr
  /-- How many fields and subscripts there are. -/
  count : Nat := 0
  /-- Whether the last of them is a column with the sign of an outer join. -/
  joined : Bool := false
  /-- Whether they end in a star. -/
  starred : Bool := false

/-- The first token from a position on that opens no parenthesis. -/
def innerLocated (start : Nat) : Parser Located := do
  let i ← position
  moveTo start
  whileTrue (symbol "(")
  let t ← peekLocated
  moveTo i
  return t

/-- An operand with the fields and subscripts that follow it; `start` is the position where the
operand begins. -/
def withAccesses (g : Nested) (start : Nat) (root : Expr) : Parser Expr := do
  let d ← dialect
  let access ← loop { expr := root } fun (a : Access) => do
    let i ← position
    let e := a.expr
    if ← symbol "." then
      match ← peek with
      | .symbol "*" =>
        if d = .postgres then
          skip
          return .done { a with starred := true }
        else
          moveTo i
          return .done a
      | .string .single text =>
        skip
        let shape := e.shape.dot (.identifier ⟨text, some '\''⟩)
        return .again { expr := { e with shape := shape }, count := a.count + 1 }
      | _ =>
        let field ← g.subexpr (Binding.period.precedence d)
        let joined := match field.shape with
          | .outerJoin => true
          | _ => false
        return .again
          { expr := { shape := e.shape.dot field.shape, parts := e.parts ++ field.parts }
            count := a.count + 1
            joined := joined }
    else if ← provided (!d.partiql) (symbol "[") then
      let s ← subscript g
      return .again { expr := .ofParts (e.parts ++ s), count := a.count + 1 }
    else return .done a
  let last ← lastLocated
  let names := access.expr.shape.names?
  if access.starred then
    if names.isSome then return { shape := .qualifiedWildcard }
    else needed "an identifier or a '*' after '.'"
  else if ← provided d.outerJoinSign (symbols ["(", "+", ")"]) then
    if names.isSome then return { shape := .outerJoin }
    else unexpected "column identifier before (+)" last
  else if access.joined && access.count == 1 && root.shape.names?.isNone then
    fail (.refused "column identifier before (+)" (← innerLocated start).place)
  else return access.expr

/-! ## Operators -/

/-- Operators by which a value may be compared with any or all of a set. -/
def comparisons : List String :=
  ["=", "==", "<>", ">", "<", ">=", "<=", "~", "~*", "!~", "!~*", "~~", "~~*", "!~~", "!~~*"]

/-- The operators between two operands, by what they are written as. -/
def isPlainOperator (d : Dialect) (s : String) : Bool :=
  if s == "//" then d.isOneOf [.duckdb, .generic]
  else if s == "<<" || s == ">>" then d.shifts
  else if s == "#" then d.hasGeometry
  else if s == "&&" then d = .generic || d.hasGeometry || d.doubleAmpersand
  else if s == "^@" then d.isOneOf [.postgres, .generic]
  else if ["##", "&<", "&>", "<->", "<^", ">^", "?#", "?-", "?-|", "?||", "|&>", "|>>", "&<|",
    "<<|", "~=", "@"].contains s then d.hasGeometry
  else ["<=>", "==", ":=", "=", "<>", ">", ">=", "<", "<=", "+", "-", "*", "%", "||", "|", "^", "&",
    "/", "~", "~*", "!~", "!~*", "~~", "~~*", "!~~", "!~~*", "->", "->>", "#>", "#>>", "@>", "<@",
    "#-", "@?", "@@", "?", "?&", "?|"].contains s

/-- An expression followed by the operator written as `op`, behind the operator. -/
def plainOperation (g : Nested) (left : Expr) (op : String) (place : Option Position)
    (precedence : Nat) : Parser Expr := do
  if ← hasWord ["ANY", "ALL", "SOME"] then
    let i ← position
    expectSymbol "("
    let right ← if ← peekAnyWord ["SELECT", "WITH"] then do
        moveTo i
        g.subexpr precedence
      else do
        let e ← g.subexpr precedence
        expectSymbol ")"
        pure e
    if comparisons.contains op then return .ofParts (left.parts ++ right.parts)
    else
      fail (.refused ("Expected one of [=, >, <, =>, =<, !=, ~, ~*, !~, !~*, ~~, ~~*, !~~, !~~*] " ++
        "as comparison operator, found: " ++ op) place)
  else
    let right ← g.subexpr precedence
    let parts := left.parts ++ right.parts
    match left.shape, op with
    | .identifier n, "=" | .identifier n, "==" => return { shape := .equation n, parts := parts }
    | _, _ => return .ofParts parts

/-- What stands behind IS. -/
def isTest (g : Nested) (left : Expr) : Parser Expr := do
  if ← word "NULL" then return .ofParts left.parts
  else if ← words ["NOT", "NULL"] then return .ofParts left.parts
  else if ← words ["DISTINCT", "FROM"] then return .ofParts (left.parts ++ (← g.exprParts))
  else if ← words ["NOT", "DISTINCT", "FROM"] then return .ofParts (left.parts ++ (← g.exprParts))
  else if ← words ["NOT", "TRUE"] then return .ofParts left.parts
  else if ← words ["NOT", "FALSE"] then return .ofParts left.parts
  else if ← words ["NOT", "UNKNOWN"] then return .ofParts left.parts
  else if ← hasWord ["TRUE", "FALSE", "UNKNOWN"] then return .ofParts left.parts
  else
    let _ ← word "NOT"
    let _ ← anyWord ["NFC", "NFD", "NFKC", "NFKD"]
    if ← word "NORMALIZED" then return .ofParts left.parts
    else needed "[NOT] NULL | TRUE | FALSE | DISTINCT | [form] NORMALIZED FROM after IS"

/-- What stands behind IN. -/
def inTest (g : Nested) (left : Expr) : Parser Expr := do
  if ← word "UNNEST" then return .ofParts (left.parts ++ (← parens g.exprParts))
  expectSymbol "("
  let set ← match ← attempt g.query with
    | some q => pure [.query q]
    | none =>
      if (← dialect).emptyInList then do pure (← itemsOrNone ")" g.exprParts).flatten
      else itemParts g.exprParts
  expectSymbol ")"
  return .ofParts (left.parts ++ set)

/-- The tests that may be negated, from their first keyword on. -/
def negatableTest (g : Nested) (left : Expr) : Parser Expr := do
  let d ← dialect
  let negated ← word "NOT"
  let pattern : Parser Expr := do
    let e ← g.subexpr (Binding.like.precedence d)
    return .ofParts (left.parts ++ e.parts)
  let escaped : Parser Expr := do
    let e ← pattern
    if ← word "ESCAPE" then
      let _ ← value
    return e
  let regexp ← word "REGEXP"
  let rlike ← word "RLIKE"
  let null ← provided (!(← settingIs .columnOptions)) (word "NULL")
  if regexp || rlike then pattern
  else if negated && null then return .ofParts left.parts
  else if ← word "IN" then inTest g left
  else if ← word "BETWEEN" then
    let low ← g.subexpr (Binding.between.precedence d)
    expectWord "AND"
    let high ← g.subexpr (Binding.between.precedence d)
    return .ofParts (left.parts ++ low.parts ++ high.parts)
  else if ← hasWord ["LIKE", "ILIKE"] then
    let _ ← word "ANY"
    escaped
  else if ← words ["SIMILAR", "TO"] then escaped
  else needed "IN or BETWEEN after NOT"

/-- The name of an operator of the user's own between parentheses, as a message shows it. -/
def operatorName : Parser String := do
  expectSymbol "("
  let names ← loop [] fun (soFar : List String) => do
    let name := (← next).render
    if ← symbol "." then return .again (name :: soFar)
    else return .done (name :: soFar).reverse
  expectSymbol ")"
  return "(" ++ ".".intercalate names ++ ")"

/-- An expression followed by the operator that stands next. -/
def operation (g : Nested) (left : Expr) (precedence : Nat) : Parser Expr := do
  let d ← dialect
  let own := match d with
    | .mysql => ["DIV"]
    | .sqlite => ["REGEXP", "MATCH"]
    | _ => []
  if ← hasWord own then
    return .ofParts (left.parts ++ (← g.exprParts))
  let start ← position
  let t ← nextLocated
  let noRule : Parser Expr :=
    fail (.refused ("No infix parser for token " ++ t.token.describe) t.place)
  match t.token with
  | .customOperator s => plainOperation g left s t.place precedence
  | .symbol s =>
    if isPlainOperator d s then
      let shown := if s == "&&" && d.doubleAmpersand then "AND" else s
      plainOperation g left shown t.place precedence
    else if s == "::" then return .ofParts (left.parts ++ (← typeParts g))
    else if s == "!" && d.factorial then return .ofParts left.parts
    else if (s == "[" && d.partiql) || (s == ":" && d.isOneOf [.snowflake, .generic]) then
      moveTo start
      return .ofParts (left.parts ++ (← documentPath g))
    else noRule
  | .word _ _ k =>
    match k with
    | "AND" | "OR" | "XOR" | "OVERLAPS" => plainOperation g left k t.place precedence
    | "OPERATOR" =>
      if d.isOneOf [.postgres, .generic] then
        let name ← operatorName
        plainOperation g left (k ++ name) t.place precedence
      else noRule
    | "IS" => isTest g left
    | "AT" =>
      expectWords ["TIME", "ZONE"]
      let zone ← g.subexpr precedence
      return .ofParts (left.parts ++ zone.parts)
    | "NOT" | "IN" | "BETWEEN" | "LIKE" | "ILIKE" | "SIMILAR" | "REGEXP" | "RLIKE" =>
      moveTo start
      negatableTest g left
    | "NOTNULL" => if d.notNullTest then return .ofParts left.parts else noRule
    | "MEMBER" =>
      if ← word "OF" then return .ofParts (left.parts ++ (← parens g.exprParts))
      else needed "OF after MEMBER"
    | _ => noRule
  | _ => noRule

/-- An expression whose operators bind more tightly than `precedence`. -/
def subexpression (g : Nested) (precedence : Nat) : Parser Expr := do
  let start ← position
  let root ← operand g
  let first ← withAccesses g start root
  loop first fun (e : Expr) => do
    let p ← nextPrecedence
    if p ≤ precedence || (← peekSymbol ".") then return .done e
    else return .again (← operation g e p)

end QueryGuard.Sql.Grammar
