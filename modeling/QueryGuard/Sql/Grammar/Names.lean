import QueryGuard.Dialect.Features
import QueryGuard.Sql.Keyword
import QueryGuard.Sql.Parser
import QueryGuard.Sql.Script

/-!
Names, aliases, lists and literals: the rules that need no others.

Nearly every keyword may be a name. What keeps a keyword from being taken for an alias without AS
are the lists below; some dialects judge by what stands behind the word.
-/

namespace QueryGuard.Sql.Grammar

open Sql.Parser

/-- A name and the quote it was written in. -/
structure Name where
  text : String
  quote : Option Char := none
deriving DecidableEq, Repr

/-- How a message or a name made of others shows a name. -/
def Name.shown (n : Name) : String :=
  match n.quote with
  | none => n.text
  | some '[' => "[" ++ n.text ++ "]"
  | some q => Text.enclosed q n.text

/-- What an expression is, as far as the rule around it needs to know. -/
inductive ExprShape where
  | wildcard
  | qualifiedWildcard
  | identifier (name : Name)
  | compound (names : List Name)
  | literal (text : String)
  /-- A call of the function with the given name. -/
  | call (names : List Name)
  /-- An equation whose left side is a name. -/
  | equation (left : Name)
  | outerJoin
  | other

/-- An expression: its shape, and what a reader meets in it. -/
structure Expr where
  shape : ExprShape := .other
  parts : List Part := []

/-- The rules that nest, at one level of nesting less. -/
structure Nested where
  statement : Parser Statement
  query : Parser Query
  /-- An expression whose operators bind more tightly than the given precedence. -/
  subexpr : Nat → Parser Expr
  /-- A column of a table definition. -/
  columnDef : Parser (List Part)

namespace Nested

/-- An expression. -/
def expr (g : Nested) : Parser Expr :=
  g.subexpr 0

/-- What a reader meets in an expression. -/
def exprParts (g : Nested) : Parser (List Part) := do
  return (← g.expr).parts

/-- A query as the one thing a reader meets. -/
def queryParts (g : Nested) : Parser (List Part) := do
  return [.query (← g.query)]

/-- A statement as the one thing a reader meets. -/
def statementParts (g : Nested) : Parser (List Part) := do
  return [.statement (← g.statement)]

end Nested

/-! ## Reserved words -/

/-- Keywords that are no alias of a table without AS. -/
def reservedForTableAlias : List String :=
  ["WITH", "EXPLAIN", "ANALYZE", "SELECT", "WHERE", "GROUP", "SORT", "HAVING", "ORDER", "PIVOT",
   "UNPIVOT", "TOP", "LATERAL", "VIEW", "LIMIT", "OFFSET", "FETCH", "UNION", "EXCEPT", "INTERSECT",
   "MINUS", "ON", "JOIN", "INNER", "CROSS", "FULL", "LEFT", "RIGHT", "NATURAL", "USING", "CLUSTER",
   "DISTRIBUTE", "GLOBAL", "ANTI", "SEMI", "RETURNING", "ASOF", "MATCH_CONDITION", "OUTER", "SET",
   "QUALIFY", "WINDOW", "END", "FOR", "PARTITION", "PREWHERE", "SETTINGS", "FORMAT", "START",
   "CONNECT", "MATCH_RECOGNIZE", "SAMPLE", "TABLESAMPLE", "FROM", "OPEN"]

/-- Keywords that are no alias of a column without AS. -/
def reservedForColumnAlias : List String :=
  ["WITH", "EXPLAIN", "ANALYZE", "SELECT", "WHERE", "GROUP", "SORT", "HAVING", "ORDER", "TOP",
   "LATERAL", "VIEW", "LIMIT", "OFFSET", "FETCH", "UNION", "EXCEPT", "EXCLUDE", "INTERSECT",
   "MINUS", "CLUSTER", "DISTRIBUTE", "RETURNING", "FROM", "INTO", "END"]

/-- Keywords that name no table. -/
def reservedForTable : List String :=
  ["INTO", "LIMIT", "HAVING", "WHERE"]

/-- Keywords that are no name when they open an expression of their own. -/
def reservedForName : List String :=
  ["EXISTS", "INTERVAL", "STRUCT", "TRIM"]

/-- Whether what stands next can follow LIMIT, OFFSET or FETCH. -/
def limitOptionNext : Parser Bool := do
  match ← peek with
  | .number _ _ | .placeholder _ => return true
  | .string .single text => return text.isEmpty
  | .dollarString text _ => return text.isEmpty
  | t => return t.keyword == "NULL"

/-- Whether a keyword may be an alias of a column without AS. -/
def mayAliasColumn (k : String) : Parser Bool := do
  match ← dialect with
  | .snowflake =>
    let next ← peek
    let last := next == .symbol "," || next == .eof
    match k with
    | "EXCEPT" | "RETURNING" => return last
    | "LIMIT" | "OFFSET" => return !(← limitOptionNext)
    | "FETCH" => return !((← peekAnyWord ["FIRST", "NEXT"]) || (← limitOptionNext))
    | _ =>
      return k ∉ ["FROM", "GROUP", "HAVING", "INTERSECT", "INTO", "MINUS", "ORDER", "SELECT", "UNION",
        "WHERE", "WITH"]
  | .bigquery =>
    return k ∉ ["WITH", "SELECT", "WHERE", "GROUP", "HAVING", "ORDER", "LATERAL", "LIMIT", "FETCH",
      "UNION", "EXCEPT", "INTERSECT", "FROM", "INTO", "END"]
  | .mssql => return !reservedForColumnAlias.contains k && k != "IF" && k != "ELSE"
  | _ => return !reservedForColumnAlias.contains k

/-- Whether a keyword may be an alias of a table without AS. -/
def mayAliasTable (k : String) : Parser Bool := do
  match ← dialect with
  | .snowflake =>
    let next ← peek
    let last := next == .symbol ";" || next == .eof
    match k with
    | "RETURNING" | "PIVOT" | "UNPIVOT" | "EXCEPT" | "MATCH_RECOGNIZE" => return last
    | "LIMIT" | "OFFSET" => return !(← limitOptionNext)
    | "FETCH" => return !((← peekAnyWord ["FIRST", "NEXT"]) || (← limitOptionNext))
    | "SEMI" | "ANTI" => return !(← peekAnyWord ["JOIN", "OUTER"])
    | "GLOBAL" => return !(← peekWord "FULL")
    | _ =>
      return k ∉ ["WITH", "ORDER", "SELECT", "WHERE", "GROUP", "HAVING", "LATERAL", "UNION",
        "INTERSECT", "MINUS", "ON", "JOIN", "INNER", "CROSS", "FULL", "LEFT", "RIGHT", "NATURAL",
        "USING", "ASOF", "MATCH_CONDITION", "SET", "QUALIFY", "FOR", "START", "CONNECT", "SAMPLE", "TABLESAMPLE",
        "FROM"]
  | .mysql =>
    return !reservedForTableAlias.contains k &&
      k ∉ ["USE", "IGNORE", "FORCE", "STRAIGHT_JOIN"]
  | _ => return !reservedForTableAlias.contains k

/-- Whether a keyword may name a table; what stands next is behind the keyword. -/
def mayNameTable (k : String) : Parser Bool := do
  match ← dialect with
  | .snowflake =>
    if k == "LIMIT" && (← limitOptionNext) then return false
    else if k == "TABLE" && (← peekSymbol "(") then return true
    else
      return k ∉ ["ALL", "ALTER", "AND", "ANY", "AS", "BETWEEN", "BY", "CHECK", "COLUMN", "CONNECT",
        "CREATE", "CROSS", "CURRENT", "DELETE", "DISTINCT", "DROP", "ELSE", "EXISTS", "FOLLOWING",
        "FOR", "FROM", "FULL", "GRANT", "GROUP", "HAVING", "ILIKE", "IN", "INCREMENT", "INNER",
        "INSERT", "INTERSECT", "INTO", "IS", "JOIN", "LEFT", "LIKE", "MINUS", "NATURAL", "NOT",
        "NULL", "OF", "ON", "OR", "ORDER", "QUALIFY", "REGEXP", "REVOKE", "RIGHT", "RLIKE", "ROW",
        "ROWS", "SAMPLE", "SELECT", "SET", "SOME", "START", "TABLE", "TABLESAMPLE", "THEN", "TO",
        "TRIGGER", "UNION", "UNIQUE", "UPDATE", "USING", "VALUES", "WHEN", "WHENEVER", "WHERE",
        "WITH"]
  | _ => return !reservedForTable.contains k

/-! ## Lists -/

/-- Whether a list is over: no comma comes next, or the comma is its last and nothing follows. -/
def listIsOver (trailing : Bool) (closes : String → Parser Bool) : Parser Bool := do
  if !(← symbol ",") then return true
  else if trailing then
    let i ← position
    let t ← next
    let ended ← match t with
      | .word _ _ k => closes k
      | .symbol s => pure ([")", ";", "]", "\x7d"].contains s)
      | .eof => pure true
      | _ => pure false
    moveTo i
    return ended
  else return false

/-- One or more items between commas, where the list may end in a comma if `trailing`. -/
def itemsWith (trailing : Bool) (closes : String → Parser Bool) (p : Parser α) : Parser (List α) :=
  loop [] fun soFar => do
    let a ← p
    if ← listIsOver trailing closes then return .done (a :: soFar).reverse
    else return .again (a :: soFar)

/-- One or more items between commas, where a keyword that is no alias of a column closes a list
that may end in a comma. -/
def itemsTrailing (trailing : Bool) (p : Parser α) : Parser (List α) :=
  itemsWith trailing (fun k => do return !(← mayAliasColumn k)) p

/-- One or more items between commas. -/
def items (p : Parser α) : Parser (List α) := do
  itemsTrailing (← dialect).trailingCommas p

/-- Items between commas up to the symbol that closes them; there may be none. -/
def itemsOrNone (close : String) (p : Parser α) : Parser (List α) := do
  if ← peekSymbol close then return []
  else if (← dialect).trailingCommas && (← peekSymbol ",") && (← peekNth 1) == .symbol close then
    skip
    return []
  else items p

/-- What a reader meets in one or more items between commas. -/
def itemParts (p : Parser (List Part)) : Parser (List Part) := do
  return (← items p).flatten

/-! ## Names -/

/-- A name. -/
def identifier : Parser Name := do
  let t ← nextLocated
  match t.token with
  | .word text quote _ => return ⟨text, quote⟩
  | .string .single text => return ⟨text, some '\''⟩
  | .string .double text => return ⟨text, some '"'⟩
  | _ => unexpected "identifier" t

/-- A name if the next token is a word. -/
def optionalWord : Parser (Option Name) := do
  match ← peek with
  | .word text quote _ =>
    skip
    return some ⟨text, quote⟩
  | _ => return none

/-- One or more names between commas. -/
def identifiers : Parser (List Name) :=
  items identifier

/-- Takes everything up to an equals sign, a semicolon, a pipe or the end. -/
def restOfNames : Parser Unit :=
  whileTrue do
    match ← peek with
    | .eof | .symbol "=" | .symbol ";" | .symbol "|>" => return false
    | _ =>
      skip
      return true

/-- A list in parentheses; if `required` it must be there, and only if `mayBeEmpty` it may hold
nothing. -/
def parenthesised (required mayBeEmpty : Bool) (p : Parser α) : Parser (List α) := do
  if ← symbol "(" then
    if mayBeEmpty && (← peekSymbol ")") then
      skip
      return []
    else
      let xs ← items p
      expectSymbol ")"
      return xs
  else if required then needed "a list of columns in parentheses"
  else return []

/-- A list of column names in parentheses. -/
def columnList (required mayBeEmpty : Bool) : Parser (List Name) :=
  parenthesised required mayBeEmpty identifier

/-- An alias, where words without AS are judged by `mayAlias`. -/
def aliasJudgedBy (mayAlias : String → Parser Bool) : Parser (Option Name) := do
  let afterAs ← word "AS"
  let i ← position
  let t ← nextLocated
  match t.token with
  | .word text quote k =>
    if afterAs || (← mayAlias k) then return some ⟨text, quote⟩
    else
      moveTo i
      return none
  | .string .single text => return some ⟨text, some '\''⟩
  | .string .double text => return some ⟨text, some '"'⟩
  | _ =>
    if afterAs then unexpected "an identifier after AS" t
    else
      moveTo i
      return none

/-- An alias of a selected item. -/
def columnAlias : Parser (Option Name) :=
  aliasJudgedBy mayAliasColumn

/-- An alias that is none of the given keywords. -/
def aliasOutside (reserved : List String) : Parser (Option Name) :=
  aliasJudgedBy fun k => pure (!reserved.contains k)

/-! ## Literals -/

/-- The text of a string literal, which it must be. -/
def literalString : Parser String := do
  let t ← nextLocated
  match t.token with
  | .word text _ _ => if t.token.isKeyword then unexpected "literal string" t else return text
  | .string .single text | .string .double text | .string .unicode text => return text
  | .string .escaped text =>
    if (← dialect).escapeStringValues then return text else unexpected "literal string" t
  | _ => unexpected "literal string" t

/-- The kinds of whole numbers a rule can ask for. -/
inductive IntegerKind where
  | unsigned32 | unsigned64 | signed64

namespace IntegerKind

/-- The name of a kind in messages. -/
def label : IntegerKind → String
  | unsigned32 => "u32"
  | unsigned64 => "u64"
  | signed64 => "i64"

/-- The largest number of a kind. -/
def largest : IntegerKind → Nat
  | unsigned32 => 0xFFFF_FFFF
  | unsigned64 => 0xFFFF_FFFF_FFFF_FFFF
  | signed64 => 0x7FFF_FFFF_FFFF_FFFF

/-- Why the rest of a text is no number of the kind, given the value of what stands before it. -/
def complaintFrom (kind : IntegerKind) : Nat → List Char → Option String
  | _, [] => none
  | value, c :: cs =>
    if !c.isDigit then some "invalid digit found in string"
    else
      let longer := 10 * value + (c.toNat - '0'.toNat)
      if longer > kind.largest then some "number too large to fit in target type"
      else complaintFrom kind longer cs

/-- Refuses the text of a number that is no whole number of the kind. -/
def check (kind : IntegerKind) (text : String) (place : Option Position) : Parser Unit :=
  match complaintFrom kind 0 text.toList with
  | none => pure ()
  | some why =>
    fail (.refused ("Could not parse '" ++ text ++ "' as " ++ kind.label ++ ": " ++ why) place)

end IntegerKind

/-- An unsigned number, as it is written. -/
def literalUnsigned : Parser String := do
  let t ← nextLocated
  match t.token with
  | .number text _ =>
    IntegerKind.unsigned64.check text t.place
    return text
  | _ => unexpected "literal int" t

/-- An unsigned number of which nothing more is needed. -/
def someUnsigned : Parser Unit := do
  let _ ← literalUnsigned

/-- An integer with an optional sign, as it is written without a plus. -/
def literalInteger : Parser String := do
  let negative ← symbol "-"
  unless negative do let _ ← symbol "+"
  let t ← peekLocated
  match t.token with
  | .number text _ =>
    skip
    IntegerKind.signed64.check text t.place
    return (if negative then "-" ++ text else text)
  | _ => unexpected "number" t

/-- The text of a literal and of those behind it that belong to it. -/
def adjoined (text : String) : Parser String := do
  if (← dialect).adjacentStrings then
    loop text fun soFar => do
      match ← peek with
      | .string .single more | .string .double more =>
        skip
        return .again (soFar ++ more)
      | _ => return .done soFar
  else return text

/-- A literal value. -/
def value : Parser Expr := do
  let t ← nextLocated
  match t.token with
  | .word text quote k =>
    if k == "NULL" then return { shape := .literal "NULL" }
    else if (k == "TRUE" || k == "FALSE") && (← dialect).booleanLiterals then
      return { shape := .literal k.toLower }
    else match quote with
      | some '"' => return { shape := .literal (Text.enclosed '"' text) }
      | some _ => unexpected "A value?" t
      | none => unexpected "a concrete value" t
  | .number text long => return { shape := .literal (if long then text ++ "L" else text) }
  | .string .single text => return { shape := .literal (Text.enclosed '\'' (← adjoined text)) }
  | .string .double text => return { shape := .literal (Text.enclosed '"' (← adjoined text)) }
  | .string _ _ | .dollarString _ _ => return { shape := .literal t.token.render }
  | .placeholder text => return { shape := .literal text }
  | .symbol s =>
    if s == ":" || s == "@" then
      let n ← nextRaw
      match n.token with
      | .word text _ _ => return { shape := .literal (s ++ text) }
      | .number text false => return { shape := .literal (s ++ text) }
      | _ => unexpected "placeholder" n
    else unexpected "a value" t
  | _ => unexpected "a value" t

/-- A number or a placeholder. -/
def numberValue : Parser Unit := do
  let t ← peekLocated
  let v ← value
  match t.token, v.shape with
  | .number _ _, _ => pure ()
  | .placeholder _, _ => pure ()
  | .symbol _, _ => pure ()
  | _, _ => do
    back
    needed "literal number"

end QueryGuard.Sql.Grammar
