import QueryGuard.Sql.Grammar.Names

/-!
Possibly qualified names, the arguments of calls, and expressions that may be a wildcard.
-/

namespace QueryGuard.Sql.Grammar

open Sql.Parser

/-- The names behind the first one of a qualified wildcard, each after a period, up to the star;
nothing if the last of them is no star. -/
def wildcardTail : Parser Bool :=
  loop () fun _ => do
    if ← symbol "." then
      let t ← nextLocated
      match t.token with
      | .word _ _ _ | .string .single _ => return .again ()
      | .symbol "*" => return .done true
      | _ => unexpected "an identifier or a '*' after '.'" t
    else return .done false

/-- An expression, a star, or a qualified star. -/
def wildcardExpr (g : Nested) : Parser Expr := do
  let i ← position
  match ← next with
  | .word _ _ _ | .string .single _ =>
    if ← wildcardTail then return { shape := .qualifiedWildcard }
    else
      moveTo i
      g.expr
  | .symbol "*" => return { shape := .wildcard }
  | _ =>
    moveTo i
    g.expr

/-- The sign between the name and the value of a named argument. -/
def argumentSign : Parser Unit := do
  let d ← dialect
  if ← word "VALUE" then return
  let t ← peekLocated
  match t.token with
  | .symbol "=>" => if d.arrowArguments then skip else unexpected "argument operator" t
  | .symbol "=" => if d.equatedArguments then skip else unexpected "argument operator" t
  | .symbol ":=" => if d.assignedArguments then skip else unexpected "argument operator" t
  | .symbol ":" => if d.colonArguments then skip else unexpected "argument operator" t
  | _ => unexpected "argument operator" t

/-- One argument of a call, named or not. -/
def argument (g : Nested) : Parser Expr := do
  let named : Parser Expr := do
    let name ← if (← dialect).expressionArgumentNames then g.expr
      else do
        let n ← identifier
        pure { shape := .identifier n }
    argumentSign
    let v ← wildcardExpr g
    return { parts := name.parts ++ v.parts }
  match ← attempt named with
  | some e => return e
  | none => wildcardExpr g

/-- What a reader meets in one argument of a call. -/
def argumentParts (g : Nested) : Parser (List Part) := do
  return (← argument g).parts

/-- How a simple expression is shown. -/
def Expr.text (e : Expr) : String :=
  match e.shape with
  | .literal text => text
  | .identifier name => name.shown
  | .compound names => ".".intercalate (names.map Name.shown)
  | _ => ""

/-- A part of a name that continues over dashes, and whether a period has been read behind it. With
a number at its end it must be the last of the text or stand before a period. -/
def dashedName : Parser (String × Bool) := do
  match ← peek with
  | .word text none _ =>
    skip
    let (full, closed, numeric) ← loop (text, false) fun (soFar, numeric) => do
      if (← peekRaw) == .symbol "-" then
        let _ ← nextRaw
        let t ← nextRaw
        match t.token with
        | .word more none _ => return .again (soFar ++ "-" ++ more, false)
        | .number digits false =>
          let cs := digits.toList
          if cs.getLast? == some '.' then
            let whole := cs.dropLast
            if whole.isEmpty || !whole.all Char.isDigit then
              unexpected "continuation of hyphenated identifier" t
            else return .done (soFar ++ "-" ++ String.ofList whole, true, false)
          else return .again (soFar ++ "-" ++ digits, !(← peekSymbol "."))
        | _ => unexpected "continuation of hyphenated identifier" t
      else return .done (soFar, false, numeric)
    if numeric then
      let t ← nextLocated
      if t.token != .eof then unexpected "whitespace following hyphenated identifier" t
    return (full, closed)
  | _ => return ((← identifier).text, false)

/-- Cuts a name at its periods. -/
def splitAtPeriods (text : String) : List String :=
  text.splitOn "."

/-- A name whose parts may hold dashes; a quoted part with periods counts as several. -/
def dashedObjectName : Parser ObjectName := do
  let parts ← loop [] fun (soFar : List String) => do
    let (part, closed) ← dashedName
    if (← symbol ".") || closed then return .again (part :: soFar)
    else return .done (part :: soFar).reverse
  return parts.flatMap splitAtPeriods

/-- A possibly qualified name. With `stars` a part may be a star. -/
def plainObjectName (g : Nested) (stars : Bool) : Parser ObjectName := do
  let d ← dialect
  let parts ← loop ([], false) fun ((soFar, called) : List String × Bool) => do
    let (part, calls) ←
      if stars && (← peekSymbol "*") then
        skip
        pure ("*", called)
      else if d.doublePeriodNames && soFar.length == 1 && (← peekSymbol ".") then pure ("", called)
      else
        let n ← identifier
        if d == .snowflake && n.quote.isNone && !called && n.text.toLower == "identifier" then
          expectSymbol "("
          let args ← itemsOrNone ")" (argument g)
          expectSymbol ")"
          pure (n.text ++ "(" ++ ", ".intercalate (args.map Expr.text) ++ ")", true)
        else pure (n.text, called)
    if ← symbol "." then return .again (part :: soFar, calls)
    else return .done (part :: soFar).reverse
  if d == .bigquery then return parts.flatMap splitAtPeriods else return parts

/-- A possibly qualified name. -/
def objectName (g : Nested) : Parser ObjectName :=
  plainObjectName g false

/-- The name of a table in FROM. -/
def tableName (g : Nested) : Parser ObjectName := do
  if (← dialect) == .bigquery then dashedObjectName else objectName g

/-- A possibly qualified name as a relation that a reader meets. -/
def relation (g : Nested) : Parser (List Part) := do
  return [.relation (← objectName g)]

end QueryGuard.Sql.Grammar
