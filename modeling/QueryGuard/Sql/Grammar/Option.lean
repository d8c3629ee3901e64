import QueryGuard.Sql.Grammar.ObjectName

/-!
Options of statements: lists in parentheses, settings of tables, keys with values, and the small
clauses that many statements share.
-/

namespace QueryGuard.Sql.Grammar

open Sql.Parser

/-- IF NOT EXISTS, if it comes next. -/
def ifNotExists : Parser Unit := do
  let _ ← words ["IF", "NOT", "EXISTS"]

/-- IF EXISTS, if it comes next. -/
def ifExists : Parser Unit := do
  let _ ← words ["IF", "EXISTS"]

/-- CASCADE or RESTRICT, if one comes next. -/
def dropBehavior : Parser Unit := do
  let _ ← anyWord ["CASCADE", "RESTRICT"]

/-- A possibly qualified name of which nothing more is needed. -/
def someName (g : Nested) : Parser Unit := do
  let _ ← objectName g

/-- A name of which nothing more is needed. -/
def someIdentifier : Parser Unit := do
  let _ ← identifier

/-- A string literal of which nothing more is needed. -/
def someString : Parser Unit := do
  let _ ← literalString

/-- The name of a table that a statement creates. -/
def createdName (g : Nested) : Parser ObjectName :=
  tableName g

/-- The name of an object that may be left unnamed: where no name stands, what stands there is passed
over. -/
def nameIfAny (g : Nested) : Parser Unit := do
  match ← attempt (createdName g) with
  | some _ => pure ()
  | none =>
    whileTrue do
      match ← next with
      | .word _ _ _ | .string .single _ | .string .double _ => symbol "."
      | _ => return false

/-- ON CLUSTER, if it comes next. -/
def onCluster : Parser Unit := do
  if ← words ["ON", "CLUSTER"] then someIdentifier

/-- A number that may have a sign. -/
def signedNumber : Parser Unit := do
  unless ← symbol "+" do
    let _ ← symbol "-"
  numberValue

/-- A string of a single character. -/
def literalChar : Parser Unit := do
  let text ← literalString
  if text.utf8ByteSize != 1 then
    back
    refuseHere ("Expect a char, found " ++ Text.quoted text)

/-! ## Options in parentheses -/

/-- The partition of a table among its options. -/
def partitionOption (g : Nested) : Parser (List Part) := do
  expectWord "PARTITION"
  expectSymbol "("
  someIdentifier
  expectWord "RANGE"
  let _ ← anyWord ["LEFT", "RIGHT"]
  expectWords ["FOR", "VALUES"]
  expectSymbol "("
  let bounds ← itemParts g.exprParts
  expectSymbol ")"
  expectSymbol ")"
  return bounds

/-- The clustered index of a table among its options. -/
def clusteredOption : Parser (List Part) := do
  if ← words ["CLUSTERED", "COLUMNSTORE", "INDEX", "ORDER"] then
    let _ ← columnList true false
    return []
  else if ← words ["CLUSTERED", "COLUMNSTORE", "INDEX"] then return []
  else if ← words ["CLUSTERED", "INDEX"] then
    expectSymbol "("
    let _ ← items do
      someIdentifier
      let _ ← anyWord ["ASC", "DESC"]
    expectSymbol ")"
    return []
  else refuse "invalid CLUSTERED sequence"

/-- One option: a name, an equals sign and an expression. -/
def sqlOption (g : Nested) : Parser (List Part) := do
  let special ← dialectIn [.mssql, .generic]
  match (← peek).keyword, special with
  | "HEAP", true =>
    skip
    return []
  | "PARTITION", true => partitionOption g
  | "CLUSTERED", true => clusteredOption
  | _, _ =>
    someIdentifier
    expectSymbol "="
    g.exprParts

/-- Options in parentheses behind keywords; nothing if the keywords do not come. -/
def optionsAfter (g : Nested) (ks : List String) : Parser (Option (List Part)) := do
  if ← words ks then
    expectSymbol "("
    let options ← itemsOrNone ")" (sqlOption g)
    expectSymbol ")"
    if options.isEmpty then return none else return some options.flatten
  else return none

/-- What a reader meets in options in parentheses behind keywords. -/
def optionParts (g : Nested) (ks : List String) : Parser (List Part) := do
  return (← optionsAfter g ks).getD []

/-- Properties in parentheses behind keywords, of which there is at least one; nothing if the
keywords do not come. -/
def propertiesAfter (g : Nested) (ks : List String) : Parser (Option (List Part)) := do
  optional (words ks) (parens (itemParts (sqlOption g)))

/-- The options of a utility in parentheses: names that may have a value. -/
def utilityOptions (g : Nested) : Parser (List Part) := do
  expectSymbol "("
  let options ← itemParts do
    someIdentifier
    if (← peekSymbol ",") || (← peekSymbol ")") then return []
    else g.exprParts
  expectSymbol ")"
  return options

/-! ## Keys with values -/

/-- The value behind a key. -/
def keyValue : Parser Unit := do
  expectSymbol "="
  match ← next with
  | .string .single _ | .word _ _ _ | .number _ _ => pure ()
  | _ => needed "expected option value"

/-- Keys with values up to the end of the text or one of the given keywords. -/
def keyValues (ends : List String) : Parser Unit :=
  whileTrue do
    let i ← position
    match ← next with
    | .eof => return false
    | .symbol "," => return true
    | .symbol ")" => needed " another option or EOF"
    | .word _ _ k =>
      if ends.contains k then
        moveTo i
        return false
      else
        keyValue
        return true
    | _ => needed "another option, EOF, Comma or ')'"

/-- Keys with values in parentheses. -/
def keyValuesInParens : Parser Unit := do
  expectSymbol "("
  whileTrue do
    match ← next with
    | .symbol ")" | .eof => return false
    | .symbol "," => return true
    | .word _ _ _ =>
      keyValue
      return true
    | _ => needed "another option, EOF, Comma or ')'"

/-- The text of a comment. -/
def commentText : Parser Unit := do
  let t ← nextLocated
  match t.token with
  | .string .single _ | .dollarString _ _ => pure ()
  | _ => unexpected "string literal" t

/-- A comment behind COMMENT, if it comes next. -/
def inlineComment : Parser Unit := do
  if ← word "COMMENT" then
    let _ ← symbol "="
    commentText

/-- Tags in parentheses: names with strings. -/
def tags (g : Nested) : Parser Unit := do
  expectSymbol "("
  let _ ← items do
    someName g
    expectSymbol "="
    someString
  expectSymbol ")"

end QueryGuard.Sql.Grammar
