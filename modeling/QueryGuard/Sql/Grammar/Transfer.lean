import QueryGuard.Sql.Grammar.Session

/-!
Statements that move data in and out: COPY, UNLOAD, EXPORT and LOAD, and the commands on staged
files.
-/

namespace QueryGuard.Sql.Grammar

open Sql.Parser

/-! ## COPY -/

/-- An option of COPY in parentheses. -/
def copyOption : Parser Unit := do
  match ← anyWord ["FORMAT", "FREEZE", "DELIMITER", "NULL", "HEADER", "QUOTE", "ESCAPE", "FORCE_QUOTE",
      "FORCE_NOT_NULL", "FORCE_NULL", "ENCODING"] with
  | some "FORMAT" => someIdentifier
  | some "FREEZE" | some "HEADER" =>
    let _ ← anyWord ["TRUE", "FALSE"]
  | some "DELIMITER" | some "QUOTE" | some "ESCAPE" => literalChar
  | some "NULL" | some "ENCODING" => someString
  | some _ =>
    let _ ← columnList true false
  | none => needed "option"

/-- The role that reads or writes files. -/
def fileRole : Parser Unit := do
  unless ← word "DEFAULT" do someString

/-- An option behind CSV. -/
def csvOption : Parser Unit := do
  if ← word "HEADER" then pure ()
  else if ← hasWord ["QUOTE", "ESCAPE"] then
    let _ ← word "AS"
    literalChar
  else if ← anyWords [["FORCE", "NOT", "NULL"], ["FORCE", "QUOTE"]] then
    let _ ← identifiers
  else needed "csv option"

/-- Options of COPY that stand alone. -/
def plainCopyOptions : List String :=
  ["ACCEPTANYDATE", "ADDQUOTES", "ALLOWOVERWRITE", "BINARY", "BLANKSASNULL", "BZIP2", "CLEANPATH",
   "EMPTYASNULL", "ESCAPE", "GZIP", "HEADER", "PARQUET", "REMOVEQUOTES", "TRUNCATECOLUMNS", "ZSTD"]

/-- Options of COPY with a string behind an optional AS. -/
def stringCopyOptions : List String :=
  ["NULL", "REGION"]

/-- Options of COPY that may have a string behind an optional AS. -/
def optionalStringCopyOptions : List String :=
  ["ACCEPTINVCHARS", "DATEFORMAT", "JSON", "TIMEFORMAT"]

/-- An option of COPY without parentheses. -/
def bareCopyOption : Parser Unit := do
  if ← word "FORMAT" then
    let _ ← word "AS"
  let k := (← next).keyword
  if plainCopyOptions.contains k then return
  else if stringCopyOptions.contains k then
    let _ ← word "AS"
    someString
  else if optionalStringCopyOptions.contains k then
    let _ ← word "AS"
    match ← peek with
    | .string .single _ => skip
    | _ => pure ()
  else
    match k with
    | "COMPUPDATE" =>
      let _ ← word "PRESET"
      let _ ← anyWord ["TRUE", "FALSE", "ON", "OFF"]
    | "CSV" =>
      let _ ← many (attempt csvOption)
    | "DELIMITER" =>
      let _ ← word "AS"
      literalChar
    | "ENCRYPTED" =>
      let _ ← word "AUTO"
    | "EXTENSION" | "FIXEDWIDTH" => someString
    | "IAM_ROLE" => fileRole
    | "IGNOREHEADER" =>
      let _ ← word "AS"
      someUnsigned
    | "MANIFEST" =>
      let _ ← word "VERBOSE"
    | "MAXFILESIZE" | "ROWGROUPSIZE" =>
      let _ ← word "AS"
      numberValue
      let _ ← anyWord ["MB", "GB"]
    | "PARALLEL" | "STATUPDATE" =>
      let _ ← anyWord ["TRUE", "FALSE", "ON", "OFF"]
    | "PARTITION" =>
      expectWord "BY"
      let _ ← columnList true false
      let _ ← word "INCLUDE"
    | _ =>
      back
      needed "option"

/-- Rows given in the script itself, up to a backslash and a period or the end. -/
def inlineRows : Parser Unit :=
  whileTrue do
    let t ← nextRaw
    match t.token with
    | .eof => return false
    | .symbol "\\" =>
      if ← symbol "." then return false
      else
        skip
        return true
    | _ => return true

/-- COPY behind its keyword. -/
def copy (g : Nested) : Parser Statement := do
  let (source, parts) ← if ← symbol "(" then do
      let q ← g.queryParts
      expectSymbol ")"
      pure (none, q)
    else do
      let name ← objectName g
      let _ ← columnList false false
      pure (some name, [])
  let reading ← match ← anyWord ["FROM", "TO"] with
    | some k => pure (k == "FROM")
    | none => needed "FROM or TO"
  if reading && source.isNone then refuse "COPY ... FROM does not support query as a source"
  let fromScript ← if ← word "STDIN" then pure true
    else do
      unless ← word "STDOUT" do
        let _ ← word "PROGRAM"
        someString
      pure false
  let _ ← word "WITH"
  if ← symbol "(" then
    let _ ← items copyOption
    expectSymbol ")"
  let _ ← many (attempt bareCopyOption)
  if fromScript then
    expectSymbol ";"
    inlineRows
  return .plain (.copy source) parts

/-- UNLOAD behind its keyword. -/
def unload (g : Nested) : Parser Statement := do
  expectSymbol "("
  let source ← match ← peek with
    | .string .single _ => do
      skip
      pure []
    | _ => g.queryParts
  expectSymbol ")"
  expectWord "TO"
  someIdentifier
  if ← word "IAM_ROLE" then fileRole
  let options ← optionParts g ["WITH"]
  let _ ← many (attempt bareCopyOption)
  return .plain (.other "UNLOAD") (source ++ options)

/-- EXPORT behind its keyword. -/
def exportData (g : Nested) : Parser Statement := do
  expectWord "DATA"
  if ← words ["WITH", "CONNECTION"] then someName g
  expectWord "OPTIONS"
  let options ← parens (itemParts (sqlOption g))
  expectWord "AS"
  let q ← g.queryParts
  return .plain (.other "EXPORT") (options ++ q)

/-- LOAD behind its keyword. -/
def load (g : Nested) : Parser Statement := do
  let d ← dialect
  if d.loadExtension then
    someIdentifier
    return .plain (.other "LOAD") []
  else if (← word "DATA") && d.loadData then
    let _ ← word "LOCAL"
    expectWord "INPATH"
    someString
    let _ ← word "OVERWRITE"
    expectWord "INTO"
    expectWord "TABLE"
    let name ← objectName g
    let partition ← partsAfter "PARTITION" (parens (itemParts g.exprParts))
    let format ← partsAfter "INPUTFORMAT" do
      let input ← g.exprParts
      expectWord "SERDE"
      let format ← g.exprParts
      return input ++ format
    return .plain (.other "LOAD") ([.relation name] ++ partition ++ format)
  else needed "\x60DATA\x60 or an extension name after \x60LOAD\x60"

/-! ## Staged files -/

/-- One part of the name of a stage, up to a blank, a period or a parenthesis. A semicolon or a
blank behind it is taken. -/
def stagePart : Parser String :=
  loop "" fun soFar => do
    let start ← position
    let t ← nextRaw
    match t.token with
    | .blank _ | .eof | .symbol ";" => return .done soFar
    | .symbol "." | .symbol "(" | .symbol ")" =>
      moveTo start
      return .done soFar
    | .symbol "@" | .symbol "~" | .symbol "%" | .symbol "/" | .symbol "+" | .symbol "-"
    | .word _ _ _ => return .again (soFar ++ t.token.render)
    | .number digits _ => return .again (soFar ++ digits)
    | _ => needed "stage name identifier"

/-- The name of a stage, or of a table. -/
def stageName (g : Nested) : Parser ObjectName := do
  if ← peekSymbol "@" then
    skip
    back
    loop [] fun (soFar : List String) => do
      let part ← stagePart
      if ← symbol "." then return .again (part :: soFar)
      else return .done (part :: soFar).reverse
  else objectName g

/-- A column of a staged file: its number, a path into it, and an alias. -/
def stagedColumn : Parser (List Part) := do
  let first ← nextLocated
  match first.token with
  | .placeholder _ => pure ()
  | .word _ _ _ =>
    expectSymbol "."
    let t ← nextLocated
    match t.token with
    | .placeholder _ => pure ()
    | _ => unexpected "file_col_num" t
  | _ => unexpected "file_col_num" first
  let name (what : String) : Parser Unit := do
    match ← next with
    | .word _ _ _ => pure ()
    | _ => needed what
  if ← symbol ":" then name "file_col_num"
  if ← word "AS" then name "column item alias"
  return []

/-- A selected item where data are loaded. -/
def loadedItem (g : Nested) : Parser (List Part) := do
  match ← attempt stagedColumn with
  | some parts => return parts
  | none => selectItem g

/-- COPY INTO behind its keywords. The semicolon behind it is taken too. -/
def copyInto (g : Nested) : Parser Statement := do
  let unloading ← match ← peek with
    | .symbol "@" => pure true
    | .string .single text => pure ((text.splitOn "://").length > 1)
    | _ => pure false
  let _ ← stageName g
  if unloading then stageParams
  if ← peekSymbol "(" then
    let _ ← columnList false true
  expectWord "FROM"
  let source ← if ← symbol "(" then
      if unloading then do
        let q ← g.queryParts
        expectSymbol ")"
        pure q
      else do
        expectWord "SELECT"
        let loaded ← itemsTrailing false (loadedItem g)
        expectWord "FROM"
        let _ ← stageName g
        stageParams
        let _ ← tableAlias g
        expectSymbol ")"
        pure loaded.flatten
    else do
      let _ ← stageName g
      stageParams
      if ← word "AS" then
        match ← next with
        | .word _ _ _ => pure ()
        | _ => needed "stage alias"
      pure []
  let partition ← loop [] fun (soFar : List Part) => do
    if ← hasWord ["FILE_FORMAT", "COPY_OPTIONS"] then
      expectSymbol "="
      keyValuesInParens
      return .again soFar
    else if ← words ["PARTITION", "BY"] then return .again (← g.exprParts)
    else if ← word "FILES" then
      expectSymbol "="
      expectSymbol "("
      whileTrue do
        let t ← nextLocated
        match t.token with
        | .string .single _ => symbol ","
        | _ => unexpected "file token" t
      expectSymbol ")"
      return .again soFar
    else if ← word "PATTERN" then
      expectSymbol "="
      let t ← nextLocated
      match t.token with
      | .string .single _ => return .again soFar
      | _ => unexpected "pattern" t
    else if ← word "VALIDATION_MODE" then
      expectSymbol "="
      skip
      return .again soFar
    else
      match ← next with
      | .symbol ";" | .eof => return .done soFar
      | .symbol "," => return .again soFar
      | .word _ _ _ =>
        keyValue
        return .again soFar
      | _ => needed "another copy option, ; or EOF'"
  return .plain (.copy none) (source ++ partition)

/-- A command on staged files, behind its keyword. -/
def stagedFiles (g : Nested) (k : String) : Parser Statement := do
  let name ← stageName g
  if ← word "PATTERN" then
    expectSymbol "="
    someString
  return .plain (.other k) [.relation name]

end QueryGuard.Sql.Grammar
