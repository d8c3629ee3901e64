import QueryGuard.Sql.Grammar.Option

/-!
Data types.

A reader meets nothing in most types; only the options of fields and the columns of nested tables
hold expressions. A type is shown in a message in its own spelling, which is not always the one it
was written in, so each rule gives that spelling.
-/

namespace QueryGuard.Sql.Grammar

open Sql.Parser

/-- What kind of type a type is. -/
inductive TypeShape where
  | builtin | interval | custom
deriving DecidableEq, Repr

/-- A type: its kind, how it is shown, and what a reader meets in it. -/
structure DataType where
  shape : TypeShape := .builtin
  text : String
  parts : List Part := []

/-! ## What stands behind the name of a type -/

/-- A precision in parentheses, if there is one. -/
def optionalPrecision : Parser String := do
  if ← symbol "(" then
    let n ← literalUnsigned
    expectSymbol ")"
    return "(" ++ n ++ ")"
  else return ""

/-- A precision and a scale in parentheses, if they are there. -/
def optionalPrecisionScale : Parser String := do
  if ← symbol "(" then
    let precision ← literalUnsigned
    let scale ← if ← symbol "," then do pure ("," ++ (← literalInteger)) else pure ""
    expectSymbol ")"
    return "(" ++ precision ++ scale ++ ")"
  else return ""

/-- A length in parentheses, which may be MAX and, if `units`, may have a unit. -/
def optionalLength (units : Bool) : Parser String := do
  if ← symbol "(" then
    let length ← do
      if ← word "MAX" then pure "MAX"
      else
        let n ← literalUnsigned
        if units then
          match ← anyWord ["CHARACTERS", "OCTETS"] with
          | some unit => pure (n ++ " " ++ unit)
          | none => pure n
        else pure n
    expectSymbol ")"
    return "(" ++ length ++ ")"
  else return ""

/-- WITH or WITHOUT TIME ZONE, if it is there. -/
def optionalTimeZone : Parser String := do
  match ← anyWord ["WITH", "WITHOUT"] with
  | some k =>
    expectWords ["TIME", "ZONE"]
    return " " ++ k ++ " TIME ZONE"
  | none => return ""

/-- The fields of an interval, if they are there. -/
def optionalIntervalFields : Parser String := do
  let upTo (first : String) (lasts : List String) : Parser String := do
    if ← word "TO" then
      let last ← match lasts with
        | [k] => do
          expectWord k
          pure k
        | _ => expectAnyWord lasts
      return " " ++ first ++ " TO " ++ last
    else return " " ++ first
  match ← anyWord ["YEAR", "DAY", "HOUR", "MINUTE", "MONTH", "SECOND"] with
  | some "YEAR" => upTo "YEAR" ["MONTH"]
  | some "DAY" => upTo "DAY" ["HOUR", "MINUTE", "SECOND"]
  | some "HOUR" => upTo "HOUR" ["MINUTE", "SECOND"]
  | some "MINUTE" => upTo "MINUTE" ["SECOND"]
  | some k => return " " ++ k
  | none => return ""

/-- A list of string literals in parentheses. -/
def stringValues : Parser String := do
  expectSymbol "("
  let values ← loop [] fun (soFar : List String) => do
    let t ← nextLocated
    let value ← match t.token with
      | .string .single text => pure (Text.enclosed '\'' text)
      | _ => unexpected "a string" t
    let c ← nextLocated
    match c.token with
    | .symbol "," => return .again (value :: soFar)
    | .symbol ")" => return .done (value :: soFar).reverse
    | _ => unexpected ", or \x7d" c
  return "(" ++ ", ".intercalate values ++ ")"

/-- The members of an enumeration in parentheses, which may be numbered. -/
def enumValues : Parser String := do
  expectSymbol "("
  let members ← items do
    let name := Text.enclosed '\'' (← literalString)
    if ← symbol "=" then
      let sign ← do
        if ← symbol "+" then pure "+" else if ← symbol "-" then pure "-" else pure ""
      let n ← peek
      numberValue
      return name ++ " = " ++ sign ++ n.render
    else return name
  expectSymbol ")"
  return "(" ++ ", ".intercalate members ++ ")"

/-- The words, numbers and strings in parentheses behind a type of the user's own. -/
def typeModifiers : Parser String := do
  if ← symbol "(" then
    let modifiers ← loop [] fun (soFar : List String) => do
      let t ← nextLocated
      match t.token with
      | .word _ _ _ => return .again (t.token.render :: soFar)
      | .number text _ | .string .single text => return .again (text :: soFar)
      | .symbol "," => return .again soFar
      | .symbol ")" => return .done soFar.reverse
      | _ => unexpected "type modifiers" t
    if modifiers.isEmpty then return "" else return "(" ++ ", ".intercalate modifiers ++ ")"
  else return ""

/-! ## Types without other types in them -/

/-- Types that are a single word. -/
def wordTypes : List String :=
  ["BOOLEAN", "BOOL", "FLOAT4", "FLOAT8", "FLOAT64", "INT64", "HUGEINT", "UBIGINT", "UHUGEINT",
   "USMALLINT", "UTINYINT", "UUID", "DATE", "TIMESTAMP_NTZ", "JSON", "JSONB", "REGCLASS", "TEXT",
   "TINYTEXT", "MEDIUMTEXT", "LONGTEXT", "TINYBLOB", "MEDIUMBLOB", "LONGBLOB", "BYTEA", "TRIGGER"]

/-- Types that are a single word and are shown in mixed case. -/
def mixedCaseTypes : List (String × String) :=
  [("FLOAT32", "Float32"), ("INT16", "Int16"), ("INT32", "Int32"), ("INT128", "Int128"),
   ("INT256", "Int256"), ("UINT8", "UInt8"), ("UINT16", "UInt16"), ("UINT32", "UInt32"),
   ("UINT64", "UInt64"), ("UINT128", "UInt128"), ("UINT256", "UInt256"), ("DATE32", "Date32")]

/-- Integer types that may be followed by UNSIGNED only. -/
def shortIntegerTypes : List String :=
  ["INT2", "INT4", "INT8"]

/-- Integer types that may be followed by UNSIGNED or SIGNED. -/
def integerTypes : List String :=
  ["TINYINT", "SMALLINT", "MEDIUMINT", "INT", "INTEGER", "BIGINT"]

/-- Types that may be followed by a precision. -/
def precisionTypes : List String :=
  ["CLOB", "BINARY", "BLOB", "BYTES", "VARBIT", "DATETIME", "TIMESTAMPTZ", "TIMETZ", "STRING"]

/-- Types that may be followed by a precision and a scale. -/
def scaledTypes : List String :=
  ["NUMERIC", "BIGNUMERIC", "BIGDECIMAL"]

/-- Types of geometric objects. -/
def geometricTypes : List String :=
  ["POINT", "LINE", "LSEG", "BOX", "PATH", "POLYGON", "CIRCLE"]

/-- UNSIGNED, if it comes next. -/
def optionalUnsigned : Parser String := do
  if ← word "UNSIGNED" then return " UNSIGNED" else return ""

/-- The rest of a type without other types in it, behind the keyword it begins with; nothing if the
keyword begins no such type. -/
def simpleType (d : Dialect) (k : String) : Option (Parser String) :=
  if wordTypes.contains k then some (pure k)
  else if let some shown := mixedCaseTypes.lookup k then some (pure shown)
  else if shortIntegerTypes.contains k then some do
    return k ++ (← optionalPrecision) ++ (← optionalUnsigned)
  else if integerTypes.contains k then some do
    let precision ← optionalPrecision
    let sign ← optionalUnsigned
    if sign.isEmpty && d.signedSuffix then
      let _ ← word "SIGNED"
    return k ++ precision ++ sign
  else if precisionTypes.contains k then some do return k ++ (← optionalPrecision)
  else if scaledTypes.contains k then some do return k ++ (← optionalPrecisionScale)
  else if d.hasGeometry && geometricTypes.contains k then some (pure k.toLower)
  else match k with
    | "FLOAT" | "DECIMAL" | "DEC" => some do
      return k ++ (← optionalPrecisionScale) ++ (← optionalUnsigned)
    | "REAL" => some do return k ++ (← optionalUnsigned)
    | "DOUBLE" => some do
      let rest ← do
        if ← word "PRECISION" then pure " PRECISION" else optionalPrecisionScale
      return k ++ rest ++ (← optionalUnsigned)
    | "VARCHAR" | "NVARCHAR" => some do return k ++ (← optionalLength true)
    | "VARBINARY" => some do return k ++ (← optionalLength false)
    | "CHARACTER" | "CHAR" => some do
      if ← word "VARYING" then return k ++ " VARYING" ++ (← optionalLength true)
      else if ← words ["LARGE", "OBJECT"] then return k ++ " LARGE OBJECT" ++ (← optionalPrecision)
      else return k ++ (← optionalLength true)
    | "BIT" => some do
      let varying ← word "VARYING"
      return (if varying then "BIT VARYING" else "BIT") ++ (← optionalPrecision)
    | "DATETIME64" => some do
      expectSymbol "("
      let precision ← literalUnsigned
      let zone ← do
        if ← symbol "," then pure (", '" ++ (← literalString) ++ "'") else pure ""
      expectSymbol ")"
      return "DateTime64(" ++ precision ++ zone ++ ")"
    | "TIMESTAMP" | "TIME" => some do return k ++ (← optionalPrecision) ++ (← optionalTimeZone)
    | "FIXEDSTRING" => some do
      let length ← parens literalUnsigned
      return "FixedString(" ++ length ++ ")"
    | "ENUM" | "ENUM8" | "ENUM16" => some do return k ++ (← enumValues)
    | "SET" => some do return k ++ (← stringValues)
    | "SIGNED" | "UNSIGNED" => some do
      if ← word "INTEGER" then return k ++ " INTEGER" else return k
    | "TSVECTOR" | "TSQUERY" => if d.isOneOf [.postgres, .generic] then some (pure k) else none
    | _ => none

/-! ## Types in general -/

/-- Closes an angle bracket. A double one closes two: `closed` says that the one looked for has
been read, and the result whether another has. -/
def closeAngle (closed : Bool) : Parser Bool := do
  if closed then return false
  else if ← symbol ">" then return false
  else if ← symbol ">>" then return true
  else needed ">"

/-- A type that closes no more brackets than it opens. -/
def balanced (found : DataType × Bool) : Parser DataType := do
  if found.2 then
    refuse ("unmatched > after parsing data type " ++ found.1.text ++ (← peek).render)
  else return found.1

/-- One field of a structure, named or not, and whether it has closed a bracket too many. -/
def structField (g : Nested) (inner : Parser (DataType × Bool)) : Parser (DataType × Bool) := do
  let named ← match ← peek, ← peekNth 1 with
    | .word _ _ _, .word _ _ _ => pure true
    | .word _ _ _, .symbol ":" => pure true
    | _, _ => pure false
  let name ← if named then do
      let n ← identifier
      let _ ← symbol ":"
      pure (n.shown ++ " ")
    else pure ""
  let (type, closed) ← inner
  let options ← optionParts g ["OPTIONS"]
  return ({ text := name ++ type.text, parts := type.parts ++ options }, closed)

/-- The fields of a structure between angle brackets, nothing if they are not there, and whether
they have closed a bracket too many. -/
def structFields (g : Nested) (inner : Parser (DataType × Bool)) :
    Parser (Option (List DataType) × Bool) := do
  if ← symbol "<" then
    let (fields, closed) ← loop [] fun (soFar : List DataType) => do
      let (field, closed) ← structField g inner
      if closed then return .done ((field :: soFar).reverse, true)
      else if ← symbol "," then return .again (field :: soFar)
      else return .done ((field :: soFar).reverse, false)
    return (some fields, ← closeAngle closed)
  else return (none, false)

/-- A name and the type behind it. -/
def namedType (inner : Parser DataType) : Parser DataType := do
  let n ← identifier
  let type ← inner
  return { type with text := n.shown ++ " " ++ type.text }

/-- A type made of several others. -/
def typeOf (opening closing : String) (fields : List DataType) : DataType :=
  { text := opening ++ ", ".intercalate (fields.map (·.text)) ++ closing
    parts := fields.flatMap (·.parts) }

/-- A type, and whether a double angle bracket has closed one bracket too many. `fuel` bounds the
nesting. -/
def dataTypeAt (g : Nested) : Nat → Parser (DataType × Bool)
  | 0 => fail .tooDeep
  | fuel + 1 => do
    let d ← dialect
    let start ← position
    let inner : Parser (DataType × Bool) := dataTypeAt g fuel
    let whole : Parser DataType := do balanced (← inner)
    let subtype (label : String) : Parser (DataType × Bool) := do
      let type ← parens whole
      return (typeOf (label ++ "(") ")" [type], false)
    let columns (label : String) : Parser (DataType × Bool) := do
      let parts ← parens (itemParts g.columnDef)
      return ({ text := label, parts := parts }, false)
    let custom : Parser (DataType × Bool) := do
      moveTo start
      let name ← objectName g
      let modifiers ← typeModifiers
      return ({ shape := .custom, text := ".".intercalate name ++ modifiers }, false)
    let t ← nextLocated
    let k := t.token.keyword
    let nesting := d.isOneOf [.clickhouse, .generic]
    let (type, closed) ← match t.token, simpleType d k with
      | .word _ _ _, some rest => do
        let text ← rest
        pure ({ text := text }, false)
      | .word _ _ _, none =>
        match k with
        | "INTERVAL" => do
          let rest ← if d.intervalFields then do
              pure ((← optionalIntervalFields) ++ (← optionalPrecision))
            else pure ""
          pure ({ shape := .interval, text := k ++ rest }, false)
        | "ARRAY" =>
          if d == .snowflake then pure ({ text := k }, false)
          else if d == .clickhouse then subtype "Array"
          else do
            expectSymbol "<"
            let (element, closed) ← inner
            let closed ← closeAngle closed
            pure (typeOf "ARRAY<" ">" [element], closed)
        | "STRUCT" =>
          if d == .duckdb then do
            let fields ← parens (items (namedType whole))
            pure (typeOf "STRUCT(" ")" fields, false)
          else if d.structLiterals then do
            match ← structFields g inner with
            | (some fields, closed) => pure (typeOf "STRUCT<" ">" fields, closed)
            | (none, _) => pure ({ text := k }, false)
          else custom
        | "UNION" =>
          if d.isOneOf [.duckdb, .generic] then do
            let fields ← parens (items (namedType whole))
            pure (typeOf "UNION(" ")" fields, false)
          else custom
        | "NULLABLE" => if nesting then subtype "Nullable" else custom
        | "LOWCARDINALITY" => if nesting then subtype "LowCardinality" else custom
        | "MAP" =>
          if nesting then do
            expectSymbol "("
            let key ← whole
            expectSymbol ","
            let value ← whole
            expectSymbol ")"
            pure (typeOf "Map(" ")" [key, value], false)
          else custom
        | "NESTED" => if nesting then columns "Nested" else custom
        | "TUPLE" =>
          if nesting then do
            expectSymbol "("
            let fields ← loop [] fun (soFar : List DataType) => do
              let (field, _) ← structField g inner
              if ← symbol "," then return .again (field :: soFar)
              else return .done (field :: soFar).reverse
            expectSymbol ")"
            pure (typeOf "Tuple(" ")" fields, false)
          else custom
        | "ANY" => do
          if ← word "TYPE" then pure ({ text := "ANY TYPE" }, false) else custom
        | "TABLE" => do
          if ← peekSymbol "(" then columns k else pure ({ text := k }, false)
        | _ => custom
      | _, _ => unexpected "a data type name" t
    if d.bracketArrayTypes then
      loop type fun element => do
        if ← symbol "[" then
          let size ← attempt literalUnsigned
          expectSymbol "]"
          return .again
            { text := element.text ++ "[" ++ size.getD "" ++ "]", parts := element.parts }
        else return .done (element, closed)
    else return (type, closed)

/-- A type. -/
def dataType (g : Nested) : Parser DataType := do
  balanced (← dataTypeAt g (← bound))

/-- What a reader meets in a type. -/
def typeParts (g : Nested) : Parser (List Part) := do
  return (← dataType g).parts

end QueryGuard.Sql.Grammar
