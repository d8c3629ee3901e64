import QueryGuard.Text.Blank
import QueryGuard.Text.Letter

/-!
The SQL dialects, their names, and the characters their unquoted and quoted names are made of.

A dialect is looked up by a name that may stand between blanks and in any case. Folding to lower
case knows the ASCII capitals and the Kelvin sign, the only other character whose lower-case form
is an ASCII letter by itself.
-/

namespace QueryGuard

/-- The dialects a script can be read in. -/
inductive Dialect where
  | generic | ansi | bigquery | clickhouse | databricks | duckdb | hive | mssql | mysql
  | postgres | redshift | snowflake | sqlite
deriving DecidableEq, Repr

namespace Dialect

/-- Lower case for the characters a dialect name can be made of. -/
def foldChar (c : Char) : Char :=
  if c.toNat = 0x212A then 'k' else c.toLower

/-- A dialect name without surrounding blanks and in lower case. -/
def foldName (name : String) : String :=
  String.ofList ((Text.trimChars name.toList).map foldChar)

/-- The dialect of a name in lower case. -/
def ofFolded? (name : String) : Option Dialect :=
  match name with
  | "generic" => some .generic
  | "mysql" => some .mysql
  | "postgresql" => some .postgres
  | "postgres" => some .postgres
  | "hive" => some .hive
  | "sqlite" => some .sqlite
  | "snowflake" => some .snowflake
  | "redshift" => some .redshift
  | "mssql" => some .mssql
  | "clickhouse" => some .clickhouse
  | "bigquery" => some .bigquery
  | "ansi" => some .ansi
  | "duckdb" => some .duckdb
  | "databricks" => some .databricks
  | _ => none

/-- The dialect a name stands for, if there is one. -/
def ofName? (name : String) : Option Dialect :=
  ofFolded? (foldName name)

/-- Membership in a short list of dialects. -/
def isOneOf (d : Dialect) (ds : List Dialect) : Bool :=
  ds.contains d

/-! ## Names -/

/-- The character that closes a quoted name opened by the given one. -/
def closingQuote (c : Char) : Char :=
  if c = '[' then ']' else c

/-- Characters that open a quoted name. -/
def opensQuotedName (d : Dialect) (c : Char) : Bool :=
  match d with
  | .postgres => c = '"'
  | .mysql | .bigquery | .databricks => c = '\x60'
  | .mssql => c = '"' || c = '['
  | .sqlite => c = '\x60' || c = '"' || c = '['
  | _ => c = '"' || c = '\x60'

/-- An ASCII letter or an underscore. -/
def isPlainLetter (c : Char) : Bool :=
  c.isAlpha || c = '_'

/-- Characters an unquoted name can begin with. -/
def startsName (d : Dialect) (c : Char) : Bool :=
  match d with
  | .generic | .mssql => Text.isAlphabetic c || c = '_' || c = '#' || c = '@'
  | .ansi => c.isAlpha
  | .bigquery => isPlainLetter c || c = '@'
  | .clickhouse | .databricks | .snowflake => isPlainLetter c
  | .duckdb => Text.isAlphabetic c || c = '_'
  | .hive => c.isAlpha || c.isDigit || c = '$'
  | .mysql => isPlainLetter c || c = '$' || c = '@' || 128 ≤ c.toNat
  | .postgres => isPlainLetter c || 128 ≤ c.toNat
  | .redshift => isPlainLetter c || c = '#' || 128 ≤ c.toNat
  | .sqlite => isPlainLetter c || (0x7F ≤ c.toNat && c.toNat ≤ 0xFFFF)

/-- Characters an unquoted name can go on with. -/
def continuesName (d : Dialect) (c : Char) : Bool :=
  match d with
  | .generic | .mssql =>
    Text.isAlphabetic c || c.isDigit || c = '@' || c = '$' || c = '#' || c = '_'
  | .ansi | .bigquery | .clickhouse | .databricks => isPlainLetter c || c.isDigit
  | .duckdb => Text.isAlphabetic c || c.isDigit || c = '$' || c = '_'
  | .hive => isPlainLetter c || c.isDigit || c = '$' || c = '\x7b' || c = '\x7d'
  | .mysql => d.startsName c || c.isDigit
  | .postgres => isPlainLetter c || c.isDigit || c = '$' || 128 ≤ c.toNat
  | .redshift => isPlainLetter c || c.isDigit || c = '$' || c = '#' || 128 ≤ c.toNat
  | .snowflake => isPlainLetter c || c.isDigit || c = '$'
  | .sqlite => d.startsName c || c.isDigit

/-- Characters that lengthen an operator into one of the user's own. -/
def continuesOperator (d : Dialect) (c : Char) : Bool :=
  d = .postgres && (['+', '-', '*', '/', '<', '>', '=', '~', '!', '@', '#', '%', '^', '&', '|',
    '\x60', '?']).contains c

/-! ## Literals and comments -/

/-- A backslash in a string literal takes the next character with it. -/
def backslashEscapes (d : Dialect) : Bool :=
  d.isOneOf [.bigquery, .clickhouse, .mysql, .redshift, .snowflake]

/-- A backslash before a wildcard of LIKE stays in the string. -/
def keepsWildcardEscapes (d : Dialect) : Bool :=
  d = .mysql

/-- String literals between three quotes. -/
def hasTripleQuotes (d : Dialect) : Bool :=
  d = .bigquery

/-- Byte string literals such as `b'01'`. -/
def hasByteStrings (d : Dialect) : Bool :=
  d.isOneOf [.bigquery, .postgres, .mysql, .generic]

/-- Raw string literals such as `r'a'`. -/
def hasRawStrings (d : Dialect) : Bool :=
  d.isOneOf [.bigquery, .generic]

/-- String literals with escapes, such as `E'\n'`. -/
def hasEscapeStrings (d : Dialect) : Bool :=
  d.isOneOf [.postgres, .generic, .redshift]

/-- String literals with code points, such as `U&'\0041'`. -/
def hasUnicodeStrings (d : Dialect) : Bool :=
  d.isOneOf [.postgres, .generic]

/-- A dollar sign opens a placeholder only, never a string literal. -/
def dollarIsPlaceholder (d : Dialect) : Bool :=
  d = .sqlite

/-- Single underscores between the digits of a number. -/
def separatesDigits (d : Dialect) : Bool :=
  d.isOneOf [.clickhouse, .postgres]

/-- Unquoted names that begin with digits. -/
def namesMayStartWithDigits (d : Dialect) : Bool :=
  d.isOneOf [.mysql, .hive]

/-- Two dashes open a comment only before a blank. -/
def dashCommentNeedsBlank (d : Dialect) : Bool :=
  d = .mysql

/-- A hash sign opens a comment. -/
def hasHashComments (d : Dialect) : Bool :=
  d.isOneOf [.snowflake, .bigquery, .mysql, .hive]

/-- Comments between `/*` and `*/` that hold others. -/
def nestsComments (d : Dialect) : Bool :=
  d.isOneOf [.generic, .postgres, .mssql]

/-- Operators on geometric types, such as `<->`. -/
def hasGeometry (d : Dialect) : Bool :=
  d.isOneOf [.postgres, .redshift]

/-- The pipe operator `|>` of query pipelines. -/
def hasPipes (d : Dialect) : Bool :=
  d = .bigquery

end Dialect

end QueryGuard
