import QueryGuard.Config.Json
import QueryGuard.Json.Value
import QueryGuard.Report.Json

/-!
Schemas of settings and reports.
-/

namespace QueryGuard.Json.Schema

/-- The schema of a string. -/
def text : List (String × Value) :=
  [("type", .string "string")]

/-- The schema of a list of strings. -/
def texts : List (String × Value) :=
  [("type", .string "array"), ("items", .object text)]

/-- The schema of a list of strings or null. -/
def textsOrNull : List (String × Value) :=
  [("type", .array [.string "array", .string "null"]), ("items", .object text)]

/-- A field with what it is for. -/
def field (name description : String) (schema : List (String × Value)) : String × Value :=
  (name, .object (("description", .string description) :: schema))

/-- The schema of a record. -/
def record (title description : String) (fields : List (String × Value))
    (more : List (String × Value)) : Value :=
  .object ([
    ("$schema", .string "https://json-schema.org/draft/2020-12/schema"),
    ("title", .string title),
    ("description", .string description),
    ("type", .string "object"),
    ("properties", .object fields)] ++ more)

/-- The schema of settings. -/
def config : Value :=
  record "GuardConfig" "Validation settings" [
    field Config.dialectField.name "SQL dialect name (e.g. \"postgres\", \"mysql\", \"sqlite\")"
      (text ++ [("default", .string Guard.defaultDialect)]),
    field Config.tablesField.name "Tables queries may reference (None = no allow-list)"
      (textsOrNull ++ [("default", .null)])] []

/-- The schema of reports. -/
def report : Value :=
  record "ValidationReport" "Outcome of a successful validation" [
    field Report.dialectField.name "Dialect the SQL was parsed with" text,
    field Report.tablesField.name "Base tables referenced by the query, sorted" texts]
    [("required", .array [.string Report.dialectField.name, .string Report.tablesField.name])]

end QueryGuard.Json.Schema
