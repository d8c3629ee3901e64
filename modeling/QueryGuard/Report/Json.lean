import QueryGuard.Json.Record
import QueryGuard.Json.Value
import QueryGuard.Report

/-!
Reports as JSON.
-/

namespace QueryGuard.Report

/-- A report as a value. -/
def toJson (r : Report) : Json.Value :=
  .object [("dialect", .string r.dialect), ("tables", .array (r.tables.map .string))]

/-- A report as a text. -/
def render (r : Report) : String :=
  r.toJson.render

/-- The field for the dialect, which has to come. -/
def dialectField : Json.Decoder.Field String where
  name := "dialect"
  value := .string
  absent := none

/-- The field for the tables, which has to come. -/
def tablesField : Json.Decoder.Field (List String) where
  name := "tables"
  value := .list .string
  absent := none

/-- The report that a text holds. Its tables stay in the order they come in. -/
def decode (text : String) : Except Json.Fault Report :=
  ((Json.Decoder.record dialectField tablesField).run text).map fun (dialect, tables) =>
    { dialect := dialect, tables := tables }

end QueryGuard.Report
