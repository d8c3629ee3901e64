import QueryGuard.Config
import QueryGuard.Json.Record

/-!
Settings as JSON.
-/

namespace QueryGuard.Config

/-- The field for the dialect, with the default dialect if it does not come. -/
def dialectField : Json.Decoder.Field String where
  name := "dialect"
  value := .string
  absent := some Guard.defaultDialect

/-- The field for the tables, with no restriction if it does not come. -/
def tablesField : Json.Decoder.Field (Option (List String)) where
  name := "allowed_tables"
  value := .orNull (.list .string)
  absent := some none

/-- The settings that a text holds. -/
def decode (text : String) : Except Json.Fault Config :=
  ((Json.Decoder.record dialectField tablesField).run text).map fun (dialect, tables) =>
    { dialect := dialect, allowedTables := tables }

end QueryGuard.Config
