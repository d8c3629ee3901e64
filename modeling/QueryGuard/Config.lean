import QueryGuard.AllowList
import QueryGuard.Guard
import QueryGuard.TableList

/-!
Settings: the dialect and the allow-list, as variables of the environment give them.
-/

namespace QueryGuard

/-- Settings of a check. -/
structure Config where
  /-- The name of the dialect. -/
  dialect : String := Guard.defaultDialect
  /-- The tables that may be read; without a list there is no restriction. -/
  allowedTables : Option (List String) := none
deriving DecidableEq, Repr

namespace Config

/-- The variable that holds the name of the dialect. -/
def dialectVariable : String :=
  "SQLGUARD_DIALECT"

/-- The name of the dialect, given the value of its variable. -/
def readDialect (value : Option String) : Audited GuardError String :=
  let name := Text.trim (value.getD "")
  if name.isEmpty then do
    .record (.defaultDialect dialectVariable Guard.defaultDialect)
    return Guard.defaultDialect
  else return name

/-- The tables that may be read, given the value of their variable. -/
def readTables : Option String → Audited GuardError (Option (List String))
  | none => return none
  | some value => ⟨[], (TableList.parse value).map some⟩

/-- The settings that variables give. -/
def ofLookup (lookup : String → Option String) : Audited GuardError Config := do
  let dialect ← readDialect (lookup dialectVariable)
  let tables ← readTables (lookup TableList.variableName)
  return { dialect := dialect, allowedTables := tables }

/-- The allow-list of the settings. -/
def allowList (c : Config) : Option AllowList :=
  c.allowedTables.map .ofList

end Config

end QueryGuard
