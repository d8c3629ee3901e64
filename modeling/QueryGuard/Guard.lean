import QueryGuard.AllowList
import QueryGuard.Report
import QueryGuard.ScriptReader
import QueryGuard.Tree.Reference

/-!
Checking scripts: read, look for disallowed statements, gather the tables, compare them with the
allow-list. The first of these that fails is the outcome.

Every check is given the reader it is to use and the name of the dialect.
-/

namespace QueryGuard.Guard

/-- The dialect where none is chosen. -/
def defaultDialect : String :=
  "postgres"

/-- The tree of a script. -/
def tree (read : ScriptReader) (sql dialect : String) : Audited GuardError Tree.Node :=
  (read sql dialect).mapError (.ofReadError dialect)

/-- Fails unless a script only reads. -/
def readOnly (read : ScriptReader) (sql dialect : String) : Audited GuardError Unit := do
  Tree.classify (← tree read sql dialect)

/-- The tables of a script that only reads. -/
def extract (read : ScriptReader) (sql dialect : String) : Audited GuardError NameSet := do
  let n ← tree read sql dialect
  Tree.classify n
  .record (.validated n.baseTables.size n.cteNames.size)
  return n.baseTables

/-- The tables of a script that only reads, all of which are allowed. -/
def authorize (read : ScriptReader) (sql dialect : String) (allowed : AllowList) :
    Audited GuardError NameSet := do
  let tables ← extract read sql dialect
  allowed.check tables
  return tables

/-- The tables of a script, compared with an allow-list if there is one. -/
def tables (read : ScriptReader) (sql dialect : String) (allowed : Option AllowList) :
    Audited GuardError NameSet :=
  match allowed with
  | some allowed => authorize read sql dialect allowed
  | none => extract read sql dialect

/-- The report on a script. -/
def report (read : ScriptReader) (sql dialect : String) (allowed : Option AllowList) :
    Audited GuardError Report := do
  return .ofTables dialect (← tables read sql dialect allowed)

end QueryGuard.Guard
