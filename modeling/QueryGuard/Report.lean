import QueryGuard.NameSet

/-!
Reports: the outcome of a check that succeeds.
-/

namespace QueryGuard

/-- The outcome of a check that succeeds. -/
structure Report where
  /-- The dialect, as it was asked for. -/
  dialect : String
  /-- The tables that the script reads. -/
  tables : List String
deriving DecidableEq, Repr

namespace Report

/-- The report on a set of tables lists them in ascending order. -/
def ofTables (dialect : String) (tables : NameSet) : Report where
  dialect := dialect
  tables := tables.toList

end Report

end QueryGuard
