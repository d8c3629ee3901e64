import QueryGuard.Audit

/-!
Allow-lists: the tables that a caller may read.
-/

namespace QueryGuard

/-- The tables that may be read. Names are compared exactly. -/
structure AllowList where
  tables : NameSet
deriving DecidableEq

namespace AllowList

/-- The allow-list of the names given, however often each is given. -/
def ofList (names : List String) : AllowList where
  tables := .ofList names

/-- Whether a table may be read. -/
def contains (a : AllowList) (table : String) : Bool :=
  table ∈ a.tables

/-- The number of tables that may be read. -/
def size (a : AllowList) : Nat :=
  a.tables.size

/-- Whether no table may be read. -/
def isEmpty (a : AllowList) : Bool :=
  a.tables.isEmpty

/-- The tables among those given that may not be read. -/
def offenders (a : AllowList) (tables : NameSet) : NameSet :=
  tables.diff a.tables

/-- Fails with the tables among those given that may not be read. -/
def check (a : AllowList) (tables : NameSet) : Audited GuardError Unit :=
  let offenders := (a.offenders tables).toList
  if offenders.isEmpty then pure ()
  else do
    .record (.rejectedTables offenders)
    .fail (.disallowedTable offenders)

end AllowList

end QueryGuard
