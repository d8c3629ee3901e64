import QueryGuard.Audit
import QueryGuard.Tree.Walk

/-!
What a tree says about the script: whether it only reads, and which tables it names.

All questions are put to every node of the tree, wherever it stands. The names of common table
expressions count for the whole tree and not only where they are in scope.
-/

namespace QueryGuard.Tree

namespace Node

/-- The first node of a disallowed kind. -/
def disallowed? (n : Node) : Option NodeKind :=
  (n.walk.find? (·.kind.isDisallowed)).map (·.kind)

/-- The names of all common table expressions. -/
def cteNames (n : Node) : NameSet :=
  .ofList ((n.walk.filter (·.kind = .cte)).filterMap (·.aliasName?))

/-- The names of all tables, but for those given. -/
def tables (n : Node) (without : NameSet) : NameSet :=
  .ofList (((n.walk.filter (·.kind = .table)).filterMap (·.name?)).filter (· ∉ without))

/-- The names of the tables that are no common table expressions. -/
def baseTables (n : Node) : NameSet :=
  n.tables n.cteNames

end Node

/-- Fails at the first node of a disallowed kind. -/
def classify (n : Node) : Audited GuardError Unit :=
  match n.disallowed? with
  | none => pure ()
  | some kind => do
    .record (.rejectedStatement kind.upperKey)
    .fail (.disallowedStatement kind.upperKey)

end QueryGuard.Tree
