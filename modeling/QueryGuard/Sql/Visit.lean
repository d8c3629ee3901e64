import QueryGuard.Sql.Script

/-!
What a reader of a script enters and leaves, in order: statements, queries, items of FROM and named
relations, each with what is entered between.

A reader enters the common table expressions of a query before its body, and its body before its
other clauses.
-/

namespace QueryGuard.Sql

/-- What a reader knows of something on entering it. -/
inductive Entry where
  /-- A statement; one that is a query is known by that query alone. -/
  | statement (form : Option StatementForm)
  /-- A query: the names of its common table expressions in order, its kind, and the table it is
  all rows of if it is one, with its schema. -/
  | query (ctes : List String) (kind : NodeKind) (table : Option (String × Option String))
  /-- A named table in FROM, which is a call of a table function if it has arguments. -/
  | table (name : ObjectName) (aliasName : Option String) (called : Bool)
  /-- A derived table. -/
  | derived (aliasName : Option String)
  /-- Any other item of FROM. -/
  | compound
  /-- The name of a relation. -/
  | relation (name : ObjectName)
deriving DecidableEq, Repr

/-- Something that is entered, and what is entered before it is left. -/
inductive Visit where
  | mk (entry : Entry) (inside : List Visit)

/-- The kind of a set operator's node. -/
def SetOperator.kind : SetOperator → NodeKind
  | union => .union
  | intersect => .intersect
  | except => .except

mutual

/-- The kind of a query is that of its body. -/
def Query.kind : Query → NodeKind
  | .mk _ body _ => body.kind

/-- The kind of a body: that of its outermost operator, seen through parentheses. -/
def Body.kind : Body → NodeKind
  | .select _ _ => .select
  | .nested query => query.kind
  | .setOperation op _ _ => op.kind
  | .values _ => .values
  | .table _ _ => .select
  | .write _ => .query

end

/-- The name of a common table expression. -/
def Cte.aliasName : Cte → String
  | .mk aliasName _ => aliasName

/-- The table that a body is all rows of. -/
def Body.wholeTable : Body → Option (String × Option String)
  | .table (some name) schema => some (name, schema)
  | _ => none

/-- What is known of a query on entering it. -/
def Query.entry (q : Query) : Entry :=
  match q with
  | .mk ctes body _ => .query (ctes.map (·.aliasName)) q.kind body.wholeTable

mutual

/-- The visit of a statement. -/
def Statement.visit : Statement → Visit
  | .query q => .mk (.statement none) [q.visit]
  | .plain form parts => .mk (.statement (some form)) (visitParts parts)

/-- The visit of a query. -/
def Query.visit : Query → Visit
  | .mk ctes body rest =>
    .mk (Query.mk ctes body rest).entry (visitCtes ctes ++ body.visits ++ visitParts rest)

/-- The visits of the bodies of common table expressions. -/
def visitCtes : List Cte → List Visit
  | [] => []
  | .mk _ q :: rest => q.visit :: visitCtes rest

/-- What is entered in a body. -/
def Body.visits : Body → List Visit
  | .select _ parts => visitParts parts
  | .nested q => [q.visit]
  | .setOperation _ left right => left.visits ++ right.visits
  | .values parts => visitParts parts
  | .table _ _ => []
  | .write s => [s.visit]

/-- The visit of an item of FROM. The name of a table is entered as a relation inside it. -/
def TableFactor.visit : TableFactor → Visit
  | .table name aliasName none rest =>
    .mk (.table name aliasName false) (.mk (.relation name) [] :: visitParts rest)
  | .table name aliasName (some args) rest =>
    .mk (.table name aliasName true) (.mk (.relation name) [] :: (visitParts args ++ visitParts rest))
  | .derived aliasName q rest => .mk (.derived aliasName) (q.visit :: visitParts rest)
  | .compound parts => .mk .compound (visitParts parts)

/-- The visits of parts of clauses. -/
def visitParts : List Part → List Visit
  | [] => []
  | .statement s :: rest => s.visit :: visitParts rest
  | .query q :: rest => q.visit :: visitParts rest
  | .factor f :: rest => f.visit :: visitParts rest
  | .relation name :: rest => .mk (.relation name) [] :: visitParts rest

end

/-- The visits of the statements of a script. -/
def visits (script : List Statement) : List Visit :=
  script.map (·.visit)

end QueryGuard.Sql
