import QueryGuard.Sql.Opening
import QueryGuard.Sql.Visit
import QueryGuard.Tree.Node

/-!
The parse tree of a script, by recursion on what a reader enters.

Each entry stands for some nodes, one inside the other, and what is entered inside it goes into the
innermost of them. Two things depend on where an entry stands: a query that is the body of a common
table expression is wrapped in a node with its name, and the name of a relation stands for no node
where an item of FROM or a listing owns it.

The names of the common table expressions of a query are given out one by one to the queries
entered beneath it, with no other query between.
-/

namespace QueryGuard.Tree

open Sql

/-- The node of a table with a possibly qualified name: its last part is the table, the ones before
are schema and catalog, and further ones are left out. -/
def tableNode (name : ObjectName) : Node :=
  match name.reverse with
  | [] => Node.table ""
  | [table] => Node.table table
  | [table, db] => (Node.table table).withValue Slot.db db
  | table :: db :: catalog :: _ =>
    ((Node.table table).withValue Slot.db db).withValue Slot.catalog catalog

/-- The node around the body of a common table expression. -/
def cteNode (aliasName : String) : Node :=
  (Node.leaf .cte).withValue Slot.aliasName aliasName

/-- The node of a table that a query is all rows of. -/
def wholeTableNode (table : String × Option String) : Node :=
  (Node.table table.1).withValue? Slot.db table.2

/-- The nodes that an entry opens, outermost first. `aliasName` is the name of the common table
expression whose body is entered; `owned` says whether names of relations are left out. -/
def opened (aliasName : Option String) (owned : Bool) : Entry → List Node
  | .statement none => []
  | .statement (some (.copy (some source))) => [Node.leaf .copy, tableNode source]
  | .statement (some form) => [Node.leaf form.kind]
  | .query _ kind table =>
    aliasName.toList.map cteNode ++ [Node.leaf kind] ++ table.toList.map wholeTableNode
  | .table name aliasName called =>
    if called then [] else [(tableNode name).withValue? Slot.aliasName aliasName]
  | .derived aliasName => [(Node.leaf .subquery).withValue? Slot.aliasName aliasName]
  | .compound => []
  | .relation name => if owned then [] else [tableNode name]

/-- Whether the names of relations inside an entry are left out; nothing if that is as outside. -/
def ownership : Entry → Option Bool
  | .statement none => some false
  | .statement (some form) => some form.listsSchema
  | .table _ _ _ => some true
  | .derived _ => some false
  | .compound => some false
  | .query _ _ _ => none
  | .relation _ => none

/-- Nodes one inside the other, with others inside the innermost. -/
def nest : List Node → List Node → List Node
  | [], inner => inner
  | n :: ns, inner => [n.pushAll (nest ns inner)]

mutual

/-- The nodes of a visit, and the names of common table expressions not given out yet. -/
def outline (pending : List String) (owned : Bool) : Visit → List Node × List String
  | .mk (.query ctes kind table) inside =>
    let (inner, _) := outlineAll ctes owned inside
    (nest (opened pending.head? owned (.query ctes kind table)) inner, pending.tail)
  | .mk entry inside =>
    let (inner, left) := outlineAll pending ((ownership entry).getD owned) inside
    (nest (opened none owned entry) inner, left)

/-- The nodes of visits one after the other. -/
def outlineAll (pending : List String) (owned : Bool) : List Visit → List Node × List String
  | [] => ([], pending)
  | v :: vs =>
    let (first, left) := outline pending owned v
    let (rest, left) := outlineAll left owned vs
    (first ++ rest, left)

end

/-- The parse tree of visits. -/
def outlined (vs : List Visit) : Node :=
  (Node.leaf .script).pushAll (outlineAll [] false vs).1

end QueryGuard.Tree
