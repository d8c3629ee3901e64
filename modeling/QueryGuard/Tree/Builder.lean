import QueryGuard.Tree.Outline

/-!
The parse tree of a script, built while it is read.

The builder keeps the nodes that are open, innermost first, and for each entry how many nodes it
opened; leaving the entry closes as many, each into the one around it. For each open query it keeps
the names of its common table expressions not given out yet, and for each open statement or item of
FROM whether the names of relations are left out.
-/

namespace QueryGuard.Tree

open Sql

/-- A tree under construction. -/
structure Builder where
  /-- The open nodes, innermost first; the last is the root. -/
  nodes : List Node
  /-- How many nodes each open entry opened, innermost first. -/
  counts : List Nat
  /-- The names not given out yet of each open query, innermost query first. -/
  pending : List (List String)
  /-- Whether each open statement or item of FROM owns names of relations, innermost first. -/
  owned : List Bool

namespace Builder

/-- Nothing but the root. -/
def start : Builder where
  nodes := [Node.leaf .script]
  counts := []
  pending := []
  owned := []

/-- Opens nodes, outermost first, for an entry. -/
def openNodes (b : Builder) (ns : List Node) : Builder :=
  { b with nodes := ns.reverse ++ b.nodes, counts := ns.length :: b.counts }

/-- Closes the innermost node into the one around it. The root stays open. -/
def closeNode : List Node → List Node
  | inner :: outer :: rest => outer.push inner :: rest
  | ns => ns

/-- Closes so many nodes. -/
def closeNodes : Nat → List Node → List Node
  | 0, ns => ns
  | n + 1, ns => closeNodes n (closeNode ns)

/-- Closes the nodes of the innermost entry. -/
def close (b : Builder) : Builder :=
  { b with nodes := closeNodes (b.counts.headD 0) b.nodes, counts := b.counts.tail }

/-- Whether names of relations are left out. -/
def isOwned (b : Builder) : Bool :=
  b.owned.headD false

/-- The next name of a common table expression. -/
def nextAlias (b : Builder) : Option String :=
  (b.pending.headD []).head?

/-- The names left when the next has been given out. -/
def giveOut : List (List String) → List (List String)
  | [] => []
  | names :: rest => names.tail :: rest

/-- Enters something. -/
def enter (b : Builder) (e : Entry) : Builder :=
  match e with
  | .query ctes kind table =>
    { b with pending := ctes :: giveOut b.pending }.openNodes
      (opened b.nextAlias b.isOwned (.query ctes kind table))
  | e =>
    { b with owned := (ownership e).toList ++ b.owned }.openNodes (opened none b.isOwned e)

/-- Leaves what was entered. -/
def leave (b : Builder) (e : Entry) : Builder :=
  match e with
  | .query _ _ _ => { b with pending := b.pending.tail }.close
  | e => { b with owned := b.owned.drop (ownership e).toList.length }.close

mutual

/-- Goes through a visit. -/
def visit (b : Builder) : Visit → Builder
  | .mk entry inside => ((b.enter entry).visitAll inside).leave entry

/-- Goes through visits one after the other. -/
def visitAll (b : Builder) : List Visit → Builder
  | [] => b
  | v :: vs => (b.visit v).visitAll vs

end

/-- Closes what is still open and gives the root. -/
def finish (b : Builder) : Node :=
  (closeNodes (b.nodes.length - 1) b.nodes).headD (Node.leaf .script)

end Builder

/-- The parse tree of a script. -/
def ofScript (script : List Statement) : Node :=
  (Builder.start.visitAll (visits script)).finish

end QueryGuard.Tree
