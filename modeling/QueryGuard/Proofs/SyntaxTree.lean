import QueryGuard.Proofs.Refinement

/-!
# The tree of a script, by its syntax

The tree once more, this time by recursion on the script itself: no visits, no places, no names to
give out. A query has a node of its kind, and below it come its common table expressions, its body
and its other clauses. The body of a common table expression, and no other query, is wrapped in a
node with the alias. All that is passed down is whether names of relations are left out, which a
statement or an item of FROM settles for everything inside it.

What a builder counts is thereby shown to be right. The bodies of the common table expressions of a
query are entered first, so they take up all its names (`loweringAll_visitCtes`), and whatever is
entered later finds none left (`Place.Spent`).

Main results:

* `Query.lowering_visit` — a query at any place: its node, wrapped if a name is to be given out.
* `ofScript_eq_scriptNode` — the tree of a script is the one by its syntax.
-/

namespace QueryGuard.Sql

open QueryGuard.Tree

-- ---------------------------------------------------------------------------
-- Nodes by syntax
-- ---------------------------------------------------------------------------

/-- The node of a common table expression, apart from its body. -/
def cteLabel (aliasName : String) : Label where
  kind := .cte
  texts := [(Slot.aliasName, aliasName)]

/-- The node of a table that a query is all rows of. -/
def wholeTableLabel (table : String × Option String) : Label where
  kind := .table
  texts := (Slot.this, table.1) :: table.2.toList.map (Slot.db, ·)

mutual

/-- The nodes of a statement. -/
def Statement.nodes : Statement → List Node
  | .query q => [q.node false]
  | .plain form parts =>
    [Label.node ⟨form.kind, []⟩ (hang ((copySource? (some form)).toList.map tableLabel)
      (nodesOfParts form.listsSchema parts))]

/-- The node of a query, without the one around it if it is the body of a common table expression.
`owned` says whether names of relations are left out around the query. -/
def Query.node (owned : Bool) : Query → Node
  | .mk ctes body rest =>
    Label.node ⟨body.kind, []⟩ (hang (body.wholeTable.toList.map wholeTableLabel)
      (nodesOfCtes owned ctes ++ body.nodes owned ++ nodesOfParts owned rest))

/-- The nodes of common table expressions: each has that of its body as its only child. -/
def nodesOfCtes (owned : Bool) : List Cte → List Node
  | [] => []
  | .mk aliasName q :: rest => (cteLabel aliasName).node [q.node owned] :: nodesOfCtes owned rest

/-- The nodes of what is in the body of a query. -/
def Body.nodes (owned : Bool) : Body → List Node
  | .select _ parts => nodesOfParts owned parts
  | .nested q => [q.node owned]
  | .setOperation _ left right => left.nodes owned ++ right.nodes owned
  | .values parts => nodesOfParts owned parts
  | .table _ _ => []
  | .write s => s.nodes

/-- The nodes of an item of FROM. The name of a table is in the node of the item already. -/
def TableFactor.nodes : TableFactor → List Node
  | .table name aliasName none rest =>
    [((tableLabel name).withAlias aliasName).node (nodesOfParts true rest)]
  | .table _ _ (some args) rest => nodesOfParts true args ++ nodesOfParts true rest
  | .derived aliasName q rest =>
    [(Label.withAlias ⟨.subquery, []⟩ aliasName).node (q.node false :: nodesOfParts false rest)]
  | .compound parts => nodesOfParts false parts

/-- The nodes of parts of clauses. -/
def nodesOfParts (owned : Bool) : List Part → List Node
  | [] => []
  | .statement s :: rest => s.nodes ++ nodesOfParts owned rest
  | .query q :: rest => q.node owned :: nodesOfParts owned rest
  | .factor f :: rest => f.nodes ++ nodesOfParts owned rest
  | .relation name :: rest =>
    (if owned then [] else [(tableLabel name).node []]) ++ nodesOfParts owned rest

end

/-- The tree of a script. -/
def scriptNode (script : List Statement) : Node :=
  Label.node ⟨.script, []⟩ (script.flatMap (·.nodes))

-- ---------------------------------------------------------------------------
-- Places with no name left
-- ---------------------------------------------------------------------------

namespace Place

/-- All names of the nearest query around have been given out. -/
def Spent (p : Place) : Prop :=
  p.ctes.length ≤ p.before

/-- Where no name is left to be given out, a query gets none. It is then no body of a common table
expression. -/
theorem Spent.cteName?_eq_none {p : Place} (hp : p.Spent) : p.cteName? = none :=
  List.getElem?_eq_none hp

/-- Names are given out in order, so where none is left there is none later on. -/
theorem Spent.after {p : Place} (hp : p.Spent) (v : Visit) : (p.after v).Spent :=
  Nat.le_add_right_of_le hp

/-- Entering anything but a query leaves the names of the query around as they are. A query brings
its own, and starts to give them out from the first. -/
theorem Spent.within {p : Place} (hp : p.Spent) {entry : Entry}
    (hEntry : ∀ ctes kind table, entry ≠ .query ctes kind table) : (p.within entry).Spent := by
  obtain ⟨hCtes, hBefore⟩ := within_of_ne_query hEntry p
  rw [Spent, hCtes, hBefore]
  exact hp

theorem spent_outermost : outermost.Spent :=
  Nat.le_refl 0

theorem Spent.afterAll {p : Place} (hp : p.Spent) (vs : List Visit) : (p.afterAll vs).Spent :=
  Nat.le_add_right_of_le hp

end Place

/-- A query counts once for the query around it, whatever queries are inside. So it takes one of
the names there. -/
theorem Query.queries_visit (q : Query) : q.visit.queries = 1 := by
  cases q with
  | mk ctes body rest => rfl

/-- A query is entered for each common table expression. -/
theorem queriesOfVisits_visitCtes (ctes : List Cte) :
    queriesOfVisits (visitCtes ctes) = ctes.length := by
  induction ctes with
  | nil => rfl
  | cons c ctes ih =>
    match c with
    | .mk aliasName q =>
      rw [visitCtes, queriesOfVisits, ih, q.queries_visit, List.length_cons, Nat.add_comm]

-- ---------------------------------------------------------------------------
-- Lowerings of visits
-- ---------------------------------------------------------------------------

mutual

/-- A statement gives a node of its kind over those of its parts, and a copied table comes between
them. A statement that is a query gives only the nodes of the query. The lemmas of this group are
proved together, one case for each form of syntax. -/
theorem Statement.lowering_visit {p : Place} (hp : p.Spent) (s : Statement) :
    lowering p s.visit = s.nodes := by
  match s with
  | .query q =>
    have hInside : (p.within (.statement none)).Spent := hp.within (by simp)
    rw [Statement.visit, lowering, loweringAll_singleton, Query.lowering_visit,
      hInside.cteName?_eq_none, owned_within]
    rfl
  | .plain form parts =>
    have hInside : (p.within (.statement (some form))).Spent := hp.within (by simp)
    rw [Statement.visit, lowering, loweringAll_visitParts hInside, owned_within]
    rfl

/-- **A query at any place.** Its node is wrapped if a name is to be given out there, and is the
same node otherwise. What is inside does not depend on the place but for being owned. -/
theorem Query.lowering_visit (p : Place) (q : Query) :
    lowering p q.visit = hang (p.cteName?.toList.map cteLabel) [q.node p.owned] := by
  match q with
  | .mk ctes body rest =>
    let names := ctes.map (·.aliasName)
    let inside := p.within (.query names body.kind body.wholeTable)
    -- the bodies of its common table expressions take up all the names of the query
    have hCtes := loweringAll_visitCtes inside ctes rfl
    have hSpent : (inside.afterAll (visitCtes ctes)).Spent := by
      have hNames : names.length = ctes.length := List.length_map _
      have hEntered := queriesOfVisits_visitCtes ctes
      show names.length ≤ 0 + queriesOfVisits (visitCtes ctes)
      omega
    have hBody := Body.loweringAll_visits hSpent body
    have hRest := loweringAll_visitParts (hSpent.afterAll body.visits) rest
    have hInside : loweringAll inside (visitCtes ctes ++ body.visits ++ visitParts rest) =
        nodesOfCtes p.owned ctes ++ body.nodes p.owned ++ nodesOfParts p.owned rest := by
      rw [List.append_assoc, loweringAll_append, loweringAll_append, hCtes, hBody, hRest,
        ← List.append_assoc]
      rfl
    rw [Query.visit, Query.entry, Query.kind, lowering, hInside, Query.node, chain,
      List.append_assoc, hang_append]
    rfl

/-- **Names go to their own bodies.** Where the names still to be given out are those of common
table expressions, each of these is wrapped in a node with its own: the visits come in the order of
the names, one query each. -/
theorem loweringAll_visitCtes (p : Place) (ctes : List Cte)
    (hNames : p.ctes.drop p.before = ctes.map (·.aliasName)) :
    loweringAll p (visitCtes ctes) = nodesOfCtes p.owned ctes := by
  match ctes with
  | [] => rfl
  | .mk aliasName q :: rest =>
    -- the next query takes the next name, and leaves the others to those behind it
    have hName : p.cteName? = some aliasName := by
      rw [Place.cteName?, ← List.head?_drop, hNames]
      rfl
    have hRest : (p.after q.visit).ctes.drop (p.after q.visit).before =
        rest.map (·.aliasName) := by
      show p.ctes.drop (p.before + q.visit.queries) = _
      rw [q.queries_visit, ← List.drop_drop, hNames]
      rfl
    rw [visitCtes, loweringAll, Query.lowering_visit, hName,
      loweringAll_visitCtes (p.after q.visit) rest hRest, Place.owned_after]
    rfl

/-- A body stands behind the common table expressions, so no names are left there. Its nodes are
those of what is in it. -/
theorem Body.loweringAll_visits {p : Place} (hp : p.Spent) (b : Body) :
    loweringAll p b.visits = b.nodes p.owned := by
  match b with
  | .select into parts => rw [Body.visits, loweringAll_visitParts hp, Body.nodes]
  | .nested q =>
    rw [Body.visits, loweringAll_singleton, Query.lowering_visit, hp.cteName?_eq_none]
    rfl
  | .setOperation op left right =>
    rw [Body.visits, loweringAll_append, Body.loweringAll_visits hp left,
      Body.loweringAll_visits (hp.afterAll left.visits) right]
    rfl
  | .values parts => rw [Body.visits, loweringAll_visitParts hp, Body.nodes]
  | .table name schema => rfl
  | .write s => rw [Body.visits, loweringAll_singleton, Statement.lowering_visit hp, Body.nodes]

/-- An item of FROM owns the relations inside or does not, so its nodes are the same wherever it
stands. The relation that repeats the name of a table gives no node. -/
theorem TableFactor.lowering_visit {p : Place} (hp : p.Spent) (f : TableFactor) :
    lowering p f.visit = f.nodes := by
  match f with
  | .table name aliasName none rest =>
    have hInside : (p.within (.table name aliasName false)).Spent := hp.within (by simp)
    -- the relation that repeats the name is owned by the table, so it gives no node
    have hRest := loweringAll_visitParts (hInside.after (.mk (.relation name) [])) rest
    rw [TableFactor.visit, lowering, loweringAll, hRest]
    rfl
  | .table name aliasName (some args) rest =>
    have hInside : (p.within (.table name aliasName true)).Spent := hp.within (by simp)
    -- of a call neither the name nor the item has a node, only what is in the arguments
    have hBehind := hInside.after (.mk (.relation name) [])
    have hArgs := loweringAll_visitParts hBehind args
    have hRest := loweringAll_visitParts (hBehind.afterAll (visitParts args)) rest
    rw [TableFactor.visit, lowering, loweringAll, loweringAll_append, hArgs, hRest]
    rfl
  | .derived aliasName q rest =>
    have hInside : (p.within (.derived aliasName)).Spent := hp.within (by simp)
    have hRest := loweringAll_visitParts (hInside.after q.visit) rest
    rw [Place.owned_after, owned_within] at hRest
    rw [TableFactor.visit, lowering, loweringAll, Query.lowering_visit,
      hInside.cteName?_eq_none, owned_within, hRest]
    rfl
  | .compound parts =>
    have hInside : (p.within .compound).Spent := hp.within (by simp)
    rw [TableFactor.visit, lowering, loweringAll_visitParts hInside, owned_within]
    rfl

/-- Parts of clauses give their nodes in order. A named relation gives one unless something around
owns it. -/
theorem loweringAll_visitParts {p : Place} (hp : p.Spent) (parts : List Part) :
    loweringAll p (visitParts parts) = nodesOfParts p.owned parts := by
  match parts with
  | [] => rfl
  | .statement s :: rest =>
    rw [visitParts, loweringAll, Statement.lowering_visit hp,
      loweringAll_visitParts (hp.after s.visit) rest]
    rfl
  | .query q :: rest =>
    rw [visitParts, loweringAll, Query.lowering_visit, hp.cteName?_eq_none,
      loweringAll_visitParts (hp.after q.visit) rest]
    rfl
  | .factor f :: rest =>
    rw [visitParts, loweringAll, TableFactor.lowering_visit hp,
      loweringAll_visitParts (hp.after f.visit) rest]
    rfl
  | .relation name :: rest =>
    -- a relation alone: a node, unless it is owned
    have hRelation : lowering p (.mk (.relation name) []) =
        if p.owned then [] else [(tableLabel name).node []] := by
      rw [lowering, chain]
      split
      · rfl
      · rfl
    rw [visitParts, loweringAll, hRelation,
      loweringAll_visitParts (hp.after (.mk (.relation name) [])) rest]
    rfl

end

/-- A script gives the nodes of its statements in order, each as if it stood alone, since no names
are left behind a statement. -/
theorem loweringAll_visits {p : Place} (hp : p.Spent) (script : List Statement) :
    loweringAll p (visits script) = script.flatMap (·.nodes) := by
  induction script generalizing p with
  | nil => rfl
  | cons s script ih =>
    have hRest := ih (hp.after s.visit)
    rw [visits] at hRest
    rw [visits, List.map_cons, loweringAll, Statement.lowering_visit hp, hRest, List.flatMap_cons]

/-- **The tree by its syntax.** The builder's tree of a script is the one by recursion on it, in
which neither stacks nor places are left. -/
theorem ofScript_eq_scriptNode (script : List Statement) :
    ofScript script = scriptNode script := by
  rw [ofScript_eq_lowered, lowered, loweringAll_visits Place.spent_outermost, scriptNode]

end QueryGuard.Sql
