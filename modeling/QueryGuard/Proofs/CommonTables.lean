import Mathlib.Data.List.Forall2
import QueryGuard.Proofs.References
import QueryGuard.Proofs.SyntaxTree

/-!
# Common table expressions — aliases on their own bodies

The builder never sees a common table expression: it is told the aliases of a query on entering it
and hands them out to the queries entered beneath. That each alias comes to stand on the body it was
defined for is a fact about the order of visits, and `ofScript_eq_scriptNode` has settled it. Here
it is read off the tree: along the walk, the nodes of common table expressions are those of the
definitions in the script, in reading order and one for one.

A definition may stand anywhere: in a query in parentheses, in the body of another definition, in a
subquery of an expression, in the query that an INSERT takes its rows from.

Main results:

* `Query.attached` — the nodes below a query, against the definitions in it.
* `cteNodes_exact` — **the tree of a script has one such node for each definition**, with its alias
  and its body, and the names it collects are the aliases defined.
-/

namespace QueryGuard.Sql

-- ---------------------------------------------------------------------------
-- Definitions
-- ---------------------------------------------------------------------------

/-- The query that a common table expression stands for. -/
def Cte.query : Cte → Query
  | .mk _ query => query

/-- The common table expression that a constituent is. -/
def Constituent.cte? : Constituent → Option Cte
  | .cte c => some c
  | _ => none

/-- The common table expressions defined in a script, at any depth and in reading order. -/
def definitions (script : List Statement) : List Cte :=
  (constituents script).filterMap (·.cte?)

end QueryGuard.Sql

namespace QueryGuard.Tree

open Sql

/-- A node carries the alias of a common table expression, and its only child is the node of the
body. Whether names of relations are left out in the body is settled by what is around it. -/
structure Defines (n : Node) (c : Cte) : Prop where
  aliasName : n.aliasName? = some c.aliasName
  body : ∃ owned, n.children = [c.query.node owned]

/-- A node made of an alias and the node of a query stands for the definition of the alias as the
query. -/
theorem defines_cteLabel (aliasName : String) (q : Query) (owned : Bool) :
    Defines ((cteLabel aliasName).node [q.node owned]) (.mk aliasName q) where
  aliasName := by
    rw [Node.aliasName?, Label.value?_node (by decide)]
    rfl
  body := ⟨owned, Label.children_node _ _⟩

/-- Nodes that stand for definitions one for one have their aliases, in the same order. -/
theorem map_aliasName?_of_defines {ns : List Node} {cs : List Cte}
    (h : List.Forall₂ Defines ns cs) :
    ns.map (·.aliasName?) = cs.map fun c => some c.aliasName := by
  induction h with
  | nil => rfl
  | cons hDefines _ ih => rw [List.map_cons, List.map_cons, hDefines.aliasName, ih]

-- ---------------------------------------------------------------------------
-- Nodes of common table expressions
-- ---------------------------------------------------------------------------

/-- The nodes of common table expressions in several trees, in order. -/
def cteNodes (ns : List Node) : List Node :=
  (Node.preorderOfNodes ns).filter (·.kind = .cte)

theorem cteNodes_append (ns ms : List Node) : cteNodes (ns ++ ms) = cteNodes ns ++ cteNodes ms := by
  rw [cteNodes, Node.preorderOfNodes_append, List.filter_append, cteNodes, cteNodes]

/-- A node of another kind adds none to those below it. -/
theorem cteNodes_node {l : Label} (hKind : l.kind ≠ .cte) (cs : List Node) :
    cteNodes [l.node cs] = cteNodes cs := by
  rw [cteNodes, preorderOfNodes_node, List.filter_cons_of_neg (by simpa using hKind), cteNodes]

/-- A node of a common table expression comes before those in its body. -/
theorem cteNodes_cteLabel (aliasName : String) (cs : List Node) :
    cteNodes [(cteLabel aliasName).node cs] = (cteLabel aliasName).node cs :: cteNodes cs := by
  rw [cteNodes, preorderOfNodes_node, List.filter_cons_of_pos (by simp [cteLabel]), cteNodes]

/-- A chain of nodes of other kinds adds none either. -/
theorem cteNodes_hang {ls : List Label} (hKinds : ∀ l ∈ ls, l.kind ≠ .cte) (inner : List Node) :
    cteNodes (hang ls inner) = cteNodes inner := by
  induction ls with
  | nil => rfl
  | cons l ls ih =>
    rw [List.forall_mem_cons] at hKinds
    rw [hang, cteNodes_node hKinds.1, ih hKinds.2]

-- ---------------------------------------------------------------------------
-- Trees against the definitions in their syntax
-- ---------------------------------------------------------------------------

/-- The nodes of common table expressions in some trees are those of the definitions among some
constituents, one for one and in order. -/
def Attached (ns : List Node) (cs : List Constituent) : Prop :=
  List.Forall₂ Defines (cteNodes ns) (cs.filterMap (·.cte?))

namespace Attached

theorem nil : Attached [] [] :=
  List.Forall₂.nil

theorem append {ns ms : List Node} {cs ds : List Constituent} (h : Attached ns cs)
    (h' : Attached ms ds) : Attached (ns ++ ms) (cs ++ ds) := by
  rw [Attached, cteNodes_append, List.filterMap_append]
  exact List.rel_append h h'

/-- A constituent that is no definition changes nothing. -/
theorem skip {ns : List Node} {cs : List Constituent} (h : Attached ns cs) {c : Constituent}
    (hc : c.cte? = none) : Attached ns (c :: cs) := by
  rw [Attached, List.filterMap_cons_none hc]
  exact h

/-- Nor does a node of another kind around the trees. -/
theorem node {l : Label} (hKind : l.kind ≠ .cte) {ns : List Node} {cs : List Constituent}
    (h : Attached ns cs) : Attached [l.node ns] cs := by
  rw [Attached, cteNodes_node hKind]
  exact h

theorem hang {ls : List Label} (hKinds : ∀ l ∈ ls, l.kind ≠ .cte) {ns : List Node}
    {cs : List Constituent} (h : Attached ns cs) : Attached (hang ls ns) cs := by
  rw [Attached, cteNodes_hang hKinds]
  exact h

/-- A definition and the node around its body. -/
theorem cte {q : Query} {owned : Bool} {cs : List Constituent} (h : Attached [q.node owned] cs)
    (aliasName : String) :
    Attached [(cteLabel aliasName).node [q.node owned]] (.cte (.mk aliasName q) :: cs) := by
  rw [Attached, cteNodes_cteLabel, List.filterMap_cons_some (by rfl)]
  exact .cons (defines_cteLabel aliasName q owned) h

end Attached

end QueryGuard.Tree

namespace QueryGuard.Sql

open QueryGuard.Tree

/-- No statement is of the kind of a common table expression. -/
theorem StatementForm.kind_ne_cte (form : StatementForm) : form.kind ≠ .cte := fun h =>
  absurd (h ▸ form.kind_mem_statementKinds) (by decide)

theorem Body.kind_ne_cte (b : Body) : b.kind ≠ .cte := fun h =>
  absurd (h ▸ Body.kind_mem_queryKinds b) (by decide)

mutual

/-- The nodes of a statement match the definitions in it. The lemmas of this group are proved
together, one case for each form of syntax. -/
theorem Statement.attached (s : Statement) : Attached s.nodes s.constituents := by
  match s with
  | .query q => exact (Query.attached false q).skip rfl
  | .plain form parts =>
    have hCopied : ∀ l ∈ (copySource? (some form)).toList.map tableLabel, l.kind ≠ .cte :=
      List.forall_mem_map.mpr fun _ _ => by simp [tableLabel]
    have hParts := attached_parts form.listsSchema parts
    exact ((hParts.hang hCopied).node form.kind_ne_cte).skip rfl

/-- **Below a query** there is one node for each definition in it, at any depth, and no other. The
induction is over the syntax: a query adds the nodes of its own definitions to those of its parts.
-/
theorem Query.attached (owned : Bool) (q : Query) : Attached [q.node owned] q.constituents := by
  match q with
  | .mk ctes body rest =>
    have hWhole : ∀ l ∈ body.wholeTable.toList.map wholeTableLabel, l.kind ≠ .cte :=
      List.forall_mem_map.mpr fun _ _ => by simp [wholeTableLabel]
    have hCtes := attached_ctes owned ctes
    have hBody := Body.attached owned body
    have hRest := attached_parts owned rest
    exact ((((hCtes.append hBody).append hRest).hang hWhole).node body.kind_ne_cte).skip rfl

/-- Here the matching gains: each definition adds itself among the constituents, and its node among
the nodes, before those in its body. -/
theorem attached_ctes (owned : Bool) (ctes : List Cte) :
    Attached (nodesOfCtes owned ctes) (constituentsOfCtes ctes) := by
  match ctes with
  | [] => exact .nil
  | .mk aliasName q :: rest =>
    exact ((Query.attached owned q).cte aliasName).append (attached_ctes owned rest)

/-- A body defines nothing itself; what is in it may. It has no node of its own either, so the
nodes of its parts hang in that of the query around it. -/
theorem Body.attached (owned : Bool) (b : Body) : Attached (b.nodes owned) b.constituents := by
  match b with
  | .select into parts => exact (attached_parts owned parts).skip rfl
  | .nested q => exact (Query.attached owned q).skip rfl
  | .setOperation op left right =>
    exact ((Body.attached owned left).append (Body.attached owned right)).skip rfl
  | .values parts => exact (attached_parts owned parts).skip rfl
  | .table name schema => exact Attached.nil.skip rfl
  | .write s => exact (Statement.attached s).skip rfl

/-- An item of FROM defines nothing itself. The name of a table is a constituent without a node of
its own. -/
theorem TableFactor.attached (f : TableFactor) : Attached f.nodes f.constituents := by
  match f with
  | .table name aliasName none rest =>
    have hKind : ((tableLabel name).withAlias aliasName).kind ≠ .cte := by
      simp [Label.withAlias, tableLabel]
    exact (((attached_parts true rest).skip rfl).skip rfl).node hKind
  | .table name aliasName (some args) rest =>
    exact (((attached_parts true args).append (attached_parts true rest)).skip rfl).skip rfl
  | .derived aliasName q rest =>
    have hKind : (Label.withAlias ⟨.subquery, []⟩ aliasName).kind ≠ .cte := by
      simp [Label.withAlias]
    exact (((Query.attached false q).append (attached_parts false rest)).node hKind).skip rfl
  | .compound parts => exact (attached_parts false parts).skip rfl

/-- Parts of clauses: each has the nodes for the definitions in it, in order. A named relation
defines nothing, whether or not it gives a node. -/
theorem attached_parts (owned : Bool) (parts : List Part) :
    Attached (nodesOfParts owned parts) (constituentsOfParts parts) := by
  match parts with
  | [] => exact .nil
  | .statement s :: rest => exact (Statement.attached s).append (attached_parts owned rest)
  | .query q :: rest => exact (Query.attached owned q).append (attached_parts owned rest)
  | .factor f :: rest => exact (TableFactor.attached f).append (attached_parts owned rest)
  | .relation name :: rest =>
    have hRelation : Attached (if owned then [] else [(tableLabel name).node []])
        [.relation name] := by
      split
      · exact Attached.nil.skip rfl
      · exact (Attached.nil.skip rfl).node (by simp [tableLabel])
    exact hRelation.append (attached_parts owned rest)

end

/-- A script matches as its statements do, in order. -/
theorem attached_script (script : List Statement) :
    Attached (script.flatMap (·.nodes)) (constituents script) := by
  induction script with
  | nil => exact .nil
  | cons s script ih => exact (Statement.attached s).append ih

end QueryGuard.Sql

namespace QueryGuard.Tree

open Sql

/-- The nodes of common table expressions along the walk of a script's tree. -/
theorem forall₂_defines_walk (script : List Statement) :
    List.Forall₂ Defines ((ofScript script).walk.filter (·.kind = .cte)) (definitions script) := by
  have hWalk : (ofScript script).walk = Node.preorderOfNodes [scriptNode script] := by
    rw [ofScript_eq_scriptNode, Node.walk_eq_preorder, Node.preorderOfNodes, Node.preorderOfNodes,
      List.append_nil]
  rw [hWalk]
  exact (attached_script script).node (l := ⟨.script, []⟩) (by decide)

/-- The names that a script's tree collects are the aliases defined in the script. -/
theorem mem_cteNames_ofScript {script : List Statement} {name : String} :
    name ∈ (ofScript script).cteNames ↔ ∃ c ∈ definitions script, c.aliasName = name := by
  have hMem : name ∈ (ofScript script).cteNames ↔
      some name ∈ ((ofScript script).walk.filter (·.kind = .cte)).map (·.aliasName?) := by
    simp [mem_cteNames, and_assoc]
  rw [hMem, map_aliasName?_of_defines (forall₂_defines_walk script)]
  simp

/-- **Aliases are attached to their own bodies.** The tree of a script is the one by its syntax, in
which the body of each common table expression and no other query is wrapped. Along its walk the
nodes of common table expressions are, one for one and in order, those of the definitions anywhere
in the script, each with the alias of its definition and with the node of the body as its only
child. So the names collected are exactly the aliases defined. -/
theorem cteNodes_exact (script : List Statement) :
    ofScript script = scriptNode script ∧
      List.Forall₂ Defines ((ofScript script).walk.filter (·.kind = .cte)) (definitions script) ∧
      ∀ name, name ∈ (ofScript script).cteNames ↔ ∃ c ∈ definitions script, c.aliasName = name :=
  ⟨ofScript_eq_scriptNode script, forall₂_defines_walk script, fun _ => mem_cteNames_ofScript⟩

end QueryGuard.Tree
