import Mathlib.Data.List.Basic
import QueryGuard.Proofs.Refinement
import QueryGuard.Tree.Reference

/-!
# Classification — complete and exact for scripts

A script is rejected for the kinds of its statements and for nothing else. Its tree has more nodes
than it has statements: queries, items of FROM, tables, common table expressions and the tables of
copies have theirs, none of a disallowed kind (`filter_kinds_chain`), and a walk meets the nodes of
statements in the order in which the statements are entered. So the first disallowed node of the
tree is that of the first disallowed statement.

Main results:

* `filter_kinds_walk` — along the walk, the disallowed kinds are those of the statements entered.
* `classify_ofScript` — the verdict on a script, by the statements in it at any depth.
-/

namespace QueryGuard

-- ---------------------------------------------------------------------------
-- Kinds of statements
-- ---------------------------------------------------------------------------

/-- The kinds that a script must not hold. -/
def disallowedKinds : List NodeKind :=
  [.create, .alter, .update, .insert, .delete, .drop, .merge, .grant, .set]

/-- The test of a kind and the list of disallowed kinds, which is written out apart from it,
agree. -/
theorem isDisallowed_iff (kind : NodeKind) : kind.isDisallowed = true ↔ kind ∈ disallowedKinds := by
  cases kind <;> decide

namespace Sql

/-- The kind of a statement; one that is a query has none besides that of the query. -/
def Statement.kind? : Statement → Option NodeKind
  | .query _ => none
  | .plain form _ => some form.kind

/-- The kind of the statement that a constituent is. -/
def Constituent.statementKind? : Constituent → Option NodeKind
  | .statement s => s.kind?
  | _ => none

/-- The kind of the statement that is entered. -/
def Entry.statementKind? : Entry → Option NodeKind
  | .statement form => form.map (·.kind)
  | _ => none

/-- The kinds of the statements that visits enter, in order. -/
def enteredKinds (vs : List Visit) : List NodeKind :=
  (entriesOfVisits vs).filterMap (·.statementKind?)

/-- A visit of a script enters every statement in it, at any depth, in reading order. A statement
that is a query has no kind of its own here: it is entered as a statement and says nothing. -/
theorem enteredKinds_visits (script : List Statement) :
    enteredKinds (visits script) = (constituents script).filterMap (·.statementKind?) := by
  rw [enteredKinds, entriesOfVisits_visits, List.filterMap_filterMap]
  congr 1
  funext c
  match c with
  | .statement (.query q) => rfl
  | .statement (.plain form parts) => rfl
  | .query (.mk ctes body rest) => rfl
  | .cte _ => rfl
  | .body _ => rfl
  | .factor (.table _ _ _ _) => rfl
  | .factor (.derived _ _ _) => rfl
  | .factor (.compound _) => rfl
  | .relation _ => rfl

/-- No query is of a disallowed kind. -/
theorem isDisallowed_of_mem_queryKinds : ∀ kind ∈ queryKinds, kind.isDisallowed = false := by
  decide

end Sql

namespace Tree

open Sql

-- ---------------------------------------------------------------------------
-- Kinds along a walk
-- ---------------------------------------------------------------------------

/-- Of the nodes of an entry only that of a statement can be of a disallowed kind. The others are
queries, tables, subqueries and wrappers, none of which is disallowed. -/
theorem filter_kinds_chain (p : Place) {entry : Entry}
    (hQuery : ∀ ctes kind table, entry = .query ctes kind table → kind.isDisallowed = false) :
    ((chain p entry).map (·.kind)).filter (·.isDisallowed) =
      entry.statementKind?.toList.filter (·.isDisallowed) := by
  have hTable : NodeKind.isDisallowed .table = false := rfl
  have hCte : NodeKind.isDisallowed .cte = false := rfl
  match entry with
  | .statement none => rfl
  | .statement (some form) =>
    -- the table of a copy stands below the node of the statement
    have hCopied : (((copySource? (some form)).toList.map tableLabel).map (·.kind)).filter
        (·.isDisallowed) = [] := by
      cases copySource? (some form) with
      | none => rfl
      | some name => rfl
    rw [chain, List.map_append, List.filter_append, hCopied, List.append_nil]
    rfl
  -- the three kinds of nodes that a query opens, none of them disallowed
  | .query ctes kind table =>
    have hKind := hQuery ctes kind table rfl
    rw [chain, List.filter_eq_nil_iff.mpr]
    · rfl
    · intro k hk
      simp only [List.map_append, List.map_map, List.mem_append, List.mem_map,
        Function.comp_def, List.map_cons, List.map_nil, List.mem_singleton] at hk
      rcases hk with (⟨_, _, rfl⟩ | rfl) | ⟨_, _, rfl⟩
      · simp [hCte]
      · simp [hKind]
      · simp [hTable]
  | .table name aliasName called =>
    cases called with
    | false => rfl
    | true => rfl
  | .derived aliasName => rfl
  | .compound => rfl
  | .relation name =>
    rw [chain]
    split
    · rfl
    · rfl

/-- The disallowed kinds along the walk of a script's tree are those of the statements that a visit
enters, in the order it enters them. The root adds none, and neither do the nodes of the other
entries. -/
theorem filter_kinds_walk (script : List Statement) :
    ((ofScript script).walk.map (·.kind)).filter (·.isDisallowed) =
      (enteredKinds (visits script)).filter (·.isDisallowed) := by
  -- the kinds along the walk are those of the chains of what is entered, behind that of the root
  have hWalk : (ofScript script).walk.map (·.kind) = .script ::
      (enteredAll .outermost (visits script)).flatMap fun x => (chain x.1 x.2).map (·.kind) := by
    have hRead := flatMap_walk_lowered (fun n => [n.kind]) (fun l => [l.kind])
      (fun l cs => by rw [Label.kind_node]) (visits script)
    rw [← ofScript_eq_lowered] at hRead
    simpa only [List.flatMap_singleton', List.map_eq_flatMap, List.singleton_append] using hRead
  -- of each chain at most the kind of its statement is left
  have hChain : ∀ x ∈ enteredAll .outermost (visits script),
      ((chain x.1 x.2).map (·.kind)).filter (·.isDisallowed) =
        x.2.statementKind?.toList.filter (·.isDisallowed) := by
    intro x hx
    apply filter_kinds_chain
    intro ctes kind table hEntry
    exact isDisallowed_of_mem_queryKinds kind (kind_mem_queryKinds_of_entered hx hEntry)
  rw [hWalk, List.filter_cons_of_neg (by decide), List.filter_flatMap, List.flatMap_congr hChain,
    enteredKinds, ← map_snd_enteredAll .outermost, List.filterMap_eq_flatMap_toList,
    List.filter_flatMap, List.flatMap_map]

-- ---------------------------------------------------------------------------
-- The verdict
-- ---------------------------------------------------------------------------

/-- The first disallowed node is that of the first disallowed statement. -/
theorem disallowed?_ofScript (script : List Statement) :
    (ofScript script).disallowed? = (enteredKinds (visits script)).find? (·.isDisallowed) := by
  have hFind : (ofScript script).disallowed? =
      ((ofScript script).walk.map (·.kind)).find? (·.isDisallowed) := by
    rw [List.find?_map]
    rfl
  rw [hFind, ← List.head?_filter, filter_kinds_walk, List.head?_filter]

/-- The verdict on any tree, by its first disallowed node. -/
theorem result_classify (n : Node) :
    (classify n).result =
      match n.disallowed? with
      | none => .ok ()
      | some kind => .error (.disallowedStatement kind.upperKey) := by
  unfold classify
  cases n.disallowed? with
  | none => rfl
  | some kind => rfl

end Tree

end QueryGuard
