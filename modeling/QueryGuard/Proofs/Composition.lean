import QueryGuard.Proofs.Classification
import QueryGuard.Proofs.References
import QueryGuard.Proofs.SyntaxTree

/-!
# Composition — scripts statement by statement

One builder goes through all statements of a script, yet no statement shows in the nodes of another:
below the root, the nodes of two scripts put together are those of the one followed by those of the
other. Every question put to a tree is put to all its nodes, so the answers compose. A kind looked
for is found in the first script that has it; names gathered are gathered from both.

The aliases of common table expressions count for the whole tree, so putting scripts together may
hide a table of one behind an alias of the other, and never shows one that neither shows.

In what order the statements stand matters for the kind that a rejection names and for nothing else.

Main results:

* `below_append` / `perm_below` — the nodes below the root, for scripts put together and reordered.
* `disallowed?_append` — the first disallowed kind of scripts put together.
* `ofScript_composes` — **verdict and tables of scripts put together, and of scripts reordered.**
-/

namespace QueryGuard.Tree

open Sql

-- ---------------------------------------------------------------------------
-- Below the root
-- ---------------------------------------------------------------------------

/-- The nodes below the root of a script's tree, along its walk. -/
def below (script : List Statement) : List Node :=
  Node.preorderOfNodes (ofScript script).children

theorem kind_ofScript (script : List Statement) : (ofScript script).kind = .script := by
  rw [ofScript_eq_scriptNode, scriptNode, Label.kind_node]

/-- Below the root are the nodes of the statements, in order. -/
theorem children_ofScript (script : List Statement) :
    (ofScript script).children = script.flatMap (·.nodes) := by
  rw [ofScript_eq_scriptNode, scriptNode, Label.children_node]

theorem walk_ofScript (script : List Statement) :
    (ofScript script).walk = ofScript script :: below script := by
  rw [Node.walk_eq_preorder, Node.preorder_eq, below]

/-- The children of the root, of scripts put together. -/
theorem children_append (a b : List Statement) :
    (ofScript (a ++ b)).children = (ofScript a).children ++ (ofScript b).children := by
  rw [children_ofScript, children_ofScript, children_ofScript, List.flatMap_append]

/-- Everything below the root, of scripts put together, is what is below the first root and then
what is below the second. -/
theorem below_append (a b : List Statement) : below (a ++ b) = below a ++ below b := by
  rw [below, children_append, Node.preorderOfNodes_append, below, below]

/-- What is below the root comes statement by statement, and of a statement nothing depends on the
others. Everything about scripts put together or reordered follows from this. -/
theorem below_eq_flatMap (script : List Statement) :
    below script = script.flatMap fun s => Node.preorderOfNodes s.nodes := by
  rw [below, children_ofScript]
  induction script with
  | nil => rfl
  | cons s script ih =>
    rw [List.flatMap_cons, Node.preorderOfNodes_append, ih, List.flatMap_cons]

/-- Everything below the root, of scripts reordered, is the same up to order. What does not depend
on order, such as a set of names, is therefore the same. -/
theorem perm_below {a b : List Statement} (h : a.Perm b) : (below a).Perm (below b) := by
  rw [below_eq_flatMap, below_eq_flatMap]
  exact h.flatMap_right _

-- ---------------------------------------------------------------------------
-- The verdict
-- ---------------------------------------------------------------------------

/-- The root is of no disallowed kind, so the first such node is below it. -/
theorem disallowed?_eq_below (script : List Statement) :
    (ofScript script).disallowed? =
      ((below script).find? (·.kind.isDisallowed)).map (·.kind) := by
  have hRoot : ¬ (ofScript script).kind.isDisallowed = true := by
    rw [kind_ofScript]
    decide
  rw [Node.disallowed?, walk_ofScript,
    List.find?_cons_of_neg (p := fun n : Node => n.kind.isDisallowed) hRoot]

/-- The first disallowed node of two scripts put together is that of the first script if it has
one. Only if it has none does the second script decide. -/
theorem disallowed?_append (a b : List Statement) :
    (ofScript (a ++ b)).disallowed? = ((ofScript a).disallowed?).or (ofScript b).disallowed? := by
  rw [disallowed?_eq_below, disallowed?_eq_below, disallowed?_eq_below, below_append,
    List.find?_append, Option.map_or]

/-- Judging two scripts put together is judging the first and, if it is accepted, the second. So
the failure is that of the first to be rejected. -/
theorem result_classify_append (a b : List Statement) :
    (classify (ofScript (a ++ b))).result =
      (classify (ofScript a)).result.bind fun _ => (classify (ofScript b)).result := by
  rw [result_classify, result_classify, result_classify, disallowed?_append]
  cases (ofScript a).disallowed? with
  | none => rfl
  | some kind => rfl

/-- Two scripts put together are accepted exactly if both are. -/
theorem result_classify_append_eq_ok {a b : List Statement} :
    (classify (ofScript (a ++ b))).result = .ok () ↔
      (classify (ofScript a)).result = .ok () ∧ (classify (ofScript b)).result = .ok () := by
  rw [result_classify_append]
  cases (classify (ofScript a)).result with
  | error e => simp [Except.bind]
  | ok _ => simp [Except.bind]

/-- Whether there is a disallowed node does not depend on the order of the statements. Which is the
first may, so no more can be said. -/
theorem disallowed?_eq_none_perm {a b : List Statement} (h : a.Perm b) :
    (ofScript a).disallowed? = none ↔ (ofScript b).disallowed? = none := by
  simp only [disallowed?_eq_below, Option.map_eq_none_iff, List.find?_eq_none,
    (perm_below h).mem_iff]

/-- Reordered scripts are both accepted or both rejected for a statement. Of several disallowed
kinds the first is named, so the two rejections may name different ones. -/
theorem result_classify_perm {a b : List Statement} (h : a.Perm b) :
    (classify (ofScript a)).result = .ok () ∧ (classify (ofScript b)).result = .ok () ∨
      ∃ k l, (classify (ofScript a)).result = .error (.disallowedStatement k) ∧
        (classify (ofScript b)).result = .error (.disallowedStatement l) := by
  have hNone := disallowed?_eq_none_perm h
  -- of several disallowed kinds the first is named, and which is first depends on the order
  rw [result_classify, result_classify]
  cases hA : (ofScript a).disallowed? with
  | none => exact Or.inl ⟨rfl, by rw [hNone.mp hA]⟩
  | some k =>
    cases hB : (ofScript b).disallowed? with
    | none =>
      rw [hNone.mpr hB] at hA
      cases hA
    | some l => exact Or.inr ⟨_, _, rfl, rfl⟩

-- ---------------------------------------------------------------------------
-- Names
-- ---------------------------------------------------------------------------

/-- The tables of a tree are the names of its table nodes, without those to be left out. -/
theorem mem_tables {n : Node} {without : NameSet} {name : String} :
    name ∈ n.tables without ↔
      (∃ m ∈ n.walk, m.kind = .table ∧ m.name? = some name) ∧ name ∉ without := by
  simp [Node.tables, and_assoc]

/-- The root is no table, so the tables of a script are named below it. -/
theorem mem_tables_empty_iff_below {script : List Statement} {name : String} :
    name ∈ (ofScript script).tables .empty ↔
      ∃ m ∈ below script, m.kind = .table ∧ m.name? = some name := by
  simp [mem_tables, walk_ofScript, kind_ofScript]

theorem mem_cteNames_iff_below {script : List Statement} {name : String} :
    name ∈ (ofScript script).cteNames ↔
      ∃ m ∈ below script, m.kind = .cte ∧ m.aliasName? = some name := by
  simp [mem_cteNames, walk_ofScript, kind_ofScript]

/-- The base tables of any tree are all its tables but for its aliases. -/
theorem mem_baseTables_iff {n : Node} {name : String} :
    name ∈ n.baseTables ↔ name ∈ n.tables .empty ∧ name ∉ n.cteNames := by
  simp [Node.baseTables, mem_tables]

/-- The aliases of two scripts put together are those of both. -/
theorem mem_cteNames_append {a b : List Statement} {name : String} :
    name ∈ (ofScript (a ++ b)).cteNames ↔
      name ∈ (ofScript a).cteNames ∨ name ∈ (ofScript b).cteNames := by
  simp only [mem_cteNames_iff_below, below_append, List.mem_append, or_and_right, exists_or]

theorem mem_tables_append {a b : List Statement} {name : String} :
    name ∈ (ofScript (a ++ b)).tables .empty ↔
      name ∈ (ofScript a).tables .empty ∨ name ∈ (ofScript b).tables .empty := by
  simp only [mem_tables_empty_iff_below, below_append, List.mem_append, or_and_right, exists_or]

/-- The base tables are not: an alias of the one script hides a table of the other. They are the
tables of both without the aliases of both. -/
theorem mem_baseTables_append {a b : List Statement} {name : String} :
    name ∈ (ofScript (a ++ b)).baseTables ↔
      (name ∈ (ofScript a).tables .empty ∨ name ∈ (ofScript b).tables .empty) ∧
        ¬ (name ∈ (ofScript a).cteNames ∨ name ∈ (ofScript b).cteNames) := by
  rw [mem_baseTables_iff, mem_tables_append, mem_cteNames_append]

/-- Scripts put together show no table that neither shows. -/
theorem mem_baseTables_or_of_append {a b : List Statement} {name : String}
    (h : name ∈ (ofScript (a ++ b)).baseTables) :
    name ∈ (ofScript a).baseTables ∨ name ∈ (ofScript b).baseTables := by
  obtain ⟨hTables, hAliases⟩ := mem_baseTables_append.mp h
  rw [not_or] at hAliases
  rcases hTables with hA | hB
  · exact Or.inl (mem_baseTables_iff.mpr ⟨hA, hAliases.1⟩)
  · exact Or.inr (mem_baseTables_iff.mpr ⟨hB, hAliases.2⟩)

/-- The order of the statements does not matter for the base tables, as an alias hides a table
wherever it is defined. -/
theorem baseTables_perm {a b : List Statement} (h : a.Perm b) :
    (ofScript a).baseTables = (ofScript b).baseTables := by
  apply NameSet.ext
  intro name
  -- every test is made somewhere below the root, so the order of what is there is lost
  simp only [mem_baseTables_iff, mem_tables_empty_iff_below, mem_cteNames_iff_below,
    (perm_below h).mem_iff]

-- ---------------------------------------------------------------------------
-- Scripts put together and reordered
-- ---------------------------------------------------------------------------

/-- **Scripts compose statement by statement.** Of two scripts put together, the statements' nodes
are those of the one followed by those of the other; they are accepted exactly if both are, and the
failure is that of the first to be rejected; their aliases are those of both, and their tables those
of both but for the aliases of either, so none that neither shows. And a script whose statements are
reordered is accepted if it was before and shows the same tables; only the kind that a rejection
names may be another. -/
theorem ofScript_composes :
    (∀ a b : List Statement,
      (ofScript (a ++ b)).children = (ofScript a).children ++ (ofScript b).children ∧
      ((classify (ofScript (a ++ b))).result = .ok () ↔
        (classify (ofScript a)).result = .ok () ∧ (classify (ofScript b)).result = .ok ()) ∧
      ((classify (ofScript (a ++ b))).result =
        (classify (ofScript a)).result.bind fun _ => (classify (ofScript b)).result) ∧
      (∀ name, name ∈ (ofScript (a ++ b)).cteNames ↔
        name ∈ (ofScript a).cteNames ∨ name ∈ (ofScript b).cteNames) ∧
      (∀ name, name ∈ (ofScript (a ++ b)).baseTables ↔
        (name ∈ (ofScript a).tables .empty ∨ name ∈ (ofScript b).tables .empty) ∧
          ¬ (name ∈ (ofScript a).cteNames ∨ name ∈ (ofScript b).cteNames)) ∧
      ∀ name ∈ (ofScript (a ++ b)).baseTables,
        name ∈ (ofScript a).baseTables ∨ name ∈ (ofScript b).baseTables) ∧
    ∀ a b : List Statement, a.Perm b →
      (ofScript a).baseTables = (ofScript b).baseTables ∧
      ((classify (ofScript a)).result = .ok () ∧ (classify (ofScript b)).result = .ok () ∨
        ∃ k l, (classify (ofScript a)).result = .error (.disallowedStatement k) ∧
          (classify (ofScript b)).result = .error (.disallowedStatement l)) := by
  refine ⟨?_, ?_⟩
  · intro a b
    exact ⟨children_append a b, result_classify_append_eq_ok, result_classify_append a b,
      fun _ => mem_cteNames_append, fun _ => mem_baseTables_append,
      fun _ hName => mem_baseTables_or_of_append hName⟩
  · -- reordered: the sets of names are the same, and so is whether something is rejected
    intro a b hPerm
    exact ⟨baseTables_perm hPerm, result_classify_perm hPerm⟩

/-- Two statements that are disallowed, put together and in either order. -/
theorem ofScript_composes_swap :
    ("t" ∈ (ofScript ([.plain .delete [.relation ["t"]]] ++
        [.plain .drop [.relation ["u"]]])).baseTables ∧
      ("t" ∈ (ofScript [.plain .delete [.relation ["t"]]]).baseTables ∨
        "t" ∈ (ofScript [.plain .drop [.relation ["u"]]]).baseTables)) ∧
    [Statement.plain .delete [.relation ["t"]], .plain .drop [.relation ["u"]]].Perm
      [.plain .drop [.relation ["u"]], .plain .delete [.relation ["t"]]] ∧
    (ofScript [.plain .delete [.relation ["t"]], .plain .drop [.relation ["u"]]]).baseTables =
      (ofScript [.plain .drop [.relation ["u"]], .plain .delete [.relation ["t"]]]).baseTables := by
  obtain ⟨hTogether, hReordered⟩ := ofScript_composes
  have hTable : "t" ∈ (ofScript ([.plain .delete [.relation ["t"]]] ++
      [.plain .drop [.relation ["u"]]])).baseTables := by decide +kernel
  have hSwap : [Statement.plain .delete [.relation ["t"]], .plain .drop [.relation ["u"]]].Perm
      [.plain .drop [.relation ["u"]], .plain .delete [.relation ["t"]]] := List.Perm.swap ..
  exact ⟨⟨hTable, (hTogether _ _).2.2.2.2.2 _ hTable⟩, hSwap, (hReordered _ _ hSwap).1⟩

end QueryGuard.Tree
