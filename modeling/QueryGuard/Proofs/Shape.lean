import QueryGuard.Proofs.CommonTables
import QueryGuard.Proofs.Composition

/-!
# Shape — every tree of a script is well formed

The type of nodes allows anything: slots of one name twice, texts behind children, a table without a
name. Whoever reads a tree looks up slots by name and passes over what is not there, so a table
without a name or a common table expression without an alias would go unnoticed. No script has such
a tree. A node is opened with its texts in place and gathers children in one slot behind them, and
so each node is that of a `Label`; what is left to show is that the labels of every entry are proper
(`proper_of_mem_chain`).

Main results:

* `exists_proper_of_mem_below` — every node below the root is that of a proper label.
* `wellFormed_ofScript` — **the tree of a script is well formed**, for all scripts.
-/

namespace QueryGuard.Tree

open Sql

-- ---------------------------------------------------------------------------
-- Well-formed trees
-- ---------------------------------------------------------------------------

/-- The slots in which a node of a kind may hold texts. -/
def textSlots : NodeKind → List String
  | .table => [Slot.this, Slot.db, Slot.catalog, Slot.aliasName]
  | .cte => [Slot.aliasName]
  | .subquery => [Slot.aliasName]
  | _ => []

/-- A node has texts in slots of different names, all of them slots that its kind may hold texts in,
and behind them at most one slot more, which holds gathered children and is not empty. -/
def Node.Shaped (n : Node) : Prop :=
  ∃ (texts : List (String × String)) (behind : List Slot),
    n.slots = (texts.map fun t => .value t.1 t.2) ++ behind ∧
      (texts.map Prod.fst).Nodup ∧ (∀ t ∈ texts, t.1 ∈ textSlots n.kind) ∧
      (behind = [] ∨ ∃ c cs, behind = [.children Slot.expressions (c :: cs)])

/-- A tree is well formed. -/
structure WellFormed (tree : Node) : Prop where
  /-- The root is a script, -/
  root : tree.kind = .script
  /-- and nothing else is. -/
  below : ∀ n ∈ tree.walk.tail, n.kind ≠ .script
  /-- Texts come first, and children in one slot behind them. -/
  shaped : ∀ n ∈ tree.walk, n.Shaped
  /-- A table has a name. -/
  named : ∀ n ∈ tree.walk, n.kind = .table → ∃ name, n.name? = some name
  /-- A common table expression has an alias and a query as its only child. -/
  aliased : ∀ n ∈ tree.walk, n.kind = .cte →
    ∃ aliasName body, n.aliasName? = some aliasName ∧ n.children = [body] ∧ body.kind ∈ queryKinds

-- ---------------------------------------------------------------------------
-- Proper labels
-- ---------------------------------------------------------------------------

/-- The label of a node that may stand below the root. -/
structure Label.Proper (l : Label) : Prop where
  kind : l.kind ≠ .script
  nodup : (l.texts.map Prod.fst).Nodup
  texts : ∀ t ∈ l.texts, t.1 ∈ textSlots l.kind
  named : l.kind = .table → ∃ name, l.texts.lookup Slot.this = some name

/-- A node of a label is shaped, whatever its children. -/
theorem Label.shaped_node {l : Label} (hNodup : (l.texts.map Prod.fst).Nodup)
    (hTexts : ∀ t ∈ l.texts, t.1 ∈ textSlots l.kind) (cs : List Node) : (l.node cs).Shaped := by
  cases cs with
  | nil => exact ⟨l.texts, [], (List.append_nil _).symm, hNodup, hTexts, Or.inl rfl⟩
  | cons c cs => exact ⟨l.texts, _, rfl, hNodup, hTexts, Or.inr ⟨c, cs, rfl⟩⟩

/-- A node with no texts but perhaps an alias has a proper label, unless its kind is that of the
root or that of tables, which need a name. -/
theorem proper_of_ne {kind : NodeKind} (hScript : kind ≠ .script) (hTable : kind ≠ .table)
    (aliasName : Option String) (hSlot : ∀ a ∈ aliasName, Slot.aliasName ∈ textSlots kind) :
    Label.Proper ⟨kind, aliasName.toList.map (Slot.aliasName, ·)⟩ where
  kind := hScript
  nodup := by
    cases aliasName with
    | none => exact List.nodup_nil
    | some a => simp
  texts := by
    cases aliasName with
    | none => simp
    | some a => simpa using hSlot
  named := fun h => absurd h hTable

/-- The labels of statements and queries have no texts, so it is enough that their kinds are none
of the two that are asked for more. -/
theorem proper_of_mem {kinds : List NodeKind} (hScript : .script ∉ kinds) (hTable : .table ∉ kinds)
    {kind : NodeKind} (hKind : kind ∈ kinds) : Label.Proper ⟨kind, []⟩ :=
  proper_of_ne (fun h => hScript (h ▸ hKind)) (fun h => hTable (h ▸ hKind)) none (by simp)

/-- A table with or without schema, catalog and alias. -/
theorem proper_table (name : String) (db catalog aliasName : Option String) :
    Label.Proper ⟨.table, (Slot.this, name) :: (db.toList.map (Slot.db, ·)
      ++ catalog.toList.map (Slot.catalog, ·) ++ aliasName.toList.map (Slot.aliasName, ·))⟩ where
  kind := by simp
  nodup := by
    cases db <;> cases catalog <;> cases aliasName <;>
      simp [Slot.this, Slot.db, Slot.catalog, Slot.aliasName]
  texts := by
    cases db <;> cases catalog <;> cases aliasName <;> simp [textSlots]
  named := fun _ => ⟨name, by simp⟩

/-- A table in FROM, by its name and perhaps with an alias. -/
theorem proper_withAlias (name : ObjectName) (aliasName : Option String) :
    ((tableLabel name).withAlias aliasName).Proper :=
  proper_table (lastPart name) name.dropLast.getLast? name.dropLast.dropLast.getLast? aliasName

theorem proper_tableLabel (name : ObjectName) : (tableLabel name).Proper := by
  have hAlias := proper_withAlias name none
  rw [Label.withAlias, Option.toList_none, List.map_nil, List.append_nil] at hAlias
  exact hAlias

/-- **The labels of an entry are proper**, wherever it stands: its kind is not that of the root,
its texts are such as nodes of the kind may have, each once, and it has a name if it is a table. -/
theorem proper_of_mem_chain (p : Place) {entry : Entry}
    (hQuery : ∀ ctes kind table, entry = .query ctes kind table → kind ∈ queryKinds) {l : Label}
    (hl : l ∈ chain p entry) : l.Proper := by
  match entry with
  | .statement form =>
    -- the node of the statement, or that of the table it copies
    rcases List.mem_append.mp hl with hForm | hSource
    · obtain ⟨f, -, rfl⟩ := List.mem_map.mp hForm
      exact proper_of_mem (by decide) (by decide) f.kind_mem_statementKinds
    · obtain ⟨name, -, rfl⟩ := List.mem_map.mp hSource
      exact proper_tableLabel name
  | .query ctes kind table =>
    rcases List.mem_append.mp hl with hl | hTable
    · -- the node around a body, that of the query itself
      rcases List.mem_append.mp hl with hCte | hOwn
      · obtain ⟨name, -, rfl⟩ := List.mem_map.mp hCte
        exact proper_of_ne (by decide) (by decide) (some name) (by simp [textSlots])
      · rw [List.mem_singleton.mp hOwn]
        exact proper_of_mem (by decide) (by decide) (hQuery ctes kind table rfl)
    · -- and that of the table it is all rows of
      obtain ⟨t, -, rfl⟩ := List.mem_map.mp hTable
      have hWhole := proper_table t.1 t.2 none none
      simpa using hWhole
  | .table name aliasName called =>
    cases called with
    | true => cases hl
    | false =>
      rw [List.mem_singleton.mp hl]
      exact proper_withAlias name aliasName
  | .derived aliasName =>
    rw [List.mem_singleton.mp hl]
    exact proper_of_ne (by decide) (by decide) aliasName (by simp [textSlots])
  | .compound => cases hl
  | .relation name =>
    rw [chain] at hl
    split at hl
    · cases hl
    · rw [List.mem_singleton.mp hl]
      exact proper_tableLabel name

-- ---------------------------------------------------------------------------
-- Nodes and their labels
-- ---------------------------------------------------------------------------

/-- A node of what hangs on a chain is a node of the chain, over some children, or has been there
before. -/
theorem exists_label_of_mem_hang {ls : List Label} {inner : List Node} {n : Node}
    (hn : n ∈ Node.preorderOfNodes (hang ls inner)) :
    (∃ l ∈ ls, ∃ cs, n = l.node cs) ∨ n ∈ Node.preorderOfNodes inner := by
  induction ls with
  | nil => exact Or.inr hn
  | cons l ls ih =>
    rw [hang, preorderOfNodes_node] at hn
    rcases List.mem_cons.mp hn with rfl | hBelow
    · exact Or.inl ⟨l, List.mem_cons_self, _, rfl⟩
    · rcases ih hBelow with ⟨l', hl', cs, rfl⟩ | hInner
      · exact Or.inl ⟨l', List.mem_cons_of_mem _ hl', cs, rfl⟩
      · exact Or.inr hInner

mutual

/-- Every node of a visit comes from something that is entered in it, so what holds of the labels
of all entries holds of all nodes. -/
theorem exists_label_of_mem_lowering {p : Place} {v : Visit} {n : Node}
    (hn : n ∈ Node.preorderOfNodes (lowering p v)) :
    ∃ x ∈ v.entered p, ∃ l ∈ chain x.1 x.2, ∃ cs, n = l.node cs := by
  match v with
  | .mk entry inside =>
    rw [lowering] at hn
    rcases exists_label_of_mem_hang hn with hChain | hInside
    · exact ⟨(p, entry), List.mem_cons_self, hChain⟩
    · obtain ⟨x, hx, hLabel⟩ := exists_label_of_mem_loweringAll hInside
      exact ⟨x, List.mem_cons_of_mem _ hx, hLabel⟩

/-- Every node of a lowering is that of a label of something entered. The chain of an entry is all
it gives; the rest of its tree is given by what is entered inside. -/
theorem exists_label_of_mem_loweringAll {p : Place} {vs : List Visit} {n : Node}
    (hn : n ∈ Node.preorderOfNodes (loweringAll p vs)) :
    ∃ x ∈ enteredAll p vs, ∃ l ∈ chain x.1 x.2, ∃ cs, n = l.node cs := by
  match vs with
  | [] => cases hn
  | v :: vs =>
    rw [loweringAll, Node.preorderOfNodes_append] at hn
    rw [enteredAll]
    rcases List.mem_append.mp hn with hFirst | hRest
    · obtain ⟨x, hx, hLabel⟩ := exists_label_of_mem_lowering hFirst
      exact ⟨x, List.mem_append_left _ hx, hLabel⟩
    · obtain ⟨x, hx, hLabel⟩ := exists_label_of_mem_loweringAll hRest
      exact ⟨x, List.mem_append_right _ hx, hLabel⟩

end

/-- Every node below the root of a script's tree is that of a proper label, with its children
behind the texts. What is to be shown of nodes is from here on shown of labels. -/
theorem exists_proper_of_mem_below {script : List Statement} {n : Node} (hn : n ∈ below script) :
    ∃ l : Label, l.Proper ∧ ∃ cs, n = l.node cs := by
  have hChildren : (ofScript script).children = loweringAll .outermost (visits script) := by
    rw [ofScript_eq_lowered, lowered, Label.children_node]
  rw [below, hChildren] at hn
  obtain ⟨x, hx, l, hl, cs, rfl⟩ := exists_label_of_mem_loweringAll hn
  have hProper := proper_of_mem_chain x.1
    (fun ctes kind table hEntry => kind_mem_queryKinds_of_entered hx hEntry) hl
  exact ⟨l, hProper, cs, rfl⟩

-- ---------------------------------------------------------------------------
-- Trees of scripts
-- ---------------------------------------------------------------------------

/-- The root of a script has no texts, and its statements in one slot if there are any. -/
theorem shaped_root (script : List Statement) : (ofScript script).Shaped := by
  rw [ofScript_eq_lowered]
  exact Label.shaped_node (l := ⟨.script, []⟩) List.nodup_nil (by simp) _

/-- The node of a query is of the kind of the query. -/
theorem kind_node_query (owned : Bool) (q : Query) : (q.node owned).kind = q.kind := by
  cases q with
  | mk ctes body rest => rw [Query.node, Label.kind_node, Query.kind]

/-- Of two lists that match one for one each node has a definition that it stands for. -/
theorem exists_defines_of_mem {ns : List Node} {cs : List Cte} (h : List.Forall₂ Defines ns cs)
    {n : Node} (hn : n ∈ ns) : ∃ c, Defines n c := by
  induction h with
  | nil => cases hn
  | cons hDefines _ ih =>
    rcases List.mem_cons.mp hn with rfl | hn
    · exact ⟨_, hDefines⟩
    · exact ih hn

/-- **The tree of a script is well formed.** The root is a script and nothing else is. Every node
has texts in slots of different names, and these are slots of tables, common table expressions and
derived tables alone; behind them there is at most one slot, of gathered children. Every table has a
name, and every common table expression an alias and a query as its only child. -/
theorem wellFormed_ofScript (script : List Statement) : WellFormed (ofScript script) := by
  -- every clause is proved of the root and of a node below it, which is that of a proper label
  have hCases : ∀ n ∈ (ofScript script).walk, n = ofScript script ∨ n ∈ below script := by
    intro n hn
    rw [walk_ofScript] at hn
    exact List.mem_cons.mp hn
  refine ⟨kind_ofScript script, ?_, ?_, ?_, ?_⟩
  · intro n hn
    rw [walk_ofScript] at hn
    obtain ⟨l, hProper, cs, rfl⟩ := exists_proper_of_mem_below hn
    rw [Label.kind_node]
    exact hProper.kind
  · intro n hn
    rcases hCases n hn with rfl | hBelow
    · exact shaped_root script
    · obtain ⟨l, hProper, cs, rfl⟩ := exists_proper_of_mem_below hBelow
      exact Label.shaped_node hProper.nodup hProper.texts cs
  · intro n hn hKind
    rcases hCases n hn with rfl | hBelow
    · -- the root is no table
      rw [kind_ofScript] at hKind
      cases hKind
    · obtain ⟨l, hProper, cs, rfl⟩ := exists_proper_of_mem_below hBelow
      rw [Label.kind_node] at hKind
      rw [Node.name?, Label.value?_node (by decide)]
      exact hProper.named hKind
  · intro n hn hKind
    -- the nodes of common table expressions are those of definitions
    have hMem : n ∈ (ofScript script).walk.filter (·.kind = .cte) :=
      List.mem_filter.mpr ⟨hn, by simpa using hKind⟩
    obtain ⟨c, hDefines⟩ := exists_defines_of_mem (forall₂_defines_walk script) hMem
    obtain ⟨owned, hChildren⟩ := hDefines.body
    refine ⟨c.aliasName, c.query.node owned, hDefines.aliasName, hChildren, ?_⟩
    rw [kind_node_query]
    exact Query.kind_mem_queryKinds c.query

end QueryGuard.Tree
