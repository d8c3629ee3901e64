import QueryGuard.Proofs.Composition

/-!
# Reachable nodes — what is asked of a tree is asked of all its nodes

The trees of scripts have one layout, but a reader from outside may give any tree: slots of any name
and number, with texts, single children and sequences in any order. A node is reachable if it is the
root or is held, directly or further down, by a slot of the root. Whatever the layout, a walk meets
exactly the reachable nodes, each behind the node that holds it, so the answers read off a walk can
be said without one.

A slot is looked up by its name, and the first of a name is found. If that one holds children, the
node has no text of that name, even if a later slot of the name holds one.

Main results:

* `mem_walk_iff` — a walk meets the reachable nodes.
* `value?_eq_some` / `value?_eq_none_of_first` — what is looked up, by the first slot of a name.
* `classify_exact` — **the verdict on any tree.**
* `extraction_exact` — **the tables of any tree, and of the trees in it.**
-/

namespace QueryGuard.Tree

-- ---------------------------------------------------------------------------
-- Reachable nodes
-- ---------------------------------------------------------------------------

/-- A node that is the root of a tree or stands anywhere below it. -/
inductive Reachable : Node → Node → Prop where
  | root (n : Node) : Reachable n n
  | held {n c m : Node} {s : Slot} (hSlot : s ∈ n.slots) (hChild : c ∈ s.nodes)
      (h : Reachable c m) : Reachable n m

/-- What is below something below is below. The induction is on the first way, which is followed to
its end before the second begins. -/
theorem Reachable.trans {n m k : Node} (h : Reachable n m) (hRest : Reachable m k) :
    Reachable n k := by
  induction h with
  | root n => exact hRest
  | held hSlot hChild _ ih => exact .held hSlot hChild (ih hRest)

namespace Node

theorem mem_children {n c : Node} : c ∈ n.children ↔ ∃ s ∈ n.slots, c ∈ s.nodes :=
  List.mem_flatMap

/-- What comes along some trees comes in one of them. -/
theorem mem_preorderOfNodes {ns : List Node} {m : Node} :
    m ∈ preorderOfNodes ns ↔ ∃ n ∈ ns, m ∈ n.preorder := by
  induction ns with
  | nil => simp [preorderOfNodes]
  | cons n ns ih => rw [preorderOfNodes, List.mem_append, ih, List.exists_mem_cons_iff]

/-- A tree among others has no more nodes than all of them. -/
theorem weight_le_weightOfNodes {ns : List Node} {n : Node} (h : n ∈ ns) :
    n.weight ≤ weightOfNodes ns := by
  induction ns with
  | nil => cases h
  | cons k ns ih =>
    rw [weightOfNodes]
    rcases List.mem_cons.mp h with rfl | h
    · omega
    · have hLe := ih h
      omega

/-- A child has fewer nodes than its parent. This is what recursion over trees goes down by, as the
slots in between hide that a child is a part of its parent. -/
theorem weight_lt_of_mem_children {n c : Node} (h : c ∈ n.children) : c.weight < n.weight := by
  have hLe := weight_le_weightOfNodes h
  rw [weight_eq n]
  omega

/-- What comes along a walk can be reached, by induction on the number of nodes. -/
theorem reachable_of_mem_preorder {n m : Node} (h : m ∈ n.preorder) : Reachable n m := by
  rw [preorder_eq, List.mem_cons, mem_preorderOfNodes] at h
  rcases h with rfl | ⟨c, hc, hm⟩
  · exact .root m
  · have hLess := weight_lt_of_mem_children hc
    obtain ⟨s, hSlot, hChild⟩ := mem_children.mp hc
    exact .held hSlot hChild (reachable_of_mem_preorder hm)
termination_by n.weight

/-- A walk meets the reachable nodes and no others. Reachability is said without an order and
without a stack, so this is what a search over the walk can find. -/
theorem mem_walk_iff {n m : Node} : m ∈ n.walk ↔ Reachable n m := by
  rw [walk_eq_preorder]
  constructor
  · exact reachable_of_mem_preorder
  · intro h
    induction h with
    | root n =>
      rw [preorder_eq]
      exact List.mem_cons_self
    | held hSlot hChild _ ih =>
      rw [preorder_eq, List.mem_cons, mem_preorderOfNodes]
      exact Or.inr ⟨_, mem_children.mpr ⟨_, hSlot, hChild⟩, ih⟩

/-- Something is found along a walk at the root or along the walk of a child. This is the step of
every search over a tree, without its order. -/
theorem exists_mem_walk_iff {n : Node} {p : Node → Prop} :
    (∃ m ∈ n.walk, p m) ↔ p n ∨ ∃ c ∈ n.children, ∃ m ∈ c.walk, p m := by
  simp only [walk_eq_preorder]
  rw [preorder_eq n, List.exists_mem_cons_iff]
  simp only [mem_preorderOfNodes]
  constructor
  · rintro (hRoot | ⟨m, ⟨c, hc, hm⟩, hp⟩)
    · exact Or.inl hRoot
    · exact Or.inr ⟨c, hc, m, hm, hp⟩
  · rintro (hRoot | ⟨c, hc, m, hm, hp⟩)
    · exact Or.inl hRoot
    · exact Or.inr ⟨m, ⟨c, hc, hm⟩, hp⟩

-- ---------------------------------------------------------------------------
-- The first slot of a name
-- ---------------------------------------------------------------------------

/-- A slot is the first of a node's slots with a name. -/
def FirstSlot (n : Node) (name : String) (s : Slot) : Prop :=
  s.name = name ∧ ∃ before after, n.slots = before ++ s :: after ∧ ∀ b ∈ before, b.name ≠ name

/-- Looking up a slot finds the first one with the name. -/
theorem slot?_eq_some {n : Node} {name : String} {s : Slot} :
    n.slot? name = some s ↔ n.FirstSlot name s := by
  simp [slot?, FirstSlot, List.find?_eq_some_iff_append]

/-- Looking up a text finds it only if the first slot with the name holds one. A later slot of this
name is hidden, even where the first holds children. -/
theorem value?_eq_some {n : Node} {name text : String} :
    n.value? name = some text ↔ n.FirstSlot name (.value name text) := by
  rw [value?, Option.bind_eq_some_iff]
  constructor
  · rintro ⟨s, hSlot, hText⟩
    have hFirst := slot?_eq_some.mp hSlot
    -- of the first slot with the name only one with a text can be meant
    cases s with
    | value other found =>
      obtain ⟨rfl, hPlace⟩ := hFirst
      cases hText
      exact ⟨rfl, hPlace⟩
    | child other node => cases hText
    | children other nodes => cases hText
  · intro hFirst
    exact ⟨_, slot?_eq_some.mpr hFirst, rfl⟩

/-- A later slot does not make up for a first one that holds no text: the lookup stops at the first
slot with the name. -/
theorem value?_eq_none_of_first {n : Node} {name : String} {s : Slot} (hFirst : n.FirstSlot name s)
    (hText : s.text? = none) : n.value? name = none := by
  rw [value?, slot?_eq_some.mpr hFirst]
  exact hText

end Node

-- ---------------------------------------------------------------------------
-- The verdict
-- ---------------------------------------------------------------------------

/-- A node further down in an earlier slot comes before one further up in a later slot. -/
example : (classify (.mk .select [.value "this" "drop",
    .children "where" [.leaf .table, .mk .subquery [.child "this" (.leaf .merge)]],
    .child "with" (.leaf .delete)])).result = .error (.disallowedStatement "MERGE") := by
  decide +kernel

-- ---------------------------------------------------------------------------
-- Names
-- ---------------------------------------------------------------------------

/-- A table is named by the root of a tree or in a tree below it. What is to be left out is left
out everywhere. -/
theorem mem_tables_iff_own_or_below {n : Node} {without : NameSet} {name : String} :
    name ∈ n.tables without ↔
      (n.kind = .table ∧ n.name? = some name) ∧ name ∉ without ∨
        ∃ c ∈ n.children, name ∈ c.tables without := by
  simp only [mem_tables]
  rw [Node.exists_mem_walk_iff, or_and_right]
  simp only [← and_assoc, exists_and_right]

/-- An alias is that of the root or of a node in a tree below it. -/
theorem mem_cteNames_iff_own_or_below {n : Node} {name : String} :
    name ∈ n.cteNames ↔
      n.kind = .cte ∧ n.aliasName? = some name ∨ ∃ c ∈ n.children, name ∈ c.cteNames := by
  simp only [mem_cteNames]
  rw [Node.exists_mem_walk_iff]

/-- The names left out are taken off at the end. -/
theorem tables_eq_diff (n : Node) (without : NameSet) :
    n.tables without = (n.tables .empty).diff without := by
  apply NameSet.ext
  intro name
  simp [mem_tables]

/-- A table of a tree inside another is hidden there only behind an alias. -/
theorem mem_tables_or_cteNames_of_reachable {t t' : Node} (h : Reachable t t') {without : NameSet}
    {name : String} (hName : name ∈ t'.tables without) :
    name ∈ t.tables t.cteNames ∨ name ∈ t.cteNames := by
  obtain ⟨⟨m, hMem, hTable⟩, -⟩ := mem_tables.mp hName
  have hReachable : Reachable t m := h.trans (Node.mem_walk_iff.mp hMem)
  by_cases hAlias : name ∈ t.cteNames
  · exact Or.inr hAlias
  · exact Or.inl (mem_tables.mpr ⟨⟨m, Node.mem_walk_iff.mpr hReachable, hTable⟩, hAlias⟩)

/-- **The tables of any tree.** A name is among them exactly if it is the first text of some
reachable table and the first alias of no reachable common table expression. A node whose first slot
of the name holds children adds no name of its own, whatever slots come later. Names to be left out
are taken off the names of all tables, and every table of a tree within a tree is one of the whole
tree or an alias in it. -/
theorem extraction_exact :
    (∀ (t : Node) (name : String),
      name ∈ t.tables t.cteNames ↔
        (∃ m, Reachable t m ∧ m.kind = .table ∧
          m.FirstSlot Slot.this (.value Slot.this name)) ∧
        ¬ ∃ m, Reachable t m ∧ m.kind = .cte ∧
          m.FirstSlot Slot.aliasName (.value Slot.aliasName name)) ∧
    (∀ (n : Node) (s : Slot), s.text? = none →
      (n.FirstSlot Slot.this s → ∀ without name,
        name ∈ n.tables without ↔ ∃ c ∈ n.children, name ∈ c.tables without) ∧
      (n.FirstSlot Slot.aliasName s → ∀ name,
        name ∈ n.cteNames ↔ ∃ c ∈ n.children, name ∈ c.cteNames)) ∧
    (∀ (t : Node) (without : NameSet), t.tables without = (t.tables .empty).diff without) ∧
    ∀ t t' : Node, Reachable t t' → ∀ name ∈ t'.tables t'.cteNames,
      name ∈ t.tables t.cteNames ∨ name ∈ t.cteNames := by
  refine ⟨?_, ?_, tables_eq_diff, fun _ _ h _ => mem_tables_or_cteNames_of_reachable h⟩
  · intro t name
    -- the tests along the walk are those of reachable nodes, by the first slot with the name
    simp only [mem_tables, mem_cteNames, Node.mem_walk_iff, Node.name?, Node.aliasName?,
      Node.value?_eq_some]
  · intro n s hText
    constructor
    · intro hFirst without name
      -- the first slot with the name has no text, so the node itself has none, whatever comes
      -- later
      have hNone : n.name? = none := Node.value?_eq_none_of_first hFirst hText
      rw [mem_tables_iff_own_or_below, hNone]
      simp
    · intro hFirst name
      have hNone : n.aliasName? = none := Node.value?_eq_none_of_first hFirst hText
      rw [mem_cteNames_iff_own_or_below, hNone]
      simp

/-- A table and a common table expression whose texts come too late, and a table that is hidden
behind an alias of the tree around it. -/
theorem extraction_exact_late :
    (∀ name,
      name ∈ (Node.mk .table [.child "this" (.table "a"), .value "this" "b"]).tables .empty ↔
        ∃ c ∈ [Node.table "a"], name ∈ c.tables .empty) ∧
    (∀ name,
      name ∈ (Node.mk .cte [.children "alias" [.leaf .select], .value "alias" "c"]).cteNames ↔
        ∃ c ∈ [Node.leaf .select], name ∈ c.cteNames) ∧
    Reachable (.cte "t" (.table "t")) (.table "t") ∧
    "t" ∈ (Node.table "t").tables (Node.table "t").cteNames ∧
    ("t" ∈ (Node.cte "t" (.table "t")).tables (Node.cte "t" (.table "t")).cteNames ∨
      "t" ∈ (Node.cte "t" (.table "t")).cteNames) := by
  obtain ⟨-, hLate, -, hWithin⟩ := extraction_exact
  have hReachable : Reachable (.cte "t" (.table "t")) (.table "t") :=
    .held (s := .child Slot.this (.table "t")) (List.mem_cons_of_mem _ List.mem_cons_self)
      List.mem_cons_self (.root _)
  have hTable : "t" ∈ (Node.table "t").tables (Node.table "t").cteNames := by decide +kernel
  refine ⟨?_, ?_, hReachable, hTable, hWithin _ _ hReachable _ hTable⟩
  · exact (hLate _ (.child "this" (.table "a")) rfl).1
      ⟨rfl, [], [.value "this" "b"], rfl, by simp⟩ _
  · exact (hLate _ (.children "alias" [.leaf .select]) rfl).2
      ⟨rfl, [], [.value "alias" "c"], rfl, by simp⟩

end QueryGuard.Tree
