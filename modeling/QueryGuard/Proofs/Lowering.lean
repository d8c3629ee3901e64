import QueryGuard.Proofs.Entered
import QueryGuard.Proofs.Walk

/-!
# The direct lowering

The tree of visits by recursion on them and with no state at all. An entry stands for a chain of
nodes that depends on the entry and its `Place` alone (`chain`). Each node of the chain is the only
child of the one before, and the lowerings of what is entered inside go, in order, below the last
node of the chain, or stand in its stead if the chain is empty (`hang`).

A node is given by its `Label`, which holds its kind and its texts, and by its children. They stand
in one slot at the end, and there is no such slot without children; so a label cannot stand for a
node of another shape.

Main results:

* `Label.pushAll_node` — gathering children one by one adds them at the end of that slot.
* `flatMap_walk_lowered` — what is read off a tree node by node, as a list over what is entered.
-/

namespace QueryGuard.Tree

open Sql

-- ---------------------------------------------------------------------------
-- Labels
-- ---------------------------------------------------------------------------

/-- A node apart from its children: a kind, and texts by the names of their slots. -/
structure Label where
  kind : NodeKind
  texts : List (String × String)

namespace Label

/-- The node of a label over some children. With no children there is no slot for them. -/
def node (l : Label) (cs : List Node) : Node :=
  (Node.mk l.kind (l.texts.map fun t => .value t.1 t.2)).withChildren Slot.expressions cs

/-- Over some children a node has the texts of its label and then one slot with all of the
children. -/
theorem slots_node_cons (l : Label) (c : Node) (cs : List Node) :
    (l.node (c :: cs)).slots =
      (l.texts.map fun t => .value t.1 t.2) ++ [.children Slot.expressions (c :: cs)] := rfl

@[simp] theorem kind_node (l : Label) (cs : List Node) : (l.node cs).kind = l.kind :=
  Node.kind_withChildren ..

/-- The children of a node are those it has been made over: a label has none of its own. -/
@[simp] theorem children_node (l : Label) (cs : List Node) : (l.node cs).children = cs := by
  have hTexts : (Node.mk l.kind (l.texts.map fun t => .value t.1 t.2)).children = [] := by
    rw [Node.children, List.flatMap_eq_nil_iff]
    intro s hs
    obtain ⟨t, -, rfl⟩ := List.mem_map.mp hs
    rfl
  rw [node, Node.children_withChildren, hTexts, List.nil_append]

/-- Looking up a text of a node is looking it up in the label. The children stand in a slot of
another name behind the texts, so they cannot be found instead. -/
theorem value?_node {name : String} (hName : name ≠ Slot.expressions) (l : Label)
    (cs : List Node) : (l.node cs).value? name = l.texts.lookup name := by
  rw [node, Node.value?_withChildren hName, Node.value?, Node.slot?, Node.slots]
  induction l.texts with
  | nil => rfl
  | cons t ts ih =>
    rw [List.map_cons, List.find?_cons, List.lookup_cons]
    by_cases hEq : t.1 = name
    · simp [Slot.name, Slot.text?, hEq]
    · simp only [Slot.name, hEq, decide_false, Ne.symm hEq, beq_eq_false_iff_ne.mpr, ne_eq,
        not_false_eq_true]
      exact ih

-- The two cases of a push: the slot of gathered children is yet to be added, or is the last one.

/-- The first child is put into a new slot behind the texts, none of which can hold it. -/
theorem pushSlot_texts (c : Node) (ts : List (String × String)) :
    Node.pushSlot c (ts.map fun t => .value t.1 t.2) =
      (ts.map fun t => .value t.1 t.2) ++ [.children Slot.expressions [c]] := by
  induction ts with
  | nil => rfl
  | cons t ts ih => rw [List.map_cons, Node.pushSlot, ih, List.cons_append]

/-- A further child goes into the slot that the first one has opened, behind what is there. -/
theorem pushSlot_texts_append (c : Node) (cs : List Node) (ts : List (String × String)) :
    Node.pushSlot c ((ts.map fun t => .value t.1 t.2) ++ [.children Slot.expressions cs]) =
      (ts.map fun t => .value t.1 t.2) ++ [.children Slot.expressions (cs ++ [c])] := by
  induction ts with
  | nil => simp [Node.pushSlot]
  | cons t ts ih => rw [List.map_cons, List.cons_append, Node.pushSlot, ih, List.cons_append]

/-- Pushing a child into a node puts it behind the other children. So a node can be made child by
child, as a builder does, or over all of them at once. -/
theorem push_node (l : Label) (cs : List Node) (c : Node) :
    (l.node cs).push c = l.node (cs ++ [c]) := by
  cases cs with
  | nil =>
    show Node.mk l.kind (Node.pushSlot c (l.texts.map fun t => .value t.1 t.2)) = l.node [c]
    rw [pushSlot_texts]
    rfl
  | cons d ds =>
    rw [Node.push, slots_node_cons, pushSlot_texts_append, kind_node]
    rfl

theorem pushAll_node (l : Label) (cs ds : List Node) :
    (l.node cs).pushAll ds = l.node (cs ++ ds) := by
  induction ds generalizing cs with
  | nil => rw [List.append_nil]; rfl
  | cons d ds ih =>
    show ((l.node cs).push d).pushAll ds = _
    rw [push_node, ih, List.append_assoc, List.singleton_append]

end Label

-- ---------------------------------------------------------------------------
-- The direct lowering
-- ---------------------------------------------------------------------------

/-- The last part of a name; empty if the name has no parts. -/
def lastPart (name : ObjectName) : String :=
  name.getLast?.getD ""

/-- A table by a possibly qualified name: the last part is its name, the one before its schema, the
one before that its catalog. -/
def tableLabel (name : ObjectName) : Label where
  kind := .table
  texts := (Slot.this, lastPart name)
    :: (name.dropLast.getLast?.toList.map (Slot.db, ·)
      ++ name.dropLast.dropLast.getLast?.toList.map (Slot.catalog, ·))

/-- The same with an alias, if there is one. -/
def Label.withAlias (l : Label) (aliasName : Option String) : Label :=
  { l with texts := l.texts ++ aliasName.toList.map (Slot.aliasName, ·) }

/-- The table that a statement copies from. -/
def copySource? : Option StatementForm → Option ObjectName
  | some (.copy source) => source
  | _ => none

/-- The chain of an entry at a place, outermost first. A statement has a node of its kind, if it
has a kind, and a copied table one below. A query has the node of the common table expression that
it is the body of, one of its own kind, and one of the table that it is all rows of. -/
def chain (p : Place) : Entry → List Label
  | .statement form =>
    form.toList.map (fun f => ⟨f.kind, []⟩) ++ (copySource? form).toList.map tableLabel
  | .query _ kind table =>
    p.cteName?.toList.map (fun name => ⟨.cte, [(Slot.aliasName, name)]⟩) ++ [⟨kind, []⟩]
      ++ table.toList.map fun t => ⟨.table, (Slot.this, t.1) :: t.2.toList.map (Slot.db, ·)⟩
  | .table name aliasName called =>
    if called then [] else [(tableLabel name).withAlias aliasName]
  | .derived aliasName => [Label.withAlias ⟨.subquery, []⟩ aliasName]
  | .compound => []
  | .relation name => if p.owned then [] else [tableLabel name]

/-- A chain of nodes, each the child of the one before, over some nodes. -/
def hang : List Label → List Node → List Node
  | [], inner => inner
  | l :: ls, inner => [l.node (hang ls inner)]

/-- A chain of nodes may be hung up in two pieces, the inner one first. -/
theorem hang_append (ls ms : List Label) (inner : List Node) :
    hang (ls ++ ms) inner = hang ls (hang ms inner) := by
  induction ls with
  | nil => rfl
  | cons l ls ih => rw [List.cons_append, hang, hang, ih]

mutual

/-- The nodes of a visit that stands at a place. -/
def lowering (p : Place) : Visit → List Node
  | .mk entry inside => hang (chain p entry) (loweringAll (p.within entry) inside)

/-- The nodes of visits of which the first stands at a place. -/
def loweringAll (p : Place) : List Visit → List Node
  | [] => []
  | v :: vs => lowering p v ++ loweringAll (p.after v) vs

end

theorem loweringAll_singleton (p : Place) (v : Visit) : loweringAll p [v] = lowering p v := by
  rw [loweringAll, loweringAll, List.append_nil]

/-- Visits are lowered in two pieces, where those of the second piece stand behind the first. This
is how a query is taken apart into its common table expressions, its body and the rest. -/
theorem loweringAll_append (p : Place) (vs ws : List Visit) :
    loweringAll p (vs ++ ws) = loweringAll p vs ++ loweringAll (p.afterAll vs) ws := by
  induction vs generalizing p with
  | nil => rfl
  | cons v vs ih =>
    rw [List.cons_append, loweringAll, loweringAll, ih, Place.afterAll_cons, List.append_assoc]

/-- The tree of visits. -/
def lowered (vs : List Visit) : Node :=
  Label.node ⟨.script, []⟩ (loweringAll .outermost vs)

-- ---------------------------------------------------------------------------
-- Reading a tree node by node
-- ---------------------------------------------------------------------------

/-- A node comes before its children, and all of what is below it with them. -/
theorem preorderOfNodes_node (l : Label) (cs : List Node) :
    Node.preorderOfNodes [l.node cs] = l.node cs :: Node.preorderOfNodes cs := by
  rw [Node.preorderOfNodes, Node.preorderOfNodes, List.append_nil, Node.preorder_eq,
    Label.children_node]

section Reading

-- What is read off a node does not depend on its children.
variable {α : Type} {ofNode : Node → List α} {ofLabel : Label → List α}

/-- Along a chain the nodes come from the outside in, and what hangs on the innermost comes behind
all of them. -/
theorem flatMap_hang (hRead : ∀ l cs, ofNode (l.node cs) = ofLabel l) (ls : List Label)
    (inner : List Node) :
    (Node.preorderOfNodes (hang ls inner)).flatMap ofNode =
      ls.flatMap ofLabel ++ (Node.preorderOfNodes inner).flatMap ofNode := by
  induction ls with
  | nil => rfl
  | cons l ls ih =>
    rw [hang, Node.preorderOfNodes, Node.preorderOfNodes, List.append_nil, Node.preorder_eq,
      Label.children_node, List.flatMap_cons, ih, hRead, List.flatMap_cons, List.append_assoc]

mutual

/-- What is read off the nodes of a visit is read off the chains of what is entered in it. A node
is known by its label here: `hRead` says that what is read does not depend on the children. -/
theorem flatMap_lowering (hRead : ∀ l cs, ofNode (l.node cs) = ofLabel l) (p : Place)
    (v : Visit) :
    (Node.preorderOfNodes (lowering p v)).flatMap ofNode =
      (v.entered p).flatMap fun x => (chain x.1 x.2).flatMap ofLabel := by
  match v with
  | .mk entry inside =>
    rw [lowering, flatMap_hang hRead, flatMap_loweringAll hRead, Visit.entered, List.flatMap_cons]

/-- The same of visits that follow each other. -/
theorem flatMap_loweringAll (hRead : ∀ l cs, ofNode (l.node cs) = ofLabel l) (p : Place)
    (vs : List Visit) :
    (Node.preorderOfNodes (loweringAll p vs)).flatMap ofNode =
      (enteredAll p vs).flatMap fun x => (chain x.1 x.2).flatMap ofLabel := by
  match vs with
  | [] => rfl
  | v :: vs =>
    rw [loweringAll, Node.preorderOfNodes_append, List.flatMap_append, flatMap_lowering hRead,
      flatMap_loweringAll hRead, enteredAll, List.flatMap_append]

end

/-- **The tree, node by node.** What is read off the nodes of a tree along its walk is what is read
off the chains of what is entered, in the order of entering, behind that of the root. -/
theorem flatMap_walk_lowered (ofNode : Node → List α) (ofLabel : Label → List α)
    (hRead : ∀ l cs, ofNode (l.node cs) = ofLabel l) (vs : List Visit) :
    (lowered vs).walk.flatMap ofNode =
      ofLabel ⟨.script, []⟩ ++
        (enteredAll .outermost vs).flatMap fun x => (chain x.1 x.2).flatMap ofLabel := by
  rw [Node.walk_eq_preorder, lowered, Node.preorder_eq, Label.children_node, List.flatMap_cons,
    flatMap_loweringAll hRead, hRead]

end Reading

end QueryGuard.Tree
