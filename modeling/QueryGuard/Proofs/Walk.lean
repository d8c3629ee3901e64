import QueryGuard.Tree.Walk

/-!
# Walks — the stack gives the recursive order

A walk takes the next node off a stack and puts that node's children in its place. Whatever is on
the stack, what it still gives is the recursive order of the stacked trees, one after the other. So
a question put to a walk is a question about `preorder`, and the rest of the theory never looks at
a stack again.

Beside this stands what a slot of gathered children at the end does to a node: it adds them to the
children and changes neither the kind of the node nor its texts.

Main results:

* `Node.walk_eq_preorder` — the walk of a tree is its recursive order.
* `Node.preorder_eq` — a node comes first, and then what its children hold.
-/

namespace QueryGuard.Tree

-- ---------------------------------------------------------------------------
-- The recursive order
-- ---------------------------------------------------------------------------

namespace Node

theorem preorderOfNodes_append (ms ns : List Node) :
    preorderOfNodes (ms ++ ns) = preorderOfNodes ms ++ preorderOfNodes ns := by
  induction ms with
  | nil => rfl
  | cons m ms ih =>
    rw [List.cons_append, preorderOfNodes, preorderOfNodes, ih, List.append_assoc]

/-- The trees in a slot are gone through in order, be it one child, some children or none. -/
theorem preorderOfNodes_nodes (s : Slot) : preorderOfNodes s.nodes = preorderOfSlot s := by
  cases s with
  | value name text => rfl
  | child name n =>
    rw [Slot.nodes, preorderOfSlot, preorderOfNodes, preorderOfNodes, List.append_nil]
  | children name ns => rfl

/-- The trees in some slots are gone through slot by slot. So the slots, which the recursion is on,
can be left for the children. -/
theorem preorderOfNodes_flatMap (ss : List Slot) :
    preorderOfNodes (ss.flatMap (·.nodes)) = preorderOfSlots ss := by
  induction ss with
  | nil => rfl
  | cons s ss ih =>
    rw [List.flatMap_cons, preorderOfNodes_append, preorderOfNodes_nodes, ih, preorderOfSlots]

/-- A node comes first, and then what its children hold. -/
theorem preorder_eq (n : Node) : n.preorder = n :: preorderOfNodes n.children := by
  cases n with
  | mk kind slots => rw [preorder, children, Node.slots, preorderOfNodes_flatMap]

end Node

-- ---------------------------------------------------------------------------
-- The walk
-- ---------------------------------------------------------------------------

/-- **Any stack.** A walk gives the recursive orders of the stacked trees from the top down. The
induction is on the number of nodes still to come, which a step takes one from. -/
theorem Walk.toList_eq_preorderOfNodes (w : Walk) : w.toList = Node.preorderOfNodes w.stack := by
  -- on the number of nodes still to come: a step may well make the stack longer
  fun_induction Walk.toList w with
  | case1 w hNext =>
    match w, hNext with
    | ⟨[]⟩, _ => rfl
  | case2 w n w' hNext ih =>
    match w, hNext with
    | ⟨m :: rest⟩, hNext =>
      simp only [Walk.next?, Option.some.injEq, Prod.mk.injEq] at hNext
      obtain ⟨rfl, rfl⟩ := hNext
      rw [ih, Node.preorderOfNodes, Node.preorder_eq, Node.preorderOfNodes_append]
      rfl

/-- A walk with its stack is the recursion over the tree. What walks give is proved of the
recursion from here on. -/
theorem Node.walk_eq_preorder (n : Node) : n.walk = n.preorder := by
  rw [Node.walk, Walk.toList_eq_preorderOfNodes, preorderOfNodes, preorderOfNodes, List.append_nil]

-- ---------------------------------------------------------------------------
-- Nodes with gathered children
-- ---------------------------------------------------------------------------

namespace Node

@[simp] theorem kind_withSlot (n : Node) (s : Slot) : (n.withSlot s).kind = n.kind := rfl

@[simp] theorem slots_withSlot (n : Node) (s : Slot) : (n.withSlot s).slots = n.slots ++ [s] := rfl

@[simp] theorem kind_withChildren (n : Node) (name : String) (cs : List Node) :
    (n.withChildren name cs).kind = n.kind := by
  unfold withChildren
  split
  · rfl
  · rfl

/-- They stand behind those that are there. Without any there is no slot for them, and nothing is
added. -/
@[simp] theorem children_withChildren (n : Node) (name : String) (cs : List Node) :
    (n.withChildren name cs).children = n.children ++ cs := by
  unfold withChildren
  split
  · rename_i hEmpty
    rw [List.isEmpty_iff.mp hEmpty, List.append_nil]
  · rw [children, slots_withSlot, List.flatMap_append]
    simp [children, Slot.nodes]

/-- A slot at the end of another name does not change what is looked up, whether or not the name
has been found before it. -/
theorem value?_withChildren {name other : String} (hName : other ≠ name) (n : Node)
    (cs : List Node) : (n.withChildren name cs).value? other = n.value? other := by
  unfold withChildren
  split
  · rfl
  · have hMiss : ([Slot.children name cs].find? (·.name = other)) = none := by
      simp [Slot.name, Ne.symm hName]
    unfold value? slot?
    rw [slots_withSlot, List.find?_append, hMiss, Option.or_none]

end Node

end QueryGuard.Tree
