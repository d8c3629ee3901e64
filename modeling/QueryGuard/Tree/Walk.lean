import QueryGuard.Tree.Node

/-!
Walking a tree: every node once, parents before their children, children in order.

A walk keeps the nodes still to be entered on a stack, so that a deep tree costs no more than a
wide one. Beside it stands the order it is meant to give, by recursion on the tree.
-/

namespace QueryGuard.Tree

namespace Node

mutual

/-- The number of nodes of a tree. -/
def weight : Node → Nat
  | mk _ slots => 1 + weightOfSlots slots

/-- The number of nodes below slots. -/
def weightOfSlots : List Slot → Nat
  | [] => 0
  | s :: ss => weightOfSlot s + weightOfSlots ss

/-- The number of nodes below a slot. -/
def weightOfSlot : Slot → Nat
  | .value _ _ => 0
  | .child _ n => weight n
  | .children _ ns => weightOfNodes ns

/-- The number of nodes of several trees. -/
def weightOfNodes : List Node → Nat
  | [] => 0
  | n :: ns => weight n + weightOfNodes ns

end

mutual

/-- A node followed by everything below it, in order. -/
def preorder : Node → List Node
  | mk kind slots => mk kind slots :: preorderOfSlots slots

/-- Everything below slots, in order. -/
def preorderOfSlots : List Slot → List Node
  | [] => []
  | s :: ss => preorderOfSlot s ++ preorderOfSlots ss

/-- Everything below a slot, in order. -/
def preorderOfSlot : Slot → List Node
  | .value _ _ => []
  | .child _ n => preorder n
  | .children _ ns => preorderOfNodes ns

/-- Several trees one after the other, in order. -/
def preorderOfNodes : List Node → List Node
  | [] => []
  | n :: ns => preorder n ++ preorderOfNodes ns

end

theorem weightOfNodes_append (ms ns : List Node) :
    weightOfNodes (ms ++ ns) = weightOfNodes ms + weightOfNodes ns := by
  induction ms with
  | nil => simp [weightOfNodes]
  | cons m ms ih => simp [weightOfNodes, ih]; omega

theorem weightOfNodes_nodes (s : Slot) : weightOfNodes s.nodes = weightOfSlot s := by
  cases s <;> simp [Slot.nodes, weightOfSlot, weightOfNodes]

theorem weightOfNodes_flatMap (ss : List Slot) :
    weightOfNodes (ss.flatMap (·.nodes)) = weightOfSlots ss := by
  induction ss with
  | nil => simp [weightOfSlots, weightOfNodes]
  | cons s ss ih =>
    simp [weightOfSlots, weightOfNodes_append, weightOfNodes_nodes, ih]

/-- A tree is its root and what its children hold. -/
theorem weight_eq (n : Node) : n.weight = 1 + weightOfNodes n.children := by
  cases n with
  | mk kind slots => simp [weight, children, Node.slots, weightOfNodes_flatMap]

end Node

/-- A walk under way: the nodes still to be entered, next one first. -/
structure Walk where
  stack : List Node

namespace Walk

/-- The next node of a walk, and the walk behind it. -/
def next? : Walk → Option (Node × Walk)
  | ⟨[]⟩ => none
  | ⟨n :: rest⟩ => some (n, ⟨n.children ++ rest⟩)

/-- The number of nodes still to come. -/
def remaining (w : Walk) : Nat :=
  Node.weightOfNodes w.stack

theorem remaining_next {w w' : Walk} {n : Node} (h : w.next? = some (n, w')) :
    w'.remaining < w.remaining := by
  match w, h with
  | ⟨m :: rest⟩, h =>
    simp only [next?, Option.some.injEq, Prod.mk.injEq] at h
    obtain ⟨rfl, rfl⟩ := h
    simp only [remaining, Node.weightOfNodes_append, Node.weightOfNodes, Node.weight_eq m]
    omega

/-- The nodes of a walk, one `next?` after the other until none is left. -/
def toList (w : Walk) : List Node :=
  match _h : w.next? with
  | none => []
  | some (n, w') => n :: w'.toList
termination_by w.remaining
decreasing_by exact remaining_next _h

end Walk

/-- Every node of a tree. -/
def Node.walk (n : Node) : List Node :=
  (Walk.mk [n]).toList

end QueryGuard.Tree
