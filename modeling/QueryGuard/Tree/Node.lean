import QueryGuard.NodeKind

/-!
Parse trees: a node has a kind and named slots in order.

A slot holds a text, a single child, or several children. Slots may share a name; looking one up
finds the first. A slot without content is left out rather than kept empty.
-/

namespace QueryGuard.Tree

mutual

/-- A node of a parse tree. -/
inductive Node where
  | mk (kind : NodeKind) (slots : List Slot)

/-- A named slot of a node. -/
inductive Slot where
  | value (name : String) (text : String)
  | child (name : String) (node : Node)
  | children (name : String) (nodes : List Node)

end

namespace Slot

/-- The name of a slot. -/
def name : Slot → String
  | value name _ => name
  | child name _ => name
  | children name _ => name

/-- The nodes a slot holds. -/
def nodes : Slot → List Node
  | value _ _ => []
  | child _ node => [node]
  | children _ nodes => nodes

/-- The text of a slot that holds one. -/
def text? : Slot → Option String
  | value _ text => some text
  | child _ _ => none
  | children _ _ => none

/-- The slot for the name of a table and the like. -/
def this : String := "this"

/-- The slot for an alias. -/
def aliasName : String := "alias"

/-- The slot for the schema of a table. -/
def db : String := "db"

/-- The slot for the catalog of a table. -/
def catalog : String := "catalog"

/-- The slot for the children that a tree gathers as it is built. -/
def expressions : String := "expressions"

end Slot

namespace Node

/-- The kind of a node. -/
def kind : Node → NodeKind
  | mk kind _ => kind

/-- The slots of a node in order. -/
def slots : Node → List Slot
  | mk _ slots => slots

/-! ## Building -/

/-- A node without slots. -/
def leaf (kind : NodeKind) : Node :=
  mk kind []

instance : Inhabited Node :=
  ⟨leaf .script⟩

/-- A node with one more slot at the end. -/
def withSlot (n : Node) (s : Slot) : Node :=
  mk n.kind (n.slots ++ [s])

/-- A node with one more text. -/
def withValue (n : Node) (name text : String) : Node :=
  n.withSlot (.value name text)

/-- A node with one more text if there is one. -/
def withValue? (n : Node) (name : String) (text : Option String) : Node :=
  match text with
  | some text => n.withValue name text
  | none => n

/-- A node with one more slot of a single child. -/
def withChild (n : Node) (name : String) (c : Node) : Node :=
  n.withSlot (.child name c)

/-- A node with one more slot of several children; of none, nothing is added. -/
def withChildren (n : Node) (name : String) (cs : List Node) : Node :=
  if cs.isEmpty then n else n.withSlot (.children name cs)

/-- A reference to a table. -/
def table (name : String) : Node :=
  (leaf .table).withValue Slot.this name

/-- A common table expression. -/
def cte (aliasName : String) (body : Node) : Node :=
  ((leaf .cte).withValue Slot.aliasName aliasName).withChild Slot.this body

/-- Slots with one more child in the first sequence named for gathered children, which is added at
the end if there is none. -/
def pushSlot (c : Node) : List Slot → List Slot
  | [] => [.children Slot.expressions [c]]
  | .children name ns :: rest =>
    if name = Slot.expressions then .children name (ns ++ [c]) :: rest
    else .children name ns :: pushSlot c rest
  | .value name text :: rest => .value name text :: pushSlot c rest
  | .child name node :: rest => .child name node :: pushSlot c rest

/-- A node with one more gathered child. -/
def push (n : Node) (c : Node) : Node :=
  mk n.kind (pushSlot c n.slots)

/-- A node with more gathered children. -/
def pushAll (n : Node) (cs : List Node) : Node :=
  cs.foldl push n

/-! ## Looking -/

/-- The first slot of a name. -/
def slot? (n : Node) (name : String) : Option Slot :=
  n.slots.find? (·.name = name)

/-- The text of the first slot of a name, if it holds one. -/
def value? (n : Node) (name : String) : Option String :=
  (n.slot? name).bind (·.text?)

/-- The name of a table, and the like. -/
def name? (n : Node) : Option String :=
  n.value? Slot.this

/-- The alias of a node. -/
def aliasName? (n : Node) : Option String :=
  n.value? Slot.aliasName

/-- The direct children, in the order of slots and within them. -/
def children (n : Node) : List Node :=
  n.slots.flatMap (·.nodes)

/-! ## Comparing -/

mutual

/-- Whether two nodes are the same, slot by slot. -/
def same : Node → Node → Bool
  | mk k ss, mk l ts => k = l && sameSlots ss ts

/-- Whether two lists of slots are the same. -/
def sameSlots : List Slot → List Slot → Bool
  | [], [] => true
  | s :: ss, t :: ts => sameSlot s t && sameSlots ss ts
  | [], _ :: _ => false
  | _ :: _, [] => false

/-- Whether two slots are the same. A single child is not a sequence of one. -/
def sameSlot : Slot → Slot → Bool
  | .value a x, .value b y => a = b && x = y
  | .child a m, .child b n => a = b && same m n
  | .children a ms, .children b ns => a = b && sameNodes ms ns
  | _, _ => false

/-- Whether two lists of nodes are the same. -/
def sameNodes : List Node → List Node → Bool
  | [], [] => true
  | m :: ms, n :: ns => same m n && sameNodes ms ns
  | [], _ :: _ => false
  | _ :: _, [] => false

end

end Node

end QueryGuard.Tree
