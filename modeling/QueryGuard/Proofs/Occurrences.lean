import QueryGuard.Proofs.Reachable

/-!
# Occurrences — a walk meets every place of a tree once

A node may occur in a tree more than once, so that what a walk meets is not told by a set of nodes.
A place is the way down from the root: which child, which child of that one, and so on. Places are
compared like words in a dictionary. A place comes before those below it, and what is below an
earlier child before what is below a later one, which is the order in which a tree is read.

A walk is asked for its next node until it has none. `Yields` says what this gives without a
function that does it, so that it says also that the asking ends. The stack may be written with the
next node first, or bottom up as an array grows. There a step takes the last node off, puts its
children behind what is left, and turns round the part that it has put on.

Main results:

* `yields_walk_iff` — what a walk gives, from any stack.
* `yields_inPlace_iff` — the same for a stack that is turned round in place.
* `exists_occurrences` — the places of a tree in order, with the nodes of its recursive order.
* `walk_meets_places` — **a walk is the recursive order, and meets every place once.**
-/

namespace QueryGuard.Tree

-- ---------------------------------------------------------------------------
-- Asking for the next node
-- ---------------------------------------------------------------------------

/-- Asking for the next node until there is none gives these nodes. -/
inductive Yields {σ : Type} (next? : σ → Option (Node × σ)) : σ → List Node → Prop where
  | done {s : σ} (h : next? s = none) : Yields next? s []
  | more {s s' : σ} {n : Node} {ns : List Node} (h : next? s = some (n, s'))
      (rest : Yields next? s' ns) : Yields next? s (n :: ns)

section Yields

variable {σ τ : Type} {next? : σ → Option (Node × σ)} {next'? : τ → Option (Node × τ)}

/-- Asking on and on can give one sequence only: what is next is a function of the state, and so is
the state behind it. -/
theorem Yields.unique {s : σ} {ms ns : List Node} (hm : Yields next? s ms)
    (hn : Yields next? s ns) : ms = ns := by
  induction hm generalizing ns with
  | done h =>
    cases hn with
    | done _ => rfl
    | more h' _ => cases h.symm.trans h'
  | more h _ ih =>
    cases hn with
    | done h' => cases h.symm.trans h'
    | more h' rest =>
      cases h.symm.trans h'
      rw [ih rest]

/-- States that step together give the same nodes. -/
theorem Yields.image {f : σ → τ}
    (hStep : ∀ s, next'? (f s) = (next? s).map fun step => (step.1, f step.2)) {s : σ}
    {ns : List Node} (h : Yields next? s ns) : Yields next'? (f s) ns := by
  induction h with
  | done h => exact .done (by rw [hStep, h]; rfl)
  | more h _ ih => exact .more (by rw [hStep, h]; rfl) ih

end Yields

/-- A walk that is listed at once gives what it gives when it is asked node by node. It ends, as
every step leaves fewer nodes to come. -/
theorem Walk.yields_toList (w : Walk) : Yields Walk.next? w w.toList := by
  fun_induction Walk.toList w with
  | case1 w hNext => exact .done hNext
  | case2 w n w' hNext ih => exact .more hNext ih

/-- Trees one after the other are gone through one after the other. -/
theorem Node.preorderOfNodes_eq_flatMap (ns : List Node) :
    preorderOfNodes ns = ns.flatMap preorder := by
  induction ns with
  | nil => rfl
  | cons n ns ih => rw [preorderOfNodes, ih, List.flatMap_cons]

/-- **Any stack, next node first.** A walk from a stack gives the recursive orders of the stacked
trees, one after the other, and nothing else. That it gives anything is part of this: a walk always
ends. -/
theorem yields_walk_iff {w : Walk} {ns : List Node} :
    Yields Walk.next? w ns ↔ ns = w.stack.flatMap Node.preorder := by
  rw [← Node.preorderOfNodes_eq_flatMap, ← Walk.toList_eq_preorderOfNodes]
  constructor
  · exact fun h => h.unique w.yields_toList
  · rintro rfl
    exact w.yields_toList

/-- A step on a stack written bottom up. The last node is taken off, its children are put on in
their order, and the part that is put on is turned round, so that the first child is the last. -/
def nextInPlace? (stack : List Node) : Option (Node × List Node) :=
  stack.getLast?.map fun n =>
    let left := stack.dropLast
    let grown := left ++ n.children
    (n, grown.take left.length ++ (grown.drop left.length).reverse)

/-- A step on the stack written bottom up is a step on the stack written top down. Turning round
what is put on is what brings the first child to the top. -/
theorem nextInPlace?_reverse (w : Walk) :
    nextInPlace? w.stack.reverse = w.next?.map fun step => (step.1, step.2.stack.reverse) := by
  match w with
  | ⟨[]⟩ => rfl
  | ⟨n :: rest⟩ =>
    simp only [nextInPlace?, Walk.next?, List.reverse_cons, List.getLast?_concat, Option.map_some,
      List.dropLast_concat, List.take_left', List.drop_left', List.reverse_append]

/-- **Any stack, bottom up.** The walk that keeps the next node last, and turns round the children
it has put on in place, gives the recursive orders of the stacked trees from the top of its stack
down. -/
theorem yields_inPlace_iff {stack : List Node} {ns : List Node} :
    Yields nextInPlace? stack ns ↔ ns = stack.reverse.flatMap Node.preorder := by
  have hYields : Yields nextInPlace? stack (stack.reverse.flatMap Node.preorder) := by
    have h := (yields_walk_iff (w := ⟨stack.reverse⟩)).mpr rfl
    simpa using h.image nextInPlace?_reverse
  constructor
  · exact fun h => h.unique hYields
  · rintro rfl
    exact hYields

-- ---------------------------------------------------------------------------
-- Places
-- ---------------------------------------------------------------------------

namespace Node

/-- The node at a place. The first number picks a child, and the others lead on from there. -/
def at? (n : Node) : List Nat → Option Node
  | [] => some n
  | i :: place => n.children[i]?.bind (·.at? place)

/-- The nodes of a tree with their places, each place once and in order. -/
structure Occurrences (n : Node) (found : List (List Nat × Node)) : Prop where
  ordered : (found.map Prod.fst).Pairwise (· < ·)
  exact : ∀ place m, (place, m) ∈ found ↔ n.at? place = some m

/-- The same for the trees below a node from the child with the given number on. -/
structure OccurrencesFrom (start : Nat) (ns : List Node) (found : List (List Nat × Node)) :
    Prop where
  ordered : (found.map Prod.fst).Pairwise (· < ·)
  exact : ∀ place m, (place, m) ∈ found ↔
    ∃ i rest c, place = (start + i) :: rest ∧ ns[i]? = some c ∧ c.at? rest = some m

/-- What is below the first tree comes before what is below the later ones. Places are compared
number by number, and the first number is that of the child a place leads into. -/
theorem OccurrencesFrom.cons {start : Nat} {n : Node} {ns : List Node}
    {found foundFrom : List (List Nat × Node)} (h : Occurrences n found)
    (hFrom : OccurrencesFrom (start + 1) ns foundFrom) :
    OccurrencesFrom start (n :: ns)
      (found.map (fun x => (start :: x.1, x.2)) ++ foundFrom) := by
  constructor
  · -- in order: the places below the first child begin with its number, those below the others
    -- with larger ones
    rw [List.map_append, List.pairwise_append]
    refine ⟨?_, hFrom.ordered, ?_⟩
    · rw [List.map_map]
      have hOrdered := h.ordered
      rw [List.pairwise_map] at hOrdered ⊢
      exact hOrdered.imp fun hLess => List.cons_lt_cons_iff.mpr (Or.inr ⟨rfl, hLess⟩)
    · -- across the two parts the first numbers decide
      intro p hp q hq
      obtain ⟨⟨place, m⟩, hFound, rfl⟩ := List.mem_map.mp hp
      obtain ⟨x, -, hx⟩ := List.mem_map.mp hFound
      cases hx
      obtain ⟨⟨place', m'⟩, hFound', rfl⟩ := List.mem_map.mp hq
      obtain ⟨i, rest, c, rfl, -, -⟩ := (hFrom.exact place' m').mp hFound'
      exact List.cons_lt_cons_iff.mpr (Or.inl (by omega))
  · -- and exact: a place leads into the first child or into one of the others
    intro place m
    rw [List.mem_append, List.mem_map, hFrom.exact]
    constructor
    · rintro (⟨⟨rest, m'⟩, hFound, hPlace⟩ | ⟨i, rest, c, rfl, hc, hm⟩)
      · cases hPlace
        exact ⟨0, rest, n, rfl, rfl, (h.exact rest m').mp hFound⟩
      · exact ⟨i + 1, rest, c, by rw [Nat.add_assoc, Nat.add_comm 1 i], hc, hm⟩
    · rintro ⟨i, rest, c, rfl, hc, hm⟩
      cases i with
      | zero =>
        cases hc
        exact Or.inl ⟨(rest, m), (h.exact rest m).mpr hm, rfl⟩
      | succ i => exact Or.inr ⟨i, rest, c, by rw [Nat.add_assoc, Nat.add_comm 1 i], hc, hm⟩

/-- The root comes before everything below it: its place is the empty one, which every other place
goes on from. -/
theorem Occurrences.of_children {n : Node} {found : List (List Nat × Node)}
    (h : OccurrencesFrom 0 n.children found) : Occurrences n (([], n) :: found) := by
  constructor
  · rw [List.map_cons, List.pairwise_cons]
    refine ⟨?_, h.ordered⟩
    -- the root has the empty place, which is before all others
    intro p hp
    obtain ⟨⟨place, m⟩, hFound, rfl⟩ := List.mem_map.mp hp
    obtain ⟨i, rest, c, rfl, -, -⟩ := (h.exact place m).mp hFound
    exact List.nil_lt_cons _ _
  · intro place m
    rw [List.mem_cons, h.exact]
    cases place with
    | nil => simp [at?, eq_comm]
    | cons i rest => simp [at?, Option.bind_eq_some_iff]

/-- Trees whose nodes have been found with their places are put below a node, the first of them at
the given number. -/
theorem exists_occurrencesFrom {ns : List Node}
    (h : ∀ n ∈ ns, ∃ found, Occurrences n found ∧ found.map Prod.snd = n.preorder)
    (start : Nat) :
    ∃ found, OccurrencesFrom start ns found ∧ found.map Prod.snd = preorderOfNodes ns := by
  induction ns generalizing start with
  | nil => exact ⟨[], ⟨List.Pairwise.nil, by simp⟩, rfl⟩
  | cons n ns ih =>
    obtain ⟨found, hFound, hOrder⟩ := h n List.mem_cons_self
    -- the others are numbered from the next on
    obtain ⟨foundFrom, hFrom, hOrders⟩ :=
      ih (fun m hm => h m (List.mem_cons_of_mem n hm)) (start + 1)
    refine ⟨_, hFrom.cons hFound, ?_⟩
    rw [List.map_append, List.map_map, preorderOfNodes, ← hOrder, ← hOrders]
    rfl

/-- **The places of a tree.** In order, they hold the nodes of the recursive order. A place is
given by the way to it, so equal nodes at two places are met twice. -/
theorem exists_occurrences (n : Node) :
    ∃ found, Occurrences n found ∧ found.map Prod.snd = n.preorder := by
  -- on the number of nodes: a child lies in a slot, so it is no direct part of its node
  have hChildren : ∀ c ∈ n.children,
      ∃ found, Occurrences c found ∧ found.map Prod.snd = c.preorder := fun c hc =>
    have _ := weight_lt_of_mem_children hc
    exists_occurrences c
  obtain ⟨found, hFrom, hOrder⟩ := exists_occurrencesFrom hChildren 0
  refine ⟨_, .of_children hFrom, ?_⟩
  rw [List.map_cons, hOrder, preorder_eq]
termination_by n.weight

/-- There is one such list. Its places are in strict order, so none is there twice and none can be
elsewhere in the list. -/
theorem Occurrences.unique {n : Node} {found found' : List (List Nat × Node)}
    (h : Occurrences n found) (h' : Occurrences n found') : found = found' := by
  have hOrdered := h.ordered
  have hOrdered' := h'.ordered
  rw [List.pairwise_map] at hOrdered hOrdered'
  -- both hold the same, each once and in one order, so they are one list
  have hPerm : found.Perm found' := by
    apply (List.perm_ext_iff_of_nodup (hOrdered.imp ?_) (hOrdered'.imp ?_)).mpr
    · rintro ⟨place, m⟩
      rw [h.exact, h'.exact]
    · rintro a b hLess rfl
      exact List.lt_irrefl _ hLess
    · rintro a b hLess rfl
      exact List.lt_irrefl _ hLess
  exact hPerm.eq_of_pairwise (fun a b _ _ hLess hMore => absurd hMore (List.lt_asymm hLess))
    hOrdered hOrdered'

-- ---------------------------------------------------------------------------
-- The walk of a tree
-- ---------------------------------------------------------------------------

/-- A node comes first, and then the walks of its children. -/
theorem walk_eq (n : Node) : n.walk = n :: n.children.flatMap walk := by
  have hWalk : walk = preorder := funext walk_eq_preorder
  rw [hWalk, preorder_eq, preorderOfNodes_eq_flatMap]

/-- **A walk by slots.** It is the root, and then what the slots hold, slot by slot and tree by
tree. Texts hold nothing, so they add nothing to the walk. -/
theorem walk_eq_of_slots (n : Node) :
    n.walk = n :: n.slots.flatMap fun s => s.nodes.flatMap walk := by
  rw [walk_eq, children, List.flatMap_assoc]

/-- A slot with a text adds no child, wherever it stands. -/
theorem children_value (kind : NodeKind) (before after : List Slot) (name text : String) :
    (mk kind (before ++ .value name text :: after)).children =
      (mk kind (before ++ after)).children := by
  simp [children, slots, Slot.nodes]

end Node

/-- As many nodes come as are still to come. So a walk ends after a number of steps that the trees
on its stack tell beforehand. -/
theorem Walk.length_toList (w : Walk) : w.toList.length = w.remaining := by
  fun_induction Walk.toList w with
  | case1 w hNext =>
    obtain ⟨stack⟩ := w
    cases stack with
    | nil => rfl
    | cons m rest => cases hNext
  | case2 w n w' hNext ih =>
    obtain ⟨stack⟩ := w
    cases stack with
    -- taking a node off and putting its children on leaves one node less to come
    | nil => cases hNext
    | cons m rest =>
      cases hNext
      rw [List.length_cons, ih, Walk.remaining, Walk.remaining, Node.weightOfNodes_append,
        Node.weightOfNodes, Node.weight_eq n]
      omega

/-- A walk is as long as there are nodes in the tree. -/
theorem Node.length_walk (n : Node) : n.walk.length = n.weight := by
  rw [Node.walk, Walk.length_toList, Walk.remaining, weightOfNodes, weightOfNodes, Nat.add_zero]

/-- **A walk is the recursive order, and meets every place once.** From any stack, asking for the
next node comes to an end and gives the recursive orders of the stacked trees from the top down,
with the stack written either way. For a single tree this is its walk: the node itself and then the
walks of what its slots hold, slot by slot. The walk lists the nodes at the places of the tree, each
place once and in order, so that it is as long as the tree has nodes. A slot that holds a text adds
nothing to it, wherever it stands. -/
theorem walk_meets_places :
    (∀ (w : Walk) (ns : List Node),
      Yields Walk.next? w ns ↔ ns = w.stack.flatMap Node.preorder) ∧
    (∀ stack ns : List Node,
      Yields nextInPlace? stack ns ↔ ns = stack.reverse.flatMap Node.preorder) ∧
    (∀ n : Node, Yields Walk.next? ⟨[n]⟩ n.walk ∧ n.walk = n.preorder ∧
      n.walk = n :: n.slots.flatMap fun s => s.nodes.flatMap Node.walk) ∧
    (∀ n : Node, ∃ places, (∀ found, n.Occurrences found ↔ found = places) ∧
      n.walk = places.map Prod.snd) ∧
    (∀ n : Node, n.walk.length = n.weight) ∧
    ∀ (kind : NodeKind) (before after : List Slot) (name text : String),
      (Node.mk kind (before ++ .value name text :: after)).walk.tail =
        (Node.mk kind (before ++ after)).walk.tail := by
  refine ⟨fun _ _ => yields_walk_iff, fun _ _ => yields_inPlace_iff, fun n => ?_, fun n => ?_,
    Node.length_walk, fun kind before after name text => ?_⟩
  · exact ⟨Walk.yields_toList ⟨[n]⟩, n.walk_eq_preorder, n.walk_eq_of_slots⟩
  · -- the occurrences exist and are unique, and they come in pre-order as the walk does
    obtain ⟨places, hPlaces, hOrder⟩ := n.exists_occurrences
    refine ⟨places, fun found => ⟨fun h => h.unique hPlaces, ?_⟩, ?_⟩
    · rintro rfl
      exact hPlaces
    · rw [hOrder, Node.walk_eq_preorder]
  · rw [Node.walk_eq, Node.walk_eq, Node.children_value, List.tail_cons, List.tail_cons]

end QueryGuard.Tree
