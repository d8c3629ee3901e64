import QueryGuard.Proofs.Occurrences

/-!
# Gathering — what one more child does to a node

A tree is built by pushing one node after the other under an open one. A push looks for the first
slot that gathers: a sequence of the right name. Other slots may have that name too and hold a text
or a single child, more such sequences may follow, and slots of other names may stand anywhere. So
the new child need not come last. Where it comes, everything else stays as it was.

`Pushed` lists what a push can do, and all the rest is read off it: what is looked up, the children,
the walk. On a node that holds its children in one gathered sequence, or holds none, a push keeps
this and the child comes last; so children that are pushed one after the other come in this order.

Main results:

* `pushed_pushSlot` — a push lengthens the first sequence that gathers, or adds one at the end.
* `value?_push` — no text changes.
* `exists_children_push` — the children, with the new one at one place among them.
* `childSlots_push` / `children_pushAll` — one push, and any number of them, on a node that gathers.
* `push_inserts_once` — **a push adds one subtree and disturbs nothing else.**
-/

namespace QueryGuard.Tree

/-- A slot that takes a pushed child. -/
def Slot.Gathers : Slot → Prop
  | .value _ _ => False
  | .child _ _ => False
  | .children name _ => name = Slot.expressions

/-- What a push does to slots. -/
inductive Pushed (c : Node) : List Slot → List Slot → Prop where
  /-- The first sequence that gathers is longer by the child. -/
  | lengthened (before after : List Slot) (ns : List Node) (hFirst : ∀ s ∈ before, ¬ s.Gathers) :
    Pushed c (before ++ .children Slot.expressions ns :: after)
      (before ++ .children Slot.expressions (ns ++ [c]) :: after)
  /-- No slot gathers, and a sequence of the child alone is added. -/
  | added (slots : List Slot) (hNone : ∀ s ∈ slots, ¬ s.Gathers) :
    Pushed c slots (slots ++ [.children Slot.expressions [c]])

/-- A push goes past a slot that takes no pushed child. -/
theorem Pushed.cons {c : Node} {slots slots' : List Slot} (h : Pushed c slots slots') {s : Slot}
    (hs : ¬ s.Gathers) : Pushed c (s :: slots) (s :: slots') := by
  cases h with
  | lengthened before after ns hFirst =>
    exact .lengthened (s :: before) after ns (List.forall_mem_cons.mpr ⟨hs, hFirst⟩)
  | added _ hNone => exact .added (s :: slots) (List.forall_mem_cons.mpr ⟨hs, hNone⟩)

namespace Node

/-- The recursion of a push over the slots goes past slots until one takes the child, or makes a
new one behind the last. So every push is one of the two cases of `Pushed`, and what is proved of
those is proved of it. -/
theorem pushed_pushSlot (c : Node) (slots : List Slot) : Pushed c slots (pushSlot c slots) := by
  fun_induction pushSlot c slots with
  | case1 => exact .added [] (by simp)
  | case2 ns rest => exact .lengthened [] rest ns (by simp)
  | case3 name ns rest hName ih => exact ih.cons hName
  | case4 name text rest ih => exact ih.cons id
  | case5 name node rest ih => exact ih.cons id

/-- A push into a node is one into its slots. -/
theorem pushed_push (n c : Node) : Pushed c n.slots (n.push c).slots :=
  pushed_pushSlot c n.slots

-- ---------------------------------------------------------------------------
-- What is looked up
-- ---------------------------------------------------------------------------

/-- A sequence has no text, so neither its length nor its presence at the end is seen by a lookup
of texts. Slots before the sequence are untouched, and decide as before where they have the name.
-/
theorem text?_of_pushed {c : Node} {slots slots' : List Slot} (h : Pushed c slots slots')
    (name : String) :
    (slots'.find? (·.name = name)).bind (·.text?) =
      (slots.find? (·.name = name)).bind (·.text?) := by
  cases h with
  | lengthened before after ns _ =>
    simp only [List.find?_append, List.find?_cons]
    -- a slot with the name before the gathered one decides, and is untouched
    cases before.find? (·.name = name) with
    | some s => rfl
    | none =>
      by_cases hName : Slot.expressions = name
      · simp [Slot.name, Slot.text?, hName]
      · simp [Slot.name, hName]
  | added _ _ =>
    rw [List.find?_append]
    cases slots.find? (·.name = name) with
    | some s => rfl
    | none =>
      -- the new slot has no text, so finding it is finding none
      by_cases hName : Slot.expressions = name
      · simp [Slot.name, Slot.text?, hName]
      · simp [Slot.name, hName]

/-- A push changes no text: the slot it changes or makes holds children before and after, so a
lookup of a text finds what it found before. -/
theorem value?_push (n c : Node) (name : String) : (n.push c).value? name = n.value? name :=
  text?_of_pushed (n.pushed_push c) name

-- ---------------------------------------------------------------------------
-- Children
-- ---------------------------------------------------------------------------

/-- In the children of a node a pushed one stands at one point, and the others are as they were on
both sides of it. -/
theorem exists_children_of_pushed {c : Node} {slots slots' : List Slot}
    (h : Pushed c slots slots') :
    ∃ before after, slots.flatMap (·.nodes) = before ++ after ∧
      slots'.flatMap (·.nodes) = before ++ c :: after := by
  cases h with
  | lengthened before after ns _ =>
    refine ⟨before.flatMap (·.nodes) ++ ns, after.flatMap (·.nodes), ?_, ?_⟩
    · simp [Slot.nodes]
    · simp [Slot.nodes]
  | added _ _ =>
    refine ⟨slots.flatMap (·.nodes), [], ?_, ?_⟩
    · simp
    · simp [Slot.nodes]

/-- The children after a push are those before it, with the new one at one place among them. None
is lost, doubled or moved past another, for slots laid out in any way. -/
theorem exists_children_push (n c : Node) :
    ∃ before after, n.children = before ++ after ∧ (n.push c).children = before ++ c :: after :=
  exists_children_of_pushed (n.pushed_push c)

/-- The slots that hold children, in order. -/
def childSlots (n : Node) : List Slot :=
  n.slots.filter (·.text?.isNone)

/-- A node that holds its children in one gathered sequence, or holds none. -/
def Gatherer (n : Node) : Prop :=
  n.childSlots = [] ∨ ∃ ns, n.childSlots = [.children Slot.expressions ns]

/-- Slots with texts add nothing to the children, so they can be left aside. They may stand
anywhere among the others, which is why a node that gathers is defined without them. -/
theorem children_eq_flatMap_childSlots (n : Node) :
    n.children = n.childSlots.flatMap (·.nodes) := by
  rw [children, childSlots]
  induction n.slots with
  | nil => rfl
  | cons s slots ih =>
    rw [List.flatMap_cons, ih]
    cases s with
    | value name text => rfl
    | child name node => rfl
    | children name nodes => rfl

/-- **One push.** In a node that gathers in one sequence, the child comes last, in the one sequence
that there is then. -/
theorem childSlots_push {n : Node} (h : n.Gatherer) (c : Node) :
    (n.push c).childSlots = [.children Slot.expressions (n.children ++ [c])] := by
  -- what a push does to slots is known; only the slots with children are looked at
  have hPushed := n.pushed_push c
  rw [children_eq_flatMap_childSlots]
  unfold Gatherer at h
  unfold childSlots at h ⊢
  generalize n.slots = slots, (n.push c).slots = slots' at h hPushed
  cases hPushed with
  | lengthened before after ns _ =>
    have hAround : ∀ ms : List Node,
        (before ++ Slot.children Slot.expressions ms :: after).filter (·.text?.isNone) =
          before.filter (·.text?.isNone) ++
            Slot.children Slot.expressions ms :: after.filter (·.text?.isNone) :=
      fun _ => List.filter_append ..
    simp only [hAround] at h ⊢
    -- the sequence that is lengthened is the only slot with children
    have hAlone : before.filter (·.text?.isNone) = [] ∧ after.filter (·.text?.isNone) = [] := by
      rcases h with h | ⟨_, h⟩
      · simp at h
      · rcases List.append_eq_singleton_iff.mp h with ⟨hBefore, h⟩ | ⟨_, h⟩
        · exact ⟨hBefore, (List.cons.inj h).2⟩
        · cases h
    rw [hAlone.1, hAlone.2]
    simp [Slot.nodes]
  | added _ hNone =>
    -- a sequence that gathers would have been lengthened, so there were no children
    have hEmpty : slots.filter (·.text?.isNone) = [] := by
      rcases h with h | ⟨ns, h⟩
      · exact h
      · have hMem : Slot.children Slot.expressions ns ∈ slots :=
          List.mem_of_mem_filter (h ▸ List.mem_cons_self)
        exact absurd rfl (hNone _ hMem)
    rw [List.filter_append, hEmpty]
    rfl

/-- A node that gathers its children goes on to do so. -/
theorem Gatherer.push {n : Node} (h : n.Gatherer) (c : Node) : (n.push c).Gatherer :=
  Or.inr ⟨_, childSlots_push h c⟩

/-- In a node that gathers its children the pushed one is the last. -/
theorem children_push_of_gatherer {n : Node} (h : n.Gatherer) (c : Node) :
    (n.push c).children = n.children ++ [c] := by
  rw [children_eq_flatMap_childSlots, childSlots_push h]
  simp [Slot.nodes]

/-- **Any number of pushes.** The children come behind those that were there, in the order in which
they are pushed. The step is `childSlots_push`, and a node that gathers is one after each push. -/
theorem children_pushAll {n : Node} (h : n.Gatherer) (cs : List Node) :
    (n.pushAll cs).children = n.children ++ cs := by
  induction cs generalizing n with
  | nil => exact (List.append_nil _).symm
  | cons c cs ih =>
    calc ((n.push c).pushAll cs).children
        = (n.push c).children ++ cs := ih (h.push c)
      _ = n.children ++ [c] ++ cs := by rw [children_push_of_gatherer h]
      _ = n.children ++ c :: cs := List.append_cons .. |>.symm

end Node

/-- **A push adds one subtree and disturbs nothing else.** The kind of the node and all its texts
stay. There is one place among the children where the new one comes, the others keep their order,
and the walk is the old one with the whole walk of the new child at that place. If the node holds
its children in one gathered sequence, or holds none, the new child is the last, and children that
are pushed one after the other come in this order. -/
theorem push_inserts_once (n c : Node) :
    (n.push c).kind = n.kind ∧ (∀ name, (n.push c).value? name = n.value? name) ∧
    (∃ before after, n.children = before ++ after ∧ (n.push c).children = before ++ c :: after ∧
      n.walk = n :: (before.flatMap Node.walk ++ after.flatMap Node.walk) ∧
      (n.push c).walk =
        n.push c :: (before.flatMap Node.walk ++ c.walk ++ after.flatMap Node.walk)) ∧
    (n.Gatherer → (n.push c).children = n.children ++ [c] ∧
      ∀ cs, (n.pushAll cs).children = n.children ++ cs) := by
  refine ⟨rfl, n.value?_push c, ?_, fun h => ?_⟩
  · obtain ⟨before, after, hOld, hNew⟩ := n.exists_children_push c
    refine ⟨before, after, hOld, hNew, ?_, ?_⟩
    · rw [Node.walk_eq, hOld, List.flatMap_append]
    · rw [Node.walk_eq, hNew, List.flatMap_append, List.flatMap_cons, List.append_assoc]
  · exact ⟨Node.children_push_of_gatherer h c, Node.children_pushAll h⟩

/-- A node with texts before and behind its one sequence. -/
theorem push_inserts_once_texts :
    (Node.mk .select [.value "alias" "a", .children "expressions" [.table "t"],
      .value "expressions" "x"]).Gatherer ∧
    ((Node.mk .select [.value "alias" "a", .children "expressions" [.table "t"],
      .value "expressions" "x"]).push (.leaf .query)).children = [.table "t", .leaf .query] ∧
    ((Node.mk .select [.value "alias" "a", .children "expressions" [.table "t"],
      .value "expressions" "x"]).pushAll [.leaf .query, .table "u"]).children =
        [.table "t", .leaf .query, .table "u"] := by
  have hGatherer : (Node.mk .select [.value "alias" "a", .children "expressions" [.table "t"],
      .value "expressions" "x"]).Gatherer := Or.inr ⟨[.table "t"], rfl⟩
  obtain ⟨-, -, -, hLast⟩ := push_inserts_once (.mk .select [.value "alias" "a",
    .children "expressions" [.table "t"], .value "expressions" "x"]) (.leaf .query)
  exact ⟨hGatherer, (hLast hGatherer).1, (hLast hGatherer).2 _⟩

/-- Slots of the same name that do not gather are passed over, and what comes later stays later. -/
example : ((Node.mk .select [.value "expressions" "x", .child "expressions" (.table "a"),
    .children "expressions" [.table "b"], .child "where" (.table "d"),
    .children "expressions" [.table "e"]]).push (.table "c")).children =
      [.table "a", .table "b", .table "c", .table "d", .table "e"] := rfl

end QueryGuard.Tree
