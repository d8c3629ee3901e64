import Mathlib.Algebra.GroupWithZero.Nat
import QueryGuard.Proofs.Refinement

/-!
# Stacks — the builder's stacks are always in step

The builder is called when something is entered and again when it is left. It has a way out for
every call that comes out of turn: closing with nothing counted closes nothing, a node with nothing
around it stays where it is, and what is still open at the end is closed there. A call out of turn
would therefore not fail; it would build another tree. Here is why none of these ways out is ever
taken.

Calls are strictly nested if whatever is left is what was entered last and not left yet
(`openAfter?`). Any such calls, and so those made so far at any point of a visit, keep the four
stacks in step with what is open (`Builder.InStep`): there is one count for each open entry, the
counts add up to the open nodes above the root, there is one list of names for each open query and
one flag for each open statement or item of FROM.

Main results:

* `Builder.InStep.enter` / `Builder.InStep.leave` — what a single call preserves.
* `Builder.InStep.run` — what strictly nested calls preserve.
* `stacks_in_step` — **no way out is ever taken**, and whatever is entered and left again leaves the
  stacks as they were, but for nodes gathered and names given out.
-/

namespace QueryGuard.Sql

-- ---------------------------------------------------------------------------
-- Calls
-- ---------------------------------------------------------------------------

/-- What happens while a script is visited. -/
inductive Call where
  | enter (e : Entry)
  | leave (e : Entry)

mutual

/-- The calls of a visit: those of what is inside stand between entering and leaving. -/
def Visit.calls : Visit → List Call
  | .mk entry inside => .enter entry :: (callsOfVisits inside ++ [.leave entry])

/-- The calls of visits one after the other. -/
def callsOfVisits : List Visit → List Call
  | [] => []
  | v :: vs => v.calls ++ callsOfVisits vs

end

/-- What is open after some calls, innermost first, given what was open before; nothing if the calls
are not strictly nested, so that something is left that is not the innermost. -/
def openAfter? : List Entry → List Call → Option (List Entry)
  | es, [] => some es
  | es, .enter e :: cs => openAfter? (e :: es) cs
  | [], .leave _ :: _ => none
  | innermost :: es, .leave e :: cs => if innermost = e then openAfter? es cs else none

/-- Calls made in two runs: what the second finds open is what the first has left open. If the
first is not strictly nested, neither are both together. -/
theorem openAfter?_append (es : List Entry) (cs ds : List Call) :
    openAfter? es (cs ++ ds) = (openAfter? es cs).bind (openAfter? · ds) := by
  induction cs generalizing es with
  | nil => rfl
  | cons c cs ih =>
    match c, es with
    | .enter e, es => exact ih (e :: es)
    | .leave e, [] => rfl
    | .leave e, innermost :: es =>
      rw [List.cons_append, openAfter?, openAfter?]
      split
      · exact ih es
      · rfl

mutual

/-- A visit leaves open what was open before, as everything entered in it is left in it. The proof
goes through the calls of what is inside, so it is proved together with the one for visits. -/
theorem openAfter?_calls (es : List Entry) (v : Visit) : openAfter? es v.calls = some es := by
  match v with
  | .mk entry inside =>
    rw [Visit.calls, openAfter?, openAfter?_append, openAfter?_callsOfVisits]
    simp [openAfter?]

/-- Visits leave nothing open that was not open before. -/
theorem openAfter?_callsOfVisits (es : List Entry) (vs : List Visit) :
    openAfter? es (callsOfVisits vs) = some es := by
  match vs with
  | [] => rfl
  | v :: vs =>
    rw [callsOfVisits, openAfter?_append, openAfter?_calls]
    exact openAfter?_callsOfVisits es vs

end

/-- The calls made so far at any point of visits are strictly nested. -/
theorem exists_openAfter?_of_append {vs : List Visit} {done rest : List Call}
    (h : callsOfVisits vs = done ++ rest) : ∃ es, openAfter? [] done = some es := by
  have hAll := openAfter?_callsOfVisits [] vs
  rw [h, openAfter?_append] at hAll
  obtain ⟨es, hDone, -⟩ := Option.bind_eq_some_iff.mp hAll
  exact ⟨es, hDone⟩

/-- Whether an entry is a query. -/
def Entry.isQuery : Entry → Bool
  | .query _ _ _ => true
  | _ => false

/-- Whether an entry is a statement or an item of FROM. -/
def Entry.isOwner : Entry → Bool
  | .statement _ => true
  | .table _ _ _ => true
  | .derived _ => true
  | .compound => true
  | .query _ _ _ => false
  | .relation _ => false

/-- What is no query by its form is none by the test. -/
theorem Entry.isQuery_of_ne_query {e : Entry}
    (hEntry : ∀ ctes kind table, e ≠ .query ctes kind table) : e.isQuery = false := by
  cases e with
  | query ctes kind table => exact absurd rfl (hEntry ctes kind table)
  | _ => rfl

end QueryGuard.Sql

namespace QueryGuard.Tree

open Sql

namespace Builder

/-- Answers a call. -/
def call (b : Builder) : Call → Builder
  | .enter e => b.enter e
  | .leave e => b.leave e

/-- Answers calls one after the other. -/
def run (b : Builder) (cs : List Call) : Builder :=
  cs.foldl call b

theorem run_append (b : Builder) (cs ds : List Call) : b.run (cs ++ ds) = (b.run cs).run ds :=
  List.foldl_append

mutual

/-- Answering the calls of a visit is going through the visit, since both enter first, then go
through what is inside, and leave last. -/
theorem run_calls (b : Builder) (v : Visit) : b.run v.calls = b.visit v := by
  match v with
  | .mk entry inside =>
    rw [Visit.calls, ← List.singleton_append, run_append, run_append, run_callsOfVisits]
    rfl

/-- Going through visits is answering their calls. -/
theorem run_callsOfVisits (b : Builder) (vs : List Visit) :
    b.run (callsOfVisits vs) = b.visitAll vs := by
  match vs with
  | [] => rfl
  | v :: vs => rw [callsOfVisits, run_append, run_calls, run_callsOfVisits, visitAll]

end

-- ---------------------------------------------------------------------------
-- Closing nodes
-- ---------------------------------------------------------------------------

/-- The outermost open node is the root of a script. -/
def Rooted (ns : List Node) : Prop :=
  ∃ root, ns.getLast? = some root ∧ root.kind = .script

theorem Rooted.ne_nil {ns : List Node} (h : Rooted ns) : ns ≠ [] := by
  rintro rfl
  obtain ⟨root, hRoot, -⟩ := h
  cases hRoot

/-- Nodes opened further in leave the root outermost. -/
theorem Rooted.append {ns : List Node} (h : Rooted ns) (inner : List Node) :
    Rooted (inner ++ ns) := by
  obtain ⟨root, hRoot, hKind⟩ := h
  exact ⟨root, by simp [List.getLast?_append, hRoot], hKind⟩

/-- Closing the innermost node puts it into the one around it. Even where that is the root, it
stays a script, and the root itself is never closed. -/
theorem Rooted.closeNode {ns : List Node} (h : Rooted ns) : Rooted (closeNode ns) := by
  match ns with
  | [] => exact absurd rfl h.ne_nil
  | [root] => exact h
  | [inner, root] =>
    -- the root gathers a node, which does not change its kind
    obtain ⟨_, hRoot, hKind⟩ := h
    injection hRoot with hRoot
    subst hRoot
    exact ⟨root.push inner, rfl, hKind⟩
  | inner :: outer :: next :: rest =>
    obtain ⟨root, hRoot, hKind⟩ := h
    exact ⟨root, by simpa [Builder.closeNode, List.getLast?_cons_cons] using hRoot, hKind⟩

/-- Nor is it by closing any number of nodes, so the root cannot be lost. -/
theorem Rooted.closeNodes {ns : List Node} (h : Rooted ns) (n : Nat) :
    Rooted (closeNodes n ns) := by
  induction n with
  | zero => exact h
  | succ n ih =>
    rw [closeNodes_succ]
    exact ih.closeNode

/-- With another node around it the innermost is taken off the stack. With the root alone nothing
would be closed, which is why two nodes are asked for. -/
theorem length_closeNode {ns : List Node} (h : 2 ≤ ns.length) :
    (closeNode ns).length + 1 = ns.length := by
  match ns with
  | [] => simp at h
  | [n] => simp at h
  | inner :: outer :: rest => rfl

/-- As long as a node is left open, closing nodes takes away as many as are to be closed. -/
theorem length_closeNodes {ns : List Node} {n : Nat} (h : n < ns.length) :
    (closeNodes n ns).length + n = ns.length := by
  induction n with
  | zero => rfl
  | succ n ih =>
    have hBefore := ih (by omega)
    have hStep := length_closeNode (show 2 ≤ (closeNodes n ns).length by omega)
    rw [closeNodes_succ]
    omega

end Builder

-- ---------------------------------------------------------------------------
-- In step
-- ---------------------------------------------------------------------------

/-- Entering a statement or an item of FROM puts one flag on the stack of ownership, and entering
anything else none. -/
theorem length_ownership (e : Entry) :
    (ownership e).toList.length = if e.isOwner then 1 else 0 := by
  match e with
  | .statement none => rfl
  | .statement (some _) => rfl
  | .table _ _ _ => rfl
  | .derived _ => rfl
  | .compound => rfl
  | .query _ _ _ => rfl
  | .relation _ => rfl

namespace Builder

/-- The stacks of a builder are in step with what is open, innermost first. -/
structure InStep (es : List Entry) (b : Builder) : Prop where
  /-- The outermost open node is the root. -/
  rooted : Rooted b.nodes
  /-- Above the root there are as many nodes as have been counted. -/
  nodes : b.nodes.length = 1 + b.counts.sum
  /-- There is a count for each open entry, -/
  counts : b.counts.length = es.length
  /-- a list of names for each open query, -/
  pending : b.pending.length = es.countP Entry.isQuery
  /-- and a flag for each open statement or item of FROM. -/
  owned : b.owned.length = es.countP Entry.isOwner

theorem inStep_start : InStep [] start where
  rooted := ⟨Node.leaf .script, rfl, rfl⟩
  nodes := rfl
  counts := rfl
  pending := rfl
  owned := rfl

/-- Entering opens some nodes and counts them. -/
theorem nodes_enter (b : Builder) (e : Entry) :
    ∃ ns : List Node, (b.enter e).nodes = ns.reverse ++ b.nodes ∧
      (b.enter e).counts = ns.length :: b.counts := by
  rcases query_or_ne e with ⟨ctes, kind, table, rfl⟩ | hEntry
  · exact ⟨_, rfl, rfl⟩
  · rw [enter_of_ne_query hEntry]
    exact ⟨_, rfl, rfl⟩

/-- Only entering a query puts names on the stack, one list of them, even where the query defines
nothing and the list is empty. -/
theorem length_pending_enter (b : Builder) (e : Entry) :
    (b.enter e).pending.length = b.pending.length + if e.isQuery then 1 else 0 := by
  rcases query_or_ne e with ⟨ctes, kind, table, rfl⟩ | hEntry
  · show (ctes :: giveOut b.pending).length = _
    cases b.pending with
    | nil => rfl
    | cons names rest => rfl
  · rw [enter_of_ne_query hEntry, Entry.isQuery_of_ne_query hEntry]
    rfl

theorem length_owned_enter (b : Builder) (e : Entry) :
    (b.enter e).owned.length = b.owned.length + if e.isOwner then 1 else 0 := by
  rcases query_or_ne e with ⟨ctes, kind, table, rfl⟩ | hEntry
  · rfl
  · rw [enter_of_ne_query hEntry, ← length_ownership, Nat.add_comm, ← List.length_append]
    rfl

/-- Entering keeps the stacks in step: each grows by what the entry has, and the count it leaves
says by how many nodes. -/
theorem InStep.enter {es : List Entry} {b : Builder} (h : InStep es b) (e : Entry) :
    InStep (e :: es) (b.enter e) := by
  obtain ⟨ns, hNodes, hCounts⟩ := nodes_enter b e
  -- the four stacks one by one: the root stays outermost, nodes and counts grow by the same, and
  -- the names and flags by what the entry puts there
  refine ⟨?_, ?_, ?_, ?_, ?_⟩
  · rw [hNodes]
    exact h.rooted.append _
  · have hBefore := h.nodes
    rw [hNodes, hCounts, List.length_append, List.length_reverse, List.sum_cons]
    omega
  · rw [hCounts, List.length_cons, List.length_cons, h.counts]
  · rw [length_pending_enter, h.pending, List.countP_cons]
  · rw [length_owned_enter, h.owned, List.countP_cons]

/-- Leaving closes the nodes that were counted last and forgets the count. -/
theorem nodes_leave (b : Builder) (e : Entry) :
    (b.leave e).nodes = closeNodes (b.counts.headD 0) b.nodes ∧
      (b.leave e).counts = b.counts.tail := by
  rcases query_or_ne e with ⟨ctes, kind, table, rfl⟩ | hEntry
  · exact ⟨rfl, rfl⟩
  · rw [leave_of_ne_query hEntry]
    exact ⟨rfl, rfl⟩

/-- Leaving a query takes its names off the stack. -/
theorem length_pending_leave (b : Builder) (e : Entry) :
    (b.leave e).pending.length = b.pending.length - if e.isQuery then 1 else 0 := by
  rcases query_or_ne e with ⟨ctes, kind, table, rfl⟩ | hEntry
  · exact List.length_tail
  · rw [leave_of_ne_query hEntry, Entry.isQuery_of_ne_query hEntry]
    rfl

theorem length_owned_leave (b : Builder) (e : Entry) :
    (b.leave e).owned.length = b.owned.length - if e.isOwner then 1 else 0 := by
  rcases query_or_ne e with ⟨ctes, kind, table, rfl⟩ | hEntry
  · rfl
  · rw [leave_of_ne_query hEntry, ← length_ownership]
    exact List.length_drop

/-- With something open there is a count, and more nodes are open than are to be closed: the root
is not among those that were counted. -/
theorem InStep.exists_count {e : Entry} {es : List Entry} {b : Builder} (h : InStep (e :: es) b) :
    ∃ n rest, b.counts = n :: rest ∧ b.nodes.length = 1 + n + rest.sum := by
  have hCounts : b.counts ≠ [] := by
    intro hNil
    have hLength := h.counts
    rw [hNil] at hLength
    cases hLength
  obtain ⟨n, rest, hEq⟩ := List.exists_cons_of_ne_nil hCounts
  have hNodes := h.nodes
  rw [hEq, List.sum_cons] at hNodes
  exact ⟨n, rest, hEq, by omega⟩

/-- Leaving the innermost entry keeps the stacks in step. Each stack loses what entering had put
there, since the count tells how many nodes and the entry which of the other stacks. -/
theorem InStep.leave {e : Entry} {es : List Entry} {b : Builder} (h : InStep (e :: es) b) :
    InStep es (b.leave e) := by
  obtain ⟨n, rest, hEq, hLength⟩ := h.exists_count
  obtain ⟨hNodes, hCounts⟩ := nodes_leave b e
  rw [hEq] at hNodes hCounts
  -- the same stacks, each now shorter by what entering had put there
  refine ⟨?_, ?_, ?_, ?_, ?_⟩
  · rw [hNodes]
    exact h.rooted.closeNodes n
  · -- as many nodes are closed as were counted, and one is left for the root
    have hClosed := length_closeNodes (show n < b.nodes.length by omega)
    rw [hNodes, hCounts]
    show (closeNodes n b.nodes).length = 1 + rest.sum
    omega
  · have hBefore := h.counts
    rw [hEq, List.length_cons, List.length_cons] at hBefore
    rw [hCounts]
    exact Nat.succ.inj hBefore
  · rw [length_pending_leave, h.pending, List.countP_cons]
    omega
  · rw [length_owned_leave, h.owned, List.countP_cons]
    omega

/-- **Strictly nested calls** keep the stacks in step. The induction is over the calls, with one
step lemma for entering and one for leaving; a call that leaves what is not innermost is excluded
by the nesting. -/
theorem InStep.run {es es' : List Entry} {b : Builder} {cs : List Call} (h : InStep es b)
    (hCalls : openAfter? es cs = some es') : InStep es' (b.run cs) := by
  -- the induction is on the calls; what is open changes with each
  induction cs generalizing es b with
  | nil =>
    injection hCalls with hCalls
    subst hCalls
    exact h
  | cons c cs ih =>
    match c, es with
    | .enter e, es => exact ih (h.enter e) hCalls
    | .leave e, [] => cases hCalls
    | .leave e, innermost :: es =>
      rw [openAfter?] at hCalls
      split at hCalls
      · -- only the innermost entry may be left
        rename_i hEntry
        subst hEntry
        exact ih h.leave hCalls
      · cases hCalls

-- ---------------------------------------------------------------------------
-- No way out is taken
-- ---------------------------------------------------------------------------

/-- Leaving takes no way out: there is a count, and whenever a node is closed there is another one
around it. -/
structure Closable (b : Builder) : Prop where
  counted : b.counts ≠ []
  around : ∀ i < b.counts.headD 0, 2 ≤ (closeNodes i b.nodes).length

/-- With something open that was entered, the ways out of leaving are not taken: the count is
there, and at every node that is closed there is one around it to take it. -/
theorem InStep.closable {e : Entry} {es : List Entry} {b : Builder} (h : InStep (e :: es) b) :
    b.Closable := by
  obtain ⟨n, rest, hEq, hLength⟩ := h.exists_count
  refine ⟨by simp [hEq], ?_⟩
  intro i hi
  have hLess : i < n := by simpa [hEq] using hi
  have hClosed := length_closeNodes (show i < b.nodes.length by omega)
  omega

/-- Only the root is left open, and finishing takes no way out: it gives the root as it is. -/
structure Settled (b : Builder) : Prop where
  finish : b.nodes = [b.finish]
  root : b.finish.kind = .script
  counts : b.counts = []
  pending : b.pending = []
  owned : b.owned = []

/-- With nothing open but the root the stacks are back as they were at the start, and finishing
finds a single node. -/
theorem InStep.settled {b : Builder} (h : InStep [] b) : b.Settled := by
  -- with nothing open the stacks of counts, names and flags are empty, so there is one node
  have hCounts : b.counts = [] := List.length_eq_zero_iff.mp h.counts
  have hLength : b.nodes.length = 1 := by
    rw [h.nodes, hCounts]
    rfl
  obtain ⟨root, hNodes⟩ := List.length_eq_one_iff.mp hLength
  have hFinish : b.finish = root := by
    rw [Builder.finish, hNodes]
    rfl
  obtain ⟨_, hLast, hKind⟩ := h.rooted
  rw [hNodes] at hLast
  injection hLast with hLast
  subst hLast
  exact ⟨by rw [hFinish, hNodes], by rw [hFinish]; exact hKind, hCounts,
    List.length_eq_zero_iff.mp h.pending, List.length_eq_zero_iff.mp h.owned⟩

-- ---------------------------------------------------------------------------
-- Entering and leaving again
-- ---------------------------------------------------------------------------

/-- What a visit does to the stacks of a builder. Counts and flags are as they were. So are the
names of queries, but that the innermost query has given out one for each query visited with no
other query around it; for the visit of a query that is the query itself. And so are the open nodes,
but that the innermost has gathered finished ones. -/
structure Restored (v : Visit) (before after : Builder) : Prop where
  counts : after.counts = before.counts
  owned : after.owned = before.owned
  pending : before.pending = [] ∧ after.pending = [] ∨
    ∃ names around, before.pending = names :: around ∧
      after.pending = names.drop v.queries :: around
  nodes : ∃ innermost around finished, before.nodes = innermost :: around ∧
    after.nodes = innermost.pushAll finished :: around

/-- A visit as a whole gives back what it has put on the stacks. This follows from what a visit
adds, and holds of any builder with an open node, in step or not. -/
theorem restored_visit {b : Builder} (hNodes : b.nodes ≠ []) (v : Visit) :
    Restored v b (b.visit v) := by
  rw [visit_eq hNodes]
  refine ⟨rfl, rfl, ?_, ?_⟩
  · show _ ∨ ∃ names around, _ ∧ leaving b.pending (outline b.names b.isOwned v).2 = _
    -- the names of the innermost query are those it had, without as many as were given out
    rw [snd_outline]
    cases hPending : b.pending with
    | nil => exact Or.inl ⟨rfl, by simp [visited, leaving, hPending]⟩
    | cons names around =>
      exact Or.inr ⟨names, around, rfl, by simp [leaving, Builder.names, hPending]⟩
  · obtain ⟨innermost, around, hEq⟩ := List.exists_cons_of_ne_nil hNodes
    refine ⟨innermost, around, (outline b.names b.isOwned v).1, hEq, ?_⟩
    -- what was gathered is the outline of the visit
    show gathered b.nodes _ = _
    rw [hEq]
    rfl

end Builder

/-- **The stacks are always in step, and no way out is ever taken.** Going through visits is
answering their calls, and the calls made so far are strictly nested at every point. After any
strictly nested calls the stacks are in step with what is open. If something is open, leaving it
finds its count and closes each node into one around it; if nothing is, finishing closes nothing and
gives the root of a script. And whatever is entered next and left again leaves the stacks as they
were, but for nodes gathered by the innermost open one and names given out by the innermost open
query, one for each query entered beneath it. -/
theorem stacks_in_step :
    (∀ vs, Builder.start.visitAll vs = Builder.start.run (callsOfVisits vs) ∧
      openAfter? [] (callsOfVisits vs) = some [] ∧
      ∀ done rest, callsOfVisits vs = done ++ rest → ∃ es, openAfter? [] done = some es) ∧
    ∀ done es, openAfter? [] done = some es →
      Builder.InStep es (Builder.start.run done) ∧
      (es ≠ [] → (Builder.start.run done).Closable) ∧
      (es = [] → (Builder.start.run done).Settled) ∧
      ∀ v, Builder.Restored v (Builder.start.run done) (Builder.start.run (done ++ v.calls)) := by
  refine ⟨?_, ?_⟩
  · intro vs
    exact ⟨(Builder.run_callsOfVisits _ vs).symm, openAfter?_callsOfVisits [] vs,
      fun _ _ h => exists_openAfter?_of_append h⟩
  · intro done es hDone
    -- what has been called is strictly nested, so the stacks are in step; the rest is read off
    -- that
    have hStep := Builder.inStep_start.run hDone
    refine ⟨hStep, ?_, ?_, ?_⟩
    · intro hOpen
      obtain ⟨e, outer, rfl⟩ := List.exists_cons_of_ne_nil hOpen
      exact hStep.closable
    · rintro rfl
      exact hStep.settled
    · intro v
      rw [Builder.run_append, Builder.run_calls]
      exact Builder.restored_visit hStep.rooted.ne_nil v

/-- A query with a common table expression: in the middle of its visit, and at the end. -/
theorem stacks_in_step_cte :
    (∃ es, openAfter? [] [.enter (.statement none), .enter (.query ["c"] .select none)] = some es) ∧
    Builder.InStep [.query ["c"] .select none, .statement none]
      (Builder.start.run [.enter (.statement none), .enter (.query ["c"] .select none)]) ∧
    (Builder.start.run [.enter (.statement none), .enter (.query ["c"] .select none)]).Closable ∧
    (Builder.start.run (callsOfVisits
      [.mk (.statement none) [.mk (.query ["c"] .select none) [.mk (.query [] .select none) []]]])
        ).Settled := by
  obtain ⟨hVisits, hCalls⟩ := stacks_in_step
  have hMiddle : openAfter? [] [.enter (.statement none), .enter (.query ["c"] .select none)] =
      some [.query ["c"] .select none, .statement none] := rfl
  have hEnd := (hVisits
    [.mk (.statement none) [.mk (.query ["c"] .select none) [.mk (.query [] .select none) []]]]).2
  exact ⟨hEnd.2 _ [.enter (.query [] .select none), .leave (.query [] .select none),
      .leave (.query ["c"] .select none), .leave (.statement none)] rfl,
    (hCalls _ _ hMiddle).1, (hCalls _ _ hMiddle).2.1 (List.cons_ne_nil _ _),
    (hCalls _ _ hEnd.1).2.2.1 rfl⟩

end QueryGuard.Tree
