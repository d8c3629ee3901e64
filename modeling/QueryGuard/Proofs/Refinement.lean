import QueryGuard.Proofs.Lowering
import QueryGuard.Tree.Builder

/-!
# The builder refines the direct lowering

The builder keeps four stacks while a script is visited; `lowered` keeps nothing. The way from one
to the other has two steps.

* **Stacks to names** — a visit leaves the stacks as they were, but for one thing each on two of
  them: the innermost open node has gathered the nodes of the visit, and the innermost open query
  has given out some names (`Builder.visit_eq`, for any stacks with an open node). So the builder
  computes `outlined`, which passes the names on from visit to visit.
* **Names to places** — the names not given out yet are those from a position on, and that position
  is the number of queries entered before (`snd_outline`, `fst_outline`).

Main results:

* `Builder.visit_eq` / `Builder.visitAll_eq` — the effect of visits on any builder with an open
  node.
* `ofScript_eq_lowered` — the tree of a script is the lowering of its visits.
* `finish_visitAll` — **the builder and the direct lowering give the same tree**, for all visits.
-/

namespace QueryGuard.Tree

open Sql

-- ---------------------------------------------------------------------------
-- From names passed on to places
-- ---------------------------------------------------------------------------

/-- The builder makes the node of a table slot by slot; it is the node of the label for the
name. -/
theorem tableNode_eq (name : ObjectName) : tableNode name = (tableLabel name).node [] := by
  unfold tableNode tableLabel lastPart
  -- the definition reads the parts from the last one on
  obtain ⟨parts, rfl⟩ : ∃ parts, name = parts.reverse := ⟨name.reverse, by simp⟩
  rw [List.reverse_reverse]
  match parts with
  | [] => rfl
  | [table] => rfl
  | [table, db] => rfl
  | table :: db :: catalog :: rest =>
    simp [Node.table, Node.leaf, Node.withValue, Node.withSlot, Label.node, Node.withChildren,
      Node.kind, Node.slots]

theorem withValue?_node (l : Label) (aliasName : Option String) :
    (l.node []).withValue? Slot.aliasName aliasName = (l.withAlias aliasName).node [] := by
  cases aliasName with
  | none => simp [Node.withValue?, Label.withAlias]
  | some name =>
    simp [Node.withValue?, Label.withAlias, Label.node, Node.withChildren, Node.withValue,
      Node.withSlot, Node.kind, Node.slots]

/-- The nodes that an entry opens are the chain of the entry, still without children. The builder
makes them slot by slot, with one slot for each part that is there; a label has the same texts in
the same order. -/
theorem opened_eq (p : Place) (entry : Entry) :
    opened p.cteName? p.owned entry = (chain p entry).map (·.node []) := by
  have hLeaf : ∀ kind, Node.leaf kind = Label.node ⟨kind, []⟩ [] := fun _ => rfl
  match entry with
  | .statement none => rfl
  | .statement (some form) =>
    -- only a copy opens more than one node, and only if it has a source
    cases form with
    | copy source =>
      cases source with
      | none => rfl
      | some source => simp [opened, chain, copySource?, tableNode_eq, hLeaf, StatementForm.kind]
    | _ => rfl
  | .query ctes kind table =>
    have hCte : cteNode = fun name => Label.node ⟨.cte, [(Slot.aliasName, name)]⟩ [] := rfl
    -- the schema of a table that is all rows of a query is a slot only if there is one
    have hWhole : wholeTableNode = fun t =>
        Label.node ⟨.table, (Slot.this, t.1) :: t.2.toList.map (Slot.db, ·)⟩ [] := by
      funext t
      obtain ⟨table, schema⟩ := t
      cases schema with
      | none => rfl
      | some schema => rfl
    rw [opened, chain, hCte, hWhole, hLeaf]
    simp [Function.comp_def]
  | .table name aliasName called =>
    rw [opened, chain, tableNode_eq, withValue?_node]
    split
    · rfl
    · rfl
  | .derived aliasName =>
    rw [opened, chain, hLeaf, withValue?_node]
    rfl
  | .compound => rfl
  | .relation name =>
    rw [opened, chain, tableNode_eq]
    split
    · rfl
    · rfl

/-- Nesting nodes that have no children yet is hanging up their labels. -/
theorem nest_map_node (ls : List Label) (inner : List Node) :
    nest (ls.map (·.node [])) inner = hang ls inner := by
  induction ls with
  | nil => rfl
  | cons l ls ih =>
    rw [List.map_cons, nest, ih, Label.pushAll_node, List.nil_append, hang]

/-- A query gives out the first of the names around it and passes on its own. What it leaves is the
names around without that one. -/
theorem outline_query (pending ctes : List String) (owned : Bool) (kind : NodeKind)
    (table : Option (String × Option String)) (inside : List Visit) :
    outline pending owned (.mk (.query ctes kind table) inside) =
      (nest (opened pending.head? owned (.query ctes kind table))
        (outlineAll ctes owned inside).1, pending.tail) := rfl

/-- The definitions pick out queries; an entry is one or is none. -/
theorem query_or_ne (entry : Entry) :
    (∃ ctes kind table, entry = .query ctes kind table) ∨
      ∀ ctes kind table, entry ≠ .query ctes kind table := by
  cases entry with
  | query ctes kind table => exact Or.inl ⟨ctes, kind, table, rfl⟩
  | _ =>
    refine Or.inr ?_
    intro ctes kind table h
    cases h

section NotQuery

variable {entry : Entry} (hEntry : ∀ ctes kind table, entry ≠ .query ctes kind table)

include hEntry

/-- Anything but a query passes on the names around it and leaves what is left of them inside. This
is the only other case of an outline, so most proofs here split in two by `query_or_ne`. -/
theorem outline_of_ne_query (pending : List String) (owned : Bool) (inside : List Visit) :
    outline pending owned (.mk entry inside) =
      (nest (opened none owned entry) (outlineAll pending ((ownership entry).getD owned) inside).1,
        (outlineAll pending ((ownership entry).getD owned) inside).2) := by
  rw [outline]
  exact hEntry

/-- Anything but a query counts for no query itself, only for those inside. -/
theorem queries_of_ne_query (inside : List Visit) :
    (Visit.mk entry inside).queries = queriesOfVisits inside := by
  rw [Visit.queries]
  exact hEntry

/-- Only a query is given a name, so the nodes that anything else opens do not depend on one. That
is why the name can be looked up before it is known what is entered. -/
theorem opened_of_ne_query (aliasName : Option String) (owned : Bool) :
    opened none owned entry = opened aliasName owned entry := by
  cases entry with
  | query ctes kind table => exact absurd rfl (hEntry ctes kind table)
  | statement form =>
    cases form with
    | none => rfl
    | some form =>
      cases form with
      | copy source =>
        cases source with
        | none => rfl
        | some source => rfl
      | _ => rfl
  | _ => rfl

/-- Inside anything but a query the names and the count of queries are as outside. -/
theorem within_of_ne_query (p : Place) :
    (p.within entry).ctes = p.ctes ∧ (p.within entry).before = p.before := by
  cases entry with
  | query ctes kind table => exact absurd rfl (hEntry ctes kind table)
  | _ => exact ⟨rfl, rfl⟩

end NotQuery

/-- Whether relations are left out inside an entry is its own affair if it is a statement or an
item of FROM, and that of what is around otherwise. -/
theorem owned_within (p : Place) (entry : Entry) :
    (p.within entry).owned = (ownership entry).getD p.owned := by
  cases entry with
  | statement form =>
    cases form with
    | none => rfl
    | some form => rfl
  | _ => rfl

/-- Visits are outlined one after the other, each with the names that those before it have left. -/
theorem outlineAll_cons (pending : List String) (owned : Bool) (v : Visit) (vs : List Visit) :
    outlineAll pending owned (v :: vs) =
      ((outline pending owned v).1 ++ (outlineAll (outline pending owned v).2 owned vs).1,
        (outlineAll (outline pending owned v).2 owned vs).2) := rfl

mutual

/-- Each query gives out one name, those inside it aside: they have names of their own to give out.
So after a visit as many names are gone as it has queries next to the surface. -/
theorem snd_outline (pending : List String) (owned : Bool) (v : Visit) :
    (outline pending owned v).2 = pending.drop v.queries := by
  match v with
  | .mk entry inside =>
    rcases query_or_ne entry with ⟨ctes, kind, table, rfl⟩ | hEntry
    · rw [outline_query, Visit.queries, List.drop_one]
    · rw [outline_of_ne_query hEntry, queries_of_ne_query hEntry]
      exact snd_outlineAll pending _ inside

/-- Visits one after the other give out a name for each query among them, so what is left can be
told from how many there are. -/
theorem snd_outlineAll (pending : List String) (owned : Bool) (vs : List Visit) :
    (outlineAll pending owned vs).2 = pending.drop (queriesOfVisits vs) := by
  match vs with
  | [] => rfl
  | v :: vs =>
    rw [outlineAll_cons, snd_outlineAll, snd_outline, List.drop_drop, queriesOfVisits]

end

mutual

/-- With the names from the count of queries on, an outline is the lowering at the place. This is
the second of the two steps: names that are passed on are names looked up by position. -/
theorem fst_outline (p : Place) (v : Visit) :
    (outline (p.ctes.drop p.before) p.owned v).1 = lowering p v := by
  match v with
  | .mk entry inside =>
    rcases query_or_ne entry with ⟨ctes, kind, table, rfl⟩ | hEntry
    · -- a query takes the first of the names and passes on its own
      have hInside : (outlineAll ctes p.owned inside).1 =
          loweringAll (p.within (.query ctes kind table)) inside :=
        fst_outlineAll (p.within (.query ctes kind table)) inside
      have hName : (p.ctes.drop p.before).head? = p.cteName? := List.head?_drop
      rw [outline_query, hInside, hName, opened_eq, nest_map_node, lowering]
    · -- anything else passes on the names it finds
      have hInside := fst_outlineAll (p.within entry) inside
      obtain ⟨hCtes, hBefore⟩ := within_of_ne_query hEntry p
      rw [owned_within, hCtes, hBefore] at hInside
      rw [outline_of_ne_query hEntry, hInside, opened_of_ne_query hEntry p.cteName?, opened_eq,
        nest_map_node, lowering]

/-- The same of visits one after the other, each at its place. -/
theorem fst_outlineAll (p : Place) (vs : List Visit) :
    (outlineAll (p.ctes.drop p.before) p.owned vs).1 = loweringAll p vs := by
  match vs with
  | [] => rfl
  | v :: vs =>
    have hRest := fst_outlineAll (p.after v) vs
    rw [Place.owned_after, Place.after] at hRest
    rw [outlineAll_cons, fst_outline, snd_outline, List.drop_drop, hRest, loweringAll, Place.after]

end

/-- Outside of everything no names are left and nothing is owned, so the whole outline is the tree
by places. -/
theorem outlined_eq_lowered (vs : List Visit) : outlined vs = lowered vs := by
  have hAll : (outlineAll [] false vs).1 = loweringAll .outermost vs := fst_outlineAll .outermost vs
  rw [outlined, lowered, hAll]
  exact Label.pushAll_node ⟨.script, []⟩ [] _

-- ---------------------------------------------------------------------------
-- From stacks to names passed on
-- ---------------------------------------------------------------------------

/-- Open nodes when the innermost has gathered some more. -/
def gathered : List Node → List Node → List Node
  | [], _ => []
  | top :: rest, inner => top.pushAll inner :: rest

/-- Names of open queries when the innermost has some others left. -/
def leaving : List (List String) → List String → List (List String)
  | [], _ => []
  | _ :: rest, left => left :: rest

theorem gathered_gathered (ns inner more : List Node) :
    gathered (gathered ns inner) more = gathered ns (inner ++ more) := by
  cases ns with
  | nil => rfl
  | cons top rest =>
    show (top.pushAll inner).pushAll more :: rest = top.pushAll (inner ++ more) :: rest
    rw [Node.pushAll, Node.pushAll, Node.pushAll, List.foldl_append]

theorem gathered_ne_nil {ns : List Node} (hNodes : ns ≠ []) (inner : List Node) :
    gathered ns inner ≠ [] := by
  cases ns with
  | nil => exact absurd rfl hNodes
  | cons top rest => exact List.cons_ne_nil _ _

namespace Builder

/-- The last of some nodes to be closed is the outermost of them. The definition closes it last as
well, but counts it first. -/
theorem closeNodes_succ (n : Nat) (ns : List Node) :
    closeNodes (n + 1) ns = closeNode (closeNodes n ns) := by
  induction n generalizing ns with
  | zero => rfl
  | succ n ih =>
    show closeNodes (n + 1) (closeNode ns) = _
    rw [ih]
    rfl

/-- Closing as many nodes as a chain opened puts the chain, with what its innermost node has
gathered, into the node that was innermost before. -/
theorem closeNodes_gathered (ns inner : List Node) {around : List Node} (hAround : around ≠ []) :
    closeNodes ns.length (gathered (ns.reverse ++ around) inner) =
      gathered around (nest ns inner) := by
  induction ns generalizing around with
  | nil => rfl
  | cons n ns ih =>
    obtain ⟨top, rest, rfl⟩ := List.exists_cons_of_ne_nil hAround
    -- the head of the chain is its outermost node, so it is the last one closed
    have hInner := ih (List.cons_ne_nil n (top :: rest))
    rw [List.reverse_cons, List.append_assoc, List.singleton_append, List.length_cons,
      closeNodes_succ, hInner]
    rfl

/-- A builder after a visit that gave nodes and left names. -/
def visited (b : Builder) (outcome : List Node × List String) : Builder :=
  { b with nodes := gathered b.nodes outcome.1, pending := leaving b.pending outcome.2 }

/-- The names that the innermost open query has not given out yet. -/
def names (b : Builder) : List String :=
  b.pending.headD []

@[simp] theorem isOwned_visited (b : Builder) (outcome : List Node × List String) :
    (b.visited outcome).isOwned = b.isOwned := rfl

/-- Behind visits that have left some of the names, these are the names, whether or not there is an
open query to hold them. -/
theorem names_visited (b : Builder) (inner : List Node) (n : Nat) :
    (b.visited (inner, b.names.drop n)).names = b.names.drop n := by
  cases hPending : b.pending with
  | nil => simp [names, visited, leaving, hPending]
  | cons first rest => simp [names, visited, leaving, hPending]

/-- What a builder is after one visit and then another, it is after both: nodes are gathered in
order, and the names are those the second has left. -/
theorem visited_visited (b : Builder) (outcome more : List Node × List String) :
    (b.visited outcome).visited more = b.visited (outcome.1 ++ more.1, more.2) := by
  have hPending : leaving (leaving b.pending outcome.2) more.2 = leaving b.pending more.2 := by
    cases b.pending with
    | nil => rfl
    | cons first rest => rfl
  show Builder.mk (gathered (gathered b.nodes outcome.1) more.1) b.counts
    (leaving (leaving b.pending outcome.2) more.2) b.owned = _
  rw [gathered_gathered, hPending]
  rfl

/-- Entering opens nodes and closes none. -/
theorem nodes_enter_ne_nil {b : Builder} (hNodes : b.nodes ≠ []) (entry : Entry) :
    (b.enter entry).nodes ≠ [] := by
  cases entry <;> exact List.append_ne_nil_of_right_ne_nil _ hNodes

/-- **Entering and leaving a query.** Its nodes go into the innermost open node, and the query
around has given out one name, whatever is left of its own. -/
theorem leave_visited_enter_query {b : Builder} (hNodes : b.nodes ≠ []) (ctes : List String)
    (kind : NodeKind) (table : Option (String × Option String))
    (outcome : List Node × List String) :
    ((b.enter (.query ctes kind table)).visited outcome).leave (.query ctes kind table) =
      b.visited (nest (opened b.names.head? b.isOwned (.query ctes kind table)) outcome.1,
        b.names.tail) := by
  -- on leaving, the names of the query around lose their first, which is what entering has given
  have hGiven : giveOut b.pending = leaving b.pending b.names.tail := by
    unfold names
    cases b.pending with
    | nil => rfl
    | cons first rest => rfl
  -- the nodes the query opened lie on the stack in reverse, and their number on that of counts
  let ns := opened b.names.head? b.isOwned (.query ctes kind table)
  show Builder.mk (closeNodes ns.length (gathered (ns.reverse ++ b.nodes) outcome.1)) b.counts
    (giveOut b.pending) b.owned = _
  rw [closeNodes_gathered ns outcome.1 hNodes, hGiven]
  rfl

section NotQuery

variable {entry : Entry} (hEntry : ∀ ctes kind table, entry ≠ .query ctes kind table)

include hEntry

/-- Entering anything but a query puts its ownership on the stack if it has one, and opens its
nodes. -/
theorem enter_of_ne_query (b : Builder) :
    b.enter entry = { b with owned := (ownership entry).toList ++ b.owned }.openNodes
      (opened none b.isOwned entry) := by
  rw [enter]
  exact hEntry

/-- Leaving it takes the same ownership away and closes what has been opened. The counts agree
because both are read off the entry. -/
theorem leave_of_ne_query (b : Builder) :
    b.leave entry = { b with owned := b.owned.drop (ownership entry).toList.length }.close := by
  rw [leave]
  exact hEntry

/-- **Entering and leaving anything else.** Its nodes go into the innermost open node, and the
names that the visits inside left are those that are left. An entry that is no query opens no frame
of names. -/
theorem leave_visited_enter {b : Builder} (hNodes : b.nodes ≠ [])
    (outcome : List Node × List String) :
    ((b.enter entry).visited outcome).leave entry =
      b.visited (nest (opened none b.isOwned entry) outcome.1, outcome.2) := by
  rw [enter_of_ne_query hEntry, leave_of_ne_query hEntry]
  let ns := opened none b.isOwned entry
  show Builder.mk (closeNodes ns.length (gathered (ns.reverse ++ b.nodes) outcome.1)) b.counts
    (leaving b.pending outcome.2)
    (((ownership entry).toList ++ b.owned).drop (ownership entry).toList.length) = _
  rw [closeNodes_gathered ns outcome.1 hNodes, List.drop_left]
  rfl

/-- Right inside an entry its own ownership counts if it has one. -/
theorem isOwned_enter (b : Builder) :
    (b.enter entry).isOwned = (ownership entry).getD b.isOwned := by
  rw [enter_of_ne_query hEntry]
  show ((ownership entry).toList ++ b.owned).headD false = _
  cases ownership entry with
  | none => rfl
  | some owned => rfl

end NotQuery

mutual

/-- **A visit.** Whatever else is open, it adds the nodes of its outline to the innermost open
node, and leaves the names that the outline leaves. All the stacks are as before otherwise, which
is what makes visits compose. -/
theorem visit_eq {b : Builder} (hNodes : b.nodes ≠ []) (v : Visit) :
    b.visit v = b.visited (outline b.names b.isOwned v) := by
  match v with
  | .mk entry inside =>
    have hInside := visitAll_eq (nodes_enter_ne_nil hNodes entry) inside
    rw [visit, hInside]
    rcases query_or_ne entry with ⟨ctes, kind, table, rfl⟩ | hEntry
    · rw [leave_visited_enter_query hNodes, outline_query]
      rfl
    · have hNames : (b.enter entry).names = b.names := by
        rw [enter_of_ne_query hEntry]
        rfl
      rw [leave_visited_enter hEntry hNodes, outline_of_ne_query hEntry, hNames,
        isOwned_enter hEntry]

/-- Visits one after the other add their outlines one after the other. It is proved together with
`visit_eq`. -/
theorem visitAll_eq {b : Builder} (hNodes : b.nodes ≠ []) (vs : List Visit) :
    b.visitAll vs = b.visited (outlineAll b.names b.isOwned vs) := by
  match vs with
  | [] =>
    -- gathering nothing and leaving the names as they are gives the same builder
    show b = Builder.mk (gathered b.nodes []) b.counts (leaving b.pending b.names) b.owned
    cases b with
    | mk nodes counts pending owned =>
      cases nodes with
      | nil => exact absurd rfl hNodes
      | cons top rest =>
        cases pending with
        | nil => rfl
        | cons names rest => rfl
  | v :: vs =>
    -- the rest goes on from the names that the first visit has left
    have hFirst := visit_eq hNodes v
    have hRest : (b.visit v).nodes ≠ [] := by
      rw [hFirst]
      exact gathered_ne_nil hNodes _
    have hNames : (b.visit v).names = (outline b.names b.isOwned v).2 := by
      rw [hFirst, snd_outline, ← names_visited b (outline b.names b.isOwned v).1, ← snd_outline]
    rw [visitAll, visitAll_eq hRest, hNames, hFirst, visited_visited, isOwned_visited,
      outlineAll_cons]

end

end Builder

/-- The builder computes the outline. -/
theorem finish_visitAll_eq_outlined (vs : List Visit) :
    (Builder.start.visitAll vs).finish = outlined vs := by
  have hStart : Builder.start.nodes ≠ [] := List.cons_ne_nil _ _
  rw [Builder.visitAll_eq hStart]
  rfl

/-- The tree of a script is that of its visits. From here on trees are known without the builder:
the other modules speak of labels hung up at places. -/
theorem ofScript_eq_lowered (script : List Statement) :
    ofScript script = lowered (visits script) := by
  rw [ofScript, finish_visitAll_eq_outlined, outlined_eq_lowered]

/-- **The builder refines the direct lowering.** For all visits, whatever is entered in them, going
through them with the stacks and closing what is open gives the tree defined by recursion. -/
theorem finish_visitAll (vs : List Visit) :
    (Builder.start.visitAll vs).finish = lowered vs := by
  rw [finish_visitAll_eq_outlined, outlined_eq_lowered]

end QueryGuard.Tree
