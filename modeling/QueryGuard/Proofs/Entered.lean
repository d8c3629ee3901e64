import QueryGuard.Sql.Opening
import QueryGuard.Sql.Visit

/-!
# What is entered, and where it stands

Visits are nested; this module lays them out flat. `enteredAll` lists what is entered, in order,
each entry with its `Place`: the common table expressions of the nearest query around it, how many
queries were entered before it directly beneath that query, and the innermost statement or item of
FROM around it. These three are all that the nodes of an entry depend on besides the entry itself.

The second half goes back from visits to the script. `constituents` lists the parts of a script at
any depth in reading order, by recursion on the syntax alone, and says nothing of visits. A visit
of the script enters exactly the statements, queries, items of FROM and named relations among them.

Main results:

* `map_snd_enteredAll` — the places aside, what is entered is the entries one after the other.
* `entriesOfVisits_visits` — a visit of a script enters its constituents, each once and in order.
* `kind_mem_queryKinds_of_entered` — what is entered as a query has the kind of a query.
-/

namespace QueryGuard.Sql

-- ---------------------------------------------------------------------------
-- Places
-- ---------------------------------------------------------------------------

/-- Where an entry stands among the others. -/
structure Place where
  /-- The names of the common table expressions of the nearest query around, in order. -/
  ctes : List String
  /-- How many queries were entered before directly beneath that query. -/
  before : Nat
  /-- The innermost statement or item of FROM around. -/
  owner : Option Entry

/-- Whether the relations named inside an entry, with no other owner between, are left out: those
of a named table, and those of a listing other than one of columns. -/
def Entry.ownsRelations : Entry → Bool
  | .statement (some form) => form.kind = .showing && form != .showColumns
  | .table _ _ _ => true
  | _ => false

mutual

/-- The number of queries in a visit with no other query around them in it. -/
def Visit.queries : Visit → Nat
  | .mk (.query _ _ _) _ => 1
  | .mk _ inside => queriesOfVisits inside

/-- The number of queries in visits with no other query around them there. -/
def queriesOfVisits : List Visit → Nat
  | [] => 0
  | v :: vs => v.queries + queriesOfVisits vs

end

namespace Place

/-- Outside of everything. -/
def outermost : Place where
  ctes := []
  before := 0
  owner := none

/-- The place of what is entered first inside an entry. -/
def within (p : Place) : Entry → Place
  | .query ctes _ _ => { p with ctes := ctes, before := 0 }
  | .relation _ => p
  | e => { p with owner := some e }

/-- The place of what is entered next behind a visit. -/
def after (p : Place) (v : Visit) : Place :=
  { p with before := p.before + v.queries }

/-- The place of what is entered next behind visits. -/
def afterAll (p : Place) (vs : List Visit) : Place :=
  { p with before := p.before + queriesOfVisits vs }

/-- The name that the nearest query around gives to a query entered here, if it is the body of one
of its common table expressions. -/
def cteName? (p : Place) : Option String :=
  p.ctes[p.before]?

/-- Whether the name of a relation is left out here. -/
def owned (p : Place) : Bool :=
  p.owner.any (·.ownsRelations)

/-- What stands behind a visit is inside the same entries, so it is owned alike. Only entering
something can change whether the names of relations are left out. -/
@[simp] theorem owned_after (p : Place) (v : Visit) : (p.after v).owned = p.owned := rfl

/-- Places behind visits are counted visit by visit: the queries of the first and then those of the
others. -/
theorem afterAll_cons (p : Place) (v : Visit) (vs : List Visit) :
    p.afterAll (v :: vs) = (p.after v).afterAll vs := by
  simp [after, afterAll, queriesOfVisits, Nat.add_assoc]

end Place

-- ---------------------------------------------------------------------------
-- What is entered
-- ---------------------------------------------------------------------------

mutual

/-- What is entered in a visit that stands at a place, in order. -/
def Visit.entered (p : Place) : Visit → List (Place × Entry)
  | .mk entry inside => (p, entry) :: enteredAll (p.within entry) inside

/-- What is entered in visits of which the first stands at a place, in order. -/
def enteredAll (p : Place) : List Visit → List (Place × Entry)
  | [] => []
  | v :: vs => v.entered p ++ enteredAll (p.after v) vs

end

mutual

/-- The entries of a visit, in order. -/
def Visit.entries : Visit → List Entry
  | .mk entry inside => entry :: entriesOfVisits inside

/-- The entries of visits, in order. -/
def entriesOfVisits : List Visit → List Entry
  | [] => []
  | v :: vs => v.entries ++ entriesOfVisits vs

end

mutual

/-- Places only accompany what is entered. Without them it is the entries of the visit, so whatever
is proved of entries with their places is of all entries. -/
theorem map_snd_entered (p : Place) (v : Visit) : (v.entered p).map Prod.snd = v.entries := by
  match v with
  | .mk entry inside =>
    rw [Visit.entered, Visit.entries, List.map_cons, map_snd_enteredAll]

/-- The same of visits that follow each other. It is proved together with the one above, as visits
hold visits: each lemma is used in the other for what is smaller. -/
theorem map_snd_enteredAll (p : Place) (vs : List Visit) :
    (enteredAll p vs).map Prod.snd = entriesOfVisits vs := by
  match vs with
  | [] => rfl
  | v :: vs =>
    rw [enteredAll, entriesOfVisits, List.map_append, map_snd_entered, map_snd_enteredAll]

end

/-- The entries of visits one after the other are those of the first and then those of the
others. -/
@[simp] theorem entriesOfVisits_append (vs ws : List Visit) :
    entriesOfVisits (vs ++ ws) = entriesOfVisits vs ++ entriesOfVisits ws := by
  induction vs with
  | nil => rfl
  | cons v vs ih => rw [List.cons_append, entriesOfVisits, entriesOfVisits, ih, List.append_assoc]

-- ---------------------------------------------------------------------------
-- The constituents of a script
-- ---------------------------------------------------------------------------

/-- A part of a script, at any depth. -/
inductive Constituent where
  | statement (s : Statement)
  | query (q : Query)
  | cte (c : Cte)
  | body (b : Body)
  | factor (f : TableFactor)
  | relation (name : ObjectName)

mutual

/-- A statement and all that it is made of, in reading order. -/
def Statement.constituents : Statement → List Constituent
  | .query q => .statement (.query q) :: q.constituents
  | .plain form parts => .statement (.plain form parts) :: constituentsOfParts parts

/-- A query and all that it is made of. -/
def Query.constituents : Query → List Constituent
  | .mk ctes body rest =>
    .query (.mk ctes body rest) ::
      (constituentsOfCtes ctes ++ body.constituents ++ constituentsOfParts rest)

/-- Common table expressions and all that they are made of. -/
def constituentsOfCtes : List Cte → List Constituent
  | [] => []
  | .mk name q :: rest => .cte (.mk name q) :: (q.constituents ++ constituentsOfCtes rest)

/-- A body and all that it is made of. -/
def Body.constituents : Body → List Constituent
  | .select into parts => .body (.select into parts) :: constituentsOfParts parts
  | .nested q => .body (.nested q) :: q.constituents
  | .setOperation op left right =>
    .body (.setOperation op left right) :: (left.constituents ++ right.constituents)
  | .values parts => .body (.values parts) :: constituentsOfParts parts
  | .table name schema => [.body (.table name schema)]
  | .write s => .body (.write s) :: s.constituents

/-- An item of FROM and all that it is made of. -/
def TableFactor.constituents : TableFactor → List Constituent
  | .table name aliasName none rest =>
    .factor (.table name aliasName none rest) :: .relation name :: constituentsOfParts rest
  | .table name aliasName (some args) rest =>
    .factor (.table name aliasName (some args) rest) :: .relation name ::
      (constituentsOfParts args ++ constituentsOfParts rest)
  | .derived aliasName q rest =>
    .factor (.derived aliasName q rest) :: (q.constituents ++ constituentsOfParts rest)
  | .compound parts => .factor (.compound parts) :: constituentsOfParts parts

/-- Parts of clauses and all that they are made of. -/
def constituentsOfParts : List Part → List Constituent
  | [] => []
  | .statement s :: rest => s.constituents ++ constituentsOfParts rest
  | .query q :: rest => q.constituents ++ constituentsOfParts rest
  | .factor f :: rest => f.constituents ++ constituentsOfParts rest
  | .relation name :: rest => .relation name :: constituentsOfParts rest

end

/-- The constituents of a script, in reading order. -/
def constituents (script : List Statement) : List Constituent :=
  script.flatMap (·.constituents)

/-- What is known of a statement on entering it. -/
def Statement.entry : Statement → Entry
  | .query _ => .statement none
  | .plain form _ => .statement (some form)

/-- What is known of an item of FROM on entering it. -/
def TableFactor.entry : TableFactor → Entry
  | .table name aliasName args _ => .table name aliasName args.isSome
  | .derived aliasName _ _ => .derived aliasName
  | .compound _ => .compound

/-- What is known of a constituent on entering it, if it is one that is entered. -/
def Constituent.asEntry : Constituent → Option Entry
  | .statement s => some s.entry
  | .query q => some q.entry
  | .cte _ => none
  | .body _ => none
  | .factor f => some f.entry
  | .relation name => some (.relation name)

-- ---------------------------------------------------------------------------
-- Visits of scripts
-- ---------------------------------------------------------------------------

mutual

/-- A statement is entered first, then its query or the parts of its clauses. The six lemmas of
this group have one case for each form of syntax, and the proof is by recursion on the syntax. -/
theorem Statement.entries_visit (s : Statement) :
    s.visit.entries = s.constituents.filterMap (·.asEntry) := by
  match s with
  | .query q =>
    simp [Statement.visit, Statement.constituents, Visit.entries, entriesOfVisits,
      Constituent.asEntry, Statement.entry, Query.entries_visit q]
  | .plain form parts =>
    simp [Statement.visit, Statement.constituents, Visit.entries, Constituent.asEntry,
      Statement.entry, entriesOfVisits_visitParts parts]

/-- A query is entered before what is in it: its common table expressions, its body and its other
clauses, in this order, in the visit as among the constituents. -/
theorem Query.entries_visit (q : Query) :
    q.visit.entries = q.constituents.filterMap (·.asEntry) := by
  match q with
  | .mk ctes body rest =>
    simp [Query.visit, Query.constituents, Visit.entries, Constituent.asEntry,
      entriesOfVisits_visitCtes ctes, Body.entriesOfVisits_visits body,
      entriesOfVisits_visitParts rest]

/-- A common table expression is no entry of its own. Its query is, and its name is known from the
query around it. -/
theorem entriesOfVisits_visitCtes (ctes : List Cte) :
    entriesOfVisits (visitCtes ctes) = (constituentsOfCtes ctes).filterMap (·.asEntry) := by
  match ctes with
  | [] => rfl
  | .mk name q :: rest =>
    simp [visitCtes, constituentsOfCtes, entriesOfVisits, Constituent.asEntry,
      Query.entries_visit q, entriesOfVisits_visitCtes rest]

/-- A body is no entry of its own; what it is made of is entered in the query around it. Of a body
that is all rows of a table nothing is entered here, as the query has been entered with the table.
-/
theorem Body.entriesOfVisits_visits (b : Body) :
    entriesOfVisits b.visits = b.constituents.filterMap (·.asEntry) := by
  match b with
  | .select into parts =>
    simp [Body.visits, Body.constituents, Constituent.asEntry, entriesOfVisits_visitParts parts]
  | .nested q =>
    simp [Body.visits, Body.constituents, entriesOfVisits, Constituent.asEntry,
      Query.entries_visit q]
  | .setOperation op left right =>
    simp [Body.visits, Body.constituents, Constituent.asEntry,
      Body.entriesOfVisits_visits left, Body.entriesOfVisits_visits right]
  | .values parts =>
    simp [Body.visits, Body.constituents, Constituent.asEntry, entriesOfVisits_visitParts parts]
  | .table name schema => rfl
  | .write s =>
    simp [Body.visits, Body.constituents, entriesOfVisits, Constituent.asEntry,
      Statement.entries_visit s]

/-- An item of FROM is entered, and behind a table its name as a relation, before its arguments and
the rest of it. -/
theorem TableFactor.entries_visit (f : TableFactor) :
    f.visit.entries = f.constituents.filterMap (·.asEntry) := by
  match f with
  | .table name aliasName none rest =>
    simp [TableFactor.visit, TableFactor.constituents, Visit.entries, entriesOfVisits,
      Constituent.asEntry, TableFactor.entry, entriesOfVisits_visitParts rest]
  -- the arguments of a call are entered before what stands behind it
  | .table name aliasName (some args) rest =>
    simp [TableFactor.visit, TableFactor.constituents, Visit.entries, entriesOfVisits,
      Constituent.asEntry, TableFactor.entry, entriesOfVisits_visitParts args,
      entriesOfVisits_visitParts rest]
  | .derived aliasName q rest =>
    simp [TableFactor.visit, TableFactor.constituents, Visit.entries, entriesOfVisits,
      Constituent.asEntry, TableFactor.entry, Query.entries_visit q,
      entriesOfVisits_visitParts rest]
  | .compound parts =>
    simp [TableFactor.visit, TableFactor.constituents, Visit.entries, Constituent.asEntry,
      TableFactor.entry, entriesOfVisits_visitParts parts]

/-- Parts of clauses are entered one after the other; a named relation is an entry with nothing
inside. -/
theorem entriesOfVisits_visitParts (parts : List Part) :
    entriesOfVisits (visitParts parts) = (constituentsOfParts parts).filterMap (·.asEntry) := by
  match parts with
  | [] => rfl
  | .statement s :: rest =>
    simp [visitParts, constituentsOfParts, entriesOfVisits, Statement.entries_visit s,
      entriesOfVisits_visitParts rest]
  | .query q :: rest =>
    simp [visitParts, constituentsOfParts, entriesOfVisits, Query.entries_visit q,
      entriesOfVisits_visitParts rest]
  | .factor f :: rest =>
    simp [visitParts, constituentsOfParts, entriesOfVisits, TableFactor.entries_visit f,
      entriesOfVisits_visitParts rest]
  | .relation name :: rest =>
    simp [visitParts, constituentsOfParts, entriesOfVisits, Visit.entries, Constituent.asEntry,
      entriesOfVisits_visitParts rest]

end

/-- **Nothing is passed over.** A visit of a script enters exactly its statements, queries, items
of FROM and named relations, at any depth, each once and in reading order. The constituents are
read off the syntax alone, so this says where a visit has to go without following it. -/
theorem entriesOfVisits_visits (script : List Statement) :
    entriesOfVisits (visits script) = (constituents script).filterMap (·.asEntry) := by
  induction script with
  | nil => rfl
  | cons s script ih =>
    rw [visits, List.map_cons, entriesOfVisits, constituents, List.flatMap_cons,
      List.filterMap_append, Statement.entries_visit]
    rw [visits, constituents] at ih
    rw [ih]

-- ---------------------------------------------------------------------------
-- The kinds of what is entered
-- ---------------------------------------------------------------------------

/-- The kinds of queries. -/
def queryKinds : List NodeKind :=
  [.select, .union, .intersect, .except, .values, .query]

/-- The kinds of statements. -/
def statementKinds : List NodeKind :=
  [.create, .alter, .update, .insert, .delete, .drop, .merge, .grant, .set, .revoke, .truncate,
   .copy, .explain, .showing, .transaction, .command]

/-- Whatever word a statement opens with, it is of a kind of statements. A word that is not known
stands for a command. -/
theorem kindOfWord_mem_statementKinds (word : String) : kindOfWord word ∈ statementKinds := by
  unfold kindOfWord
  split <;> decide

/-- Every form of statement has a kind of statements, be it by its form or by the words it opens
with. None of them is that of a table or a common table expression. -/
theorem StatementForm.kind_mem_statementKinds (form : StatementForm) :
    form.kind ∈ statementKinds := by
  cases form with
  | other opening => exact kindOfWord_mem_statementKinds _
  | _ => simp [StatementForm.kind, statementKinds]

mutual

/-- The kind of a query is that of a query, however many parentheses stand around its body. -/
theorem Query.kind_mem_queryKinds (q : Query) : q.kind ∈ queryKinds := by
  match q with
  | .mk ctes body rest =>
    rw [Query.kind]
    exact Body.kind_mem_queryKinds body

/-- The kind of a body is that of a query: the recursion goes through parentheses only, and every
other body has a kind at once. -/
theorem Body.kind_mem_queryKinds (b : Body) : b.kind ∈ queryKinds := by
  match b with
  | .select _ _ => simp [Body.kind, queryKinds]
  | .nested q =>
    rw [Body.kind]
    exact Query.kind_mem_queryKinds q
  | .setOperation op _ _ => cases op <;> simp [Body.kind, SetOperator.kind, queryKinds]
  | .values _ => simp [Body.kind, queryKinds]
  | .table _ _ => simp [Body.kind, queryKinds]
  | .write _ => simp [Body.kind, queryKinds]

end

/-- The queries that a visit of a script enters are queries of the script, so their kinds are those
of queries. (An entry could hold any kind; only those of scripts are known to be such.) -/
theorem kind_mem_queryKinds_of_entered {p : Place} {script : List Statement} {x : Place × Entry}
    (hx : x ∈ enteredAll p (visits script)) {ctes : List String} {kind : NodeKind}
    {table : Option (String × Option String)} (hEntry : x.2 = .query ctes kind table) :
    kind ∈ queryKinds := by
  have hMem : x.2 ∈ entriesOfVisits (visits script) := by
    rw [← map_snd_enteredAll p]
    exact List.mem_map_of_mem hx
  rw [hEntry, entriesOfVisits_visits] at hMem
  obtain ⟨c, -, hc⟩ := List.mem_filterMap.mp hMem
  -- no constituent but a query is entered as one
  match c with
  | .query (.mk cs body rest) =>
    have hKind : (Query.mk cs body rest).kind = kind := by
      injection hc with hc
      injection hc
    rw [← hKind]
    exact Query.kind_mem_queryKinds _
  | .statement (.query _) => cases hc
  | .statement (.plain _ _) => cases hc
  | .factor (.table _ _ _ _) => cases hc
  | .factor (.derived _ _ _) => cases hc
  | .factor (.compound _) => cases hc
  | .relation _ => cases hc

end QueryGuard.Sql
