import Mathlib.Data.List.Basic
import QueryGuard.Proofs.Refinement
import QueryGuard.Proofs.Stages

/-!
# References — neither lost nor counted twice

A table may be announced more than once: a named table in FROM is entered, and so is its name as a
relation inside it. Whether a relation counts is decided by the innermost statement or item of FROM
around it alone, however deep that stands in others.

What a script refers to is said here by its syntax. `placed` lists the constituents of a script,
each with the innermost statement or item of FROM around it, and `Constituent.reference` says by the
form of the constituent whether it is a reference and to which table; neither knows of visits, of
entries or of the kinds of statements. The theorem says that the table nodes of the tree are these
references, one node each, in the order of reading, which is that of entering.

Main results:

* `map_snd_placed` — the constituents with what is around them are the constituents.
* `referencesFrom_visits` — entering a script meets its references and no others.
* `flatMap_tableName_chain` — the table nodes of one entry.
* `tableNames_ofScript` — the table nodes of a script's tree.
* `tableNames_exact` — all of these, and the tables that a check extracts from a text.
-/

namespace QueryGuard

namespace Sql

open QueryGuard.Tree (lastPart)

-- ---------------------------------------------------------------------------
-- Constituents and what is around them
-- ---------------------------------------------------------------------------

mutual

/-- A statement and all that it is made of, in reading order, each with the innermost statement or
item of FROM around it. `around` is what is around the statement itself. -/
def Statement.placed (around : Option Constituent) :
    Statement → List (Option Constituent × Constituent)
  | .query q => (around, .statement (.query q)) :: q.placed (some (.statement (.query q)))
  | .plain form parts =>
    (around, .statement (.plain form parts)) ::
      placedParts (some (.statement (.plain form parts))) parts

/-- A query and all that it is made of. A query is neither a statement nor an item of FROM, so what
is around it is around its parts too. -/
def Query.placed (around : Option Constituent) :
    Query → List (Option Constituent × Constituent)
  | .mk ctes body rest =>
    (around, .query (.mk ctes body rest)) ::
      (placedCtes around ctes ++ body.placed around ++ placedParts around rest)

/-- Common table expressions and all that they are made of. -/
def placedCtes (around : Option Constituent) :
    List Cte → List (Option Constituent × Constituent)
  | [] => []
  | .mk name q :: rest => (around, .cte (.mk name q)) :: (q.placed around ++ placedCtes around rest)

/-- A body and all that it is made of. -/
def Body.placed (around : Option Constituent) : Body → List (Option Constituent × Constituent)
  | .select into parts => (around, .body (.select into parts)) :: placedParts around parts
  | .nested q => (around, .body (.nested q)) :: q.placed around
  | .setOperation op left right =>
    (around, .body (.setOperation op left right)) :: (left.placed around ++ right.placed around)
  | .values parts => (around, .body (.values parts)) :: placedParts around parts
  | .table name schema => [(around, .body (.table name schema))]
  | .write s => (around, .body (.write s)) :: s.placed around

/-- An item of FROM and all that it is made of. -/
def TableFactor.placed (around : Option Constituent) :
    TableFactor → List (Option Constituent × Constituent)
  | .table name aliasName none rest =>
    (around, .factor (.table name aliasName none rest)) ::
      (some (.factor (.table name aliasName none rest)), .relation name) ::
        placedParts (some (.factor (.table name aliasName none rest))) rest
  | .table name aliasName (some args) rest =>
    (around, .factor (.table name aliasName (some args) rest)) ::
      (some (.factor (.table name aliasName (some args) rest)), .relation name) ::
        (placedParts (some (.factor (.table name aliasName (some args) rest))) args ++
          placedParts (some (.factor (.table name aliasName (some args) rest))) rest)
  | .derived aliasName q rest =>
    (around, .factor (.derived aliasName q rest)) ::
      (q.placed (some (.factor (.derived aliasName q rest))) ++
        placedParts (some (.factor (.derived aliasName q rest))) rest)
  | .compound parts =>
    (around, .factor (.compound parts)) :: placedParts (some (.factor (.compound parts))) parts

/-- Parts of clauses and all that they are made of. -/
def placedParts (around : Option Constituent) :
    List Part → List (Option Constituent × Constituent)
  | [] => []
  | .statement s :: rest => s.placed around ++ placedParts around rest
  | .query q :: rest => q.placed around ++ placedParts around rest
  | .factor f :: rest => f.placed around ++ placedParts around rest
  | .relation name :: rest => (around, .relation name) :: placedParts around rest

end

/-- The constituents of a script, each with the innermost statement or item of FROM around it. -/
def placed (script : List Statement) : List (Option Constituent × Constituent) :=
  script.flatMap (·.placed none)

mutual

/-- What is around a constituent is only noted beside it: without the notes these are the
constituents of a statement, in order. The lemmas of this group are proved together, one case for
each form of syntax. -/
theorem Statement.map_snd_placed (around : Option Constituent) (s : Statement) :
    (s.placed around).map (·.2) = s.constituents := by
  match s with
  | .query q => simp [Statement.placed, Statement.constituents, Query.map_snd_placed _ q]
  | .plain form parts =>
    simp [Statement.placed, Statement.constituents, map_snd_placedParts _ parts]

/-- A query notes itself as what is around its parts; without the notes its constituents are left,
itself first. -/
theorem Query.map_snd_placed (around : Option Constituent) (q : Query) :
    (q.placed around).map (·.2) = q.constituents := by
  match q with
  | .mk ctes body rest =>
    simp [Query.placed, Query.constituents, map_snd_placedCtes _ ctes, Body.map_snd_placed _ body,
      map_snd_placedParts _ rest]

theorem map_snd_placedCtes (around : Option Constituent) (ctes : List Cte) :
    (placedCtes around ctes).map (·.2) = constituentsOfCtes ctes := by
  match ctes with
  | [] => rfl
  | .mk name q :: rest =>
    simp [placedCtes, constituentsOfCtes, Query.map_snd_placed _ q, map_snd_placedCtes _ rest]

theorem Body.map_snd_placed (around : Option Constituent) (b : Body) :
    (b.placed around).map (·.2) = b.constituents := by
  match b with
  | .select into parts => simp [Body.placed, Body.constituents, map_snd_placedParts _ parts]
  | .nested q => simp [Body.placed, Body.constituents, Query.map_snd_placed _ q]
  | .setOperation op left right =>
    simp [Body.placed, Body.constituents, Body.map_snd_placed _ left, Body.map_snd_placed _ right]
  | .values parts => simp [Body.placed, Body.constituents, map_snd_placedParts _ parts]
  | .table name schema => rfl
  | .write s => simp [Body.placed, Body.constituents, Statement.map_snd_placed _ s]

/-- An item of FROM is itself around what is in it, its name included. This is how the name of a
called function is told from that of a table. -/
theorem TableFactor.map_snd_placed (around : Option Constituent) (f : TableFactor) :
    (f.placed around).map (·.2) = f.constituents := by
  match f with
  | .table name aliasName none rest =>
    simp [TableFactor.placed, TableFactor.constituents, map_snd_placedParts _ rest]
  | .table name aliasName (some args) rest =>
    simp [TableFactor.placed, TableFactor.constituents, map_snd_placedParts _ args,
      map_snd_placedParts _ rest]
  | .derived aliasName q rest =>
    simp [TableFactor.placed, TableFactor.constituents, Query.map_snd_placed _ q,
      map_snd_placedParts _ rest]
  | .compound parts =>
    simp [TableFactor.placed, TableFactor.constituents, map_snd_placedParts _ parts]

theorem map_snd_placedParts (around : Option Constituent) (parts : List Part) :
    (placedParts around parts).map (·.2) = constituentsOfParts parts := by
  match parts with
  | [] => rfl
  | .statement s :: rest =>
    simp [placedParts, constituentsOfParts, Statement.map_snd_placed _ s,
      map_snd_placedParts _ rest]
  | .query q :: rest =>
    simp [placedParts, constituentsOfParts, Query.map_snd_placed _ q, map_snd_placedParts _ rest]
  | .factor f :: rest =>
    simp [placedParts, constituentsOfParts, TableFactor.map_snd_placed _ f,
      map_snd_placedParts _ rest]
  | .relation name :: rest =>
    simp [placedParts, constituentsOfParts, map_snd_placedParts _ rest]

end

/-- What is around them apart, these are the constituents of the script, each once and in order. So
no reference is read from anything but a constituent, and none is passed over. -/
theorem map_snd_placed (script : List Statement) :
    (placed script).map (·.2) = constituents script := by
  rw [placed, constituents, List.map_flatMap]
  exact List.flatMap_congr fun s _ => s.map_snd_placed none

-- ---------------------------------------------------------------------------
-- References by syntax
-- ---------------------------------------------------------------------------

/-- Whether a text opens with the word SHOW, in letters of either case, behind blanks. -/
def opensWithShow (text : String) : Bool :=
  ((text.toList.dropWhile Text.isBlank).takeWhile isWordChar).map Char.toUpper =
    ['S', 'H', 'O', 'W']

/-- Whether the relations named in something, with no other statement or item of FROM between, are
no references: the name of a table is one already in the item of FROM, and a listing names schemas,
unless it is one of columns. -/
def Constituent.hidesRelations : Constituent → Bool
  | .factor (.table _ _ _ _) => true
  | .statement (.plain .showOther _) => true
  | .statement (.plain (.other text) _) => opensWithShow text
  | _ => false

/-- The table that a constituent refers to: a named table in FROM that is no call; a relation,
unless what is around hides it; the table that a COPY takes its rows from; and the table a query is
all rows of. -/
def Constituent.reference (around : Option Constituent) : Constituent → Option String
  | .factor (.table name _ none _) => some (lastPart name)
  | .relation name => if around.any (·.hidesRelations) then none else some (lastPart name)
  | .statement (.plain (.copy (some source)) _) => some (lastPart source)
  | .query (.mk _ (.table (some name) _) _) => some name
  | _ => none

/-- The tables that constituents refer to, each with what is around it, in order. -/
def referencesIn (cs : List (Option Constituent × Constituent)) : List String :=
  cs.filterMap fun x => x.2.reference x.1

/-- The tables that a script refers to, in reading order. -/
def references (script : List Statement) : List String :=
  referencesIn (placed script)

-- ---------------------------------------------------------------------------
-- References by what is entered
-- ---------------------------------------------------------------------------

/-- The table that something refers to by being entered. `hidden` says that the innermost statement
or item of FROM entered around it leaves the names of relations out. -/
def Entry.reference (hidden : Bool) : Entry → Option String
  | .statement form => (Tree.copySource? form).map lastPart
  | .query _ _ whole => whole.map (·.1)
  | .table name _ called => if called then none else some (lastPart name)
  | .derived _ => none
  | .compound => none
  | .relation name => if hidden then none else some (lastPart name)

/-- The tables that are referred to by what visits enter, the first of which stands at a place, in
the order of entering. -/
def referencesFrom (p : Place) (vs : List Visit) : List String :=
  (enteredAll p vs).filterMap fun x => x.2.reference x.1.owned

/-- Visits one after the other: the second ones stand behind the first. -/
theorem enteredAll_append (p : Place) (vs ws : List Visit) :
    enteredAll p (vs ++ ws) = enteredAll p vs ++ enteredAll (p.afterAll vs) ws := by
  induction vs generalizing p with
  | nil => rfl
  | cons v vs ih =>
    rw [List.cons_append, enteredAll, enteredAll, ih, Place.afterAll_cons, List.append_assoc]

/-- No word but SHOW stands for a listing. -/
theorem kindOfWord_eq_showing {word : String} : kindOfWord word = .showing ↔ word = "SHOW" := by
  constructor
  · intro h
    unfold kindOfWord at h
    split at h <;> first | rfl | cases h
  · rintro rfl
    rfl

/-- A statement leaves the names of relations out exactly if its syntax says so. The one side goes
by the kind that a statement is given, the other by what is written: a listing, or a text that
opens with SHOW. -/
theorem ownsRelations_statement (s : Statement) :
    s.entry.ownsRelations = (Constituent.statement s).hidesRelations := by
  match s with
  | .query q => rfl
  | .plain form parts =>
    cases form with
    | other text =>
      -- the kind of any other statement is that of its opening word
      have hText : (kindOfOpening text = .showing) ↔ opensWithShow text = true := by
        rw [kindOfOpening, kindOfWord_eq_showing, opensWithShow, decide_eq_true_eq, ← openingWord,
          ← String.toList_inj, String.toList_ofList]
        rfl
      show (decide (kindOfOpening text = .showing) && StatementForm.other text != .showColumns) =
        opensWithShow text
      rw [Bool.eq_iff_iff]
      simp [hText]
    | _ => rfl

/-- So does an item of FROM: it does if it names a table, whether or not that is a call. -/
theorem ownsRelations_factor (f : TableFactor) :
    f.entry.ownsRelations = (Constituent.factor f).hidesRelations := by
  cases f with
  | table name aliasName args rest => rfl
  | derived aliasName q rest => rfl
  | compound parts => rfl

-- ---------------------------------------------------------------------------
-- Entering a script
-- ---------------------------------------------------------------------------

/-- One visit: the reference of its entry, and those of what is entered inside. -/
theorem referencesFrom_singleton (p : Place) (entry : Entry) (inside : List Visit) :
    referencesFrom p [.mk entry inside] =
      (entry.reference p.owned).toList ++ referencesFrom (p.within entry) inside := by
  rw [referencesFrom, enteredAll, enteredAll, List.append_nil, Visit.entered, List.filterMap_cons,
    referencesFrom]
  cases entry.reference p.owned with
  | none => rfl
  | some table => rfl

theorem referencesFrom_append (p : Place) (vs ws : List Visit) :
    referencesFrom p (vs ++ ws) = referencesFrom p vs ++ referencesFrom (p.afterAll vs) ws := by
  rw [referencesFrom, enteredAll_append, List.filterMap_append, referencesFrom, referencesFrom]

/-- The first visit may be taken apart from the others. -/
theorem referencesFrom_cons (p : Place) (v : Visit) (vs : List Visit) :
    referencesFrom p (v :: vs) = referencesFrom p [v] ++ referencesFrom (p.afterAll [v]) vs :=
  referencesFrom_append p [v] vs

/-- A constituent comes with its own reference, if it is one, before those of the others. -/
@[simp] theorem referencesIn_cons (around : Option Constituent) (c : Constituent)
    (cs : List (Option Constituent × Constituent)) :
    referencesIn ((around, c) :: cs) = (c.reference around).toList ++ referencesIn cs := by
  rw [referencesIn, List.filterMap_cons, referencesIn]
  cases c.reference around with
  | none => rfl
  | some table => rfl

@[simp] theorem referencesIn_append (cs ds : List (Option Constituent × Constituent)) :
    referencesIn (cs ++ ds) = referencesIn cs ++ referencesIn ds :=
  List.filterMap_append

/-- A place that is around what a constituent is made of hides relations exactly if the innermost
statement or item of FROM does. -/
def Place.Fits (p : Place) (around : Option Constituent) : Prop :=
  p.owned = around.any (·.hidesRelations)

/-- What has been visited before does not matter for what is around. -/
theorem Place.Fits.afterAll {p : Place} {around : Option Constituent} (h : p.Fits around)
    (vs : List Visit) : (p.afterAll vs).Fits around := h

/-- Inside a statement nothing further out matters. -/
theorem Place.Fits.statement (p : Place) (s : Statement) :
    (p.within s.entry).Fits (some (.statement s)) := by
  rw [Place.Fits, Option.any_some, ← ownsRelations_statement]
  cases s with
  | query q => rfl
  | plain form parts => rfl

theorem Place.Fits.factor (p : Place) (f : TableFactor) :
    (p.within f.entry).Fits (some (.factor f)) := by
  rw [Place.Fits, Option.any_some, ← ownsRelations_factor]
  cases f with
  | table name aliasName args rest => rfl
  | derived aliasName q rest => rfl
  | compound parts => rfl

/-- A named relation is a reference by being entered where it is one by its syntax. -/
theorem referencesFrom_relation {p : Place} {around : Option Constituent} (h : p.Fits around)
    (name : ObjectName) :
    referencesFrom p [.mk (.relation name) []] = referencesIn [(around, .relation name)] := by
  rw [referencesFrom_singleton, referencesIn_cons, Entry.reference, Constituent.reference, h]
  rfl

mutual

/-- What entering a statement refers to is what it refers to by its syntax, wherever it stands, as
it is itself around what is in it. The lemmas of this group are proved together, one case for each
form of syntax; a place need only fit what is around. -/
theorem Statement.referencesFrom_visit (p : Place) (around : Option Constituent)
    (s : Statement) :
    referencesFrom p [s.visit] = referencesIn (s.placed around) := by
  match s with
  | .query q =>
    have hInside : (p.within (.statement none)).Fits (some (.statement (.query q))) :=
      Place.Fits.statement p (.query q)
    rw [Statement.visit, referencesFrom_singleton, Query.referencesFrom_visit hInside,
      Statement.placed, referencesIn_cons]
    rfl
  | .plain form parts =>
    have hInside : (p.within (.statement (some form))).Fits
        (some (.statement (.plain form parts))) :=
      Place.Fits.statement p (.plain form parts)
    rw [Statement.visit, referencesFrom_singleton, referencesFrom_visitParts hInside,
      Statement.placed, referencesIn_cons]
    -- only a copy refers to a table by itself
    cases form with
    | copy source => cases source <;> rfl
    | _ => rfl

/-- A query refers to the table it is all rows of, and then to what is in it. It is not around
anything, so its place has to fit what is around it. -/
theorem Query.referencesFrom_visit {p : Place} {around : Option Constituent}
    (h : p.Fits around) (q : Query) :
    referencesFrom p [q.visit] = referencesIn (q.placed around) := by
  match q with
  | .mk ctes body rest =>
    -- entering a query changes nothing about what is around
    have hInside : (p.within (Query.mk ctes body rest).entry).Fits around := h
    -- the body decides whether the query is all rows of a table
    have hOwn : (Query.mk ctes body rest).entry.reference p.owned =
        (Constituent.query (.mk ctes body rest)).reference around := by
      cases body with
      | table name schema => cases name <;> rfl
      | _ => rfl
    rw [Query.visit, referencesFrom_singleton, Query.placed, referencesIn_cons, hOwn,
      referencesFrom_append, referencesFrom_append, referencesIn_append, referencesIn_append]
    rw [referencesFrom_visitCtes hInside ctes, Body.referencesFrom_visits (hInside.afterAll _) body,
      referencesFrom_visitParts (hInside.afterAll _) rest]

/-- A common table expression refers to what its query does. Its own name is no reference: it is
given to the node around the query. -/
theorem referencesFrom_visitCtes {p : Place} {around : Option Constituent}
    (h : p.Fits around) (ctes : List Cte) :
    referencesFrom p (visitCtes ctes) = referencesIn (placedCtes around ctes) := by
  match ctes with
  | [] => rfl
  | .mk name q :: rest =>
    rw [visitCtes, referencesFrom_cons, Query.referencesFrom_visit h,
      referencesFrom_visitCtes (h.afterAll _) rest, placedCtes, referencesIn_cons,
      referencesIn_append]
    rfl

/-- A body refers to what is in it. That it is all rows of a table has been counted with its query,
which is why nothing is counted here for it. -/
theorem Body.referencesFrom_visits {p : Place} {around : Option Constituent}
    (h : p.Fits around) (b : Body) :
    referencesFrom p b.visits = referencesIn (b.placed around) := by
  match b with
  | .select into parts =>
    rw [Body.visits, referencesFrom_visitParts h, Body.placed, referencesIn_cons]
    rfl
  | .nested q =>
    rw [Body.visits, Query.referencesFrom_visit h, Body.placed, referencesIn_cons]
    rfl
  | .setOperation op left right =>
    rw [Body.visits, referencesFrom_append, Body.referencesFrom_visits h left,
      Body.referencesFrom_visits (h.afterAll _) right, Body.placed, referencesIn_cons,
      referencesIn_append]
    rfl
  | .values parts =>
    rw [Body.visits, referencesFrom_visitParts h, Body.placed, referencesIn_cons]
    rfl
  | .table name schema => rfl
  | .write s =>
    rw [Body.visits, Statement.referencesFrom_visit p around, Body.placed, referencesIn_cons]
    rfl

/-- An item of FROM refers to a table unless it is a call, and hides the relation that repeats the
name. -/
theorem TableFactor.referencesFrom_visit (p : Place) (around : Option Constituent)
    (f : TableFactor) :
    referencesFrom p [f.visit] = referencesIn (f.placed around) := by
  match f with
  | .table name aliasName none rest =>
    -- inside the item, the item is what is around
    have hInside : (p.within (.table name aliasName false)).Fits
        (some (.factor (.table name aliasName none rest))) :=
      Place.Fits.factor p (.table name aliasName none rest)
    rw [TableFactor.visit, referencesFrom_singleton, referencesFrom_cons,
      referencesFrom_relation hInside, referencesFrom_visitParts (hInside.afterAll _)]
    rfl
  | .table name aliasName (some args) rest =>
    have hInside : (p.within (.table name aliasName true)).Fits
        (some (.factor (.table name aliasName (some args) rest))) :=
      Place.Fits.factor p (.table name aliasName (some args) rest)
    rw [TableFactor.visit, referencesFrom_singleton, referencesFrom_cons, referencesFrom_append,
      referencesFrom_relation hInside, referencesFrom_visitParts (hInside.afterAll _),
      referencesFrom_visitParts ((hInside.afterAll _).afterAll _), TableFactor.placed,
      ← referencesIn_append, ← referencesIn_append]
    rfl
  | .derived aliasName q rest =>
    have hInside : (p.within (.derived aliasName)).Fits
        (some (.factor (.derived aliasName q rest))) :=
      Place.Fits.factor p (.derived aliasName q rest)
    rw [TableFactor.visit, referencesFrom_singleton, referencesFrom_cons,
      Query.referencesFrom_visit hInside, referencesFrom_visitParts (hInside.afterAll _),
      TableFactor.placed, referencesIn_cons, referencesIn_append]
    rfl
  | .compound parts =>
    have hInside : (p.within .compound).Fits (some (.factor (.compound parts))) :=
      Place.Fits.factor p (.compound parts)
    rw [TableFactor.visit, referencesFrom_singleton, referencesFrom_visitParts hInside,
      TableFactor.placed, referencesIn_cons]
    rfl

/-- The parts of a clause refer to what they do one after the other. Statements and items of FROM
bring their own surroundings; queries and relations stand in those of the clause. -/
theorem referencesFrom_visitParts {p : Place} {around : Option Constituent}
    (h : p.Fits around) (parts : List Part) :
    referencesFrom p (visitParts parts) = referencesIn (placedParts around parts) := by
  match parts with
  | [] => rfl
  | .statement s :: rest =>
    rw [visitParts, referencesFrom_cons, Statement.referencesFrom_visit p around,
      referencesFrom_visitParts (h.afterAll _) rest, placedParts, referencesIn_append]
  | .query q :: rest =>
    rw [visitParts, referencesFrom_cons, Query.referencesFrom_visit h,
      referencesFrom_visitParts (h.afterAll _) rest, placedParts, referencesIn_append]
  | .factor f :: rest =>
    rw [visitParts, referencesFrom_cons, TableFactor.referencesFrom_visit p around,
      referencesFrom_visitParts (h.afterAll _) rest, placedParts, referencesIn_append]
  | .relation name :: rest =>
    rw [visitParts, referencesFrom_cons, referencesFrom_relation h,
      referencesFrom_visitParts (h.afterAll _) rest, placedParts, ← referencesIn_append]
    rfl

end

/-- **What is entered is what is written.** Entering a script meets its references and no others,
each once and in reading order. The one side follows the visit, the other the syntax; only here do
the two meet. -/
theorem referencesFrom_visits (script : List Statement) :
    referencesFrom .outermost (visits script) = references script := by
  have hFrom : ∀ p : Place, p.Fits none →
      referencesFrom p (visits script) = references script := by
    induction script with
    | nil => intro p _; rfl
    | cons s script ih =>
      intro p hp
      rw [visits] at ih
      rw [visits, List.map_cons, referencesFrom_cons, Statement.referencesFrom_visit p none,
        ih _ (hp.afterAll _), references, references, placed, placed, List.flatMap_cons,
        referencesIn_append]
  exact hFrom .outermost rfl

end Sql

namespace Tree

open Sql

-- ---------------------------------------------------------------------------
-- Table nodes
-- ---------------------------------------------------------------------------

/-- The names of the table nodes of a tree along its walk; none for a node without a name. -/
def Node.tableNames (n : Node) : List (Option String) :=
  (n.walk.filter (·.kind = .table)).map (·.name?)

/-- The name of a label, if it is that of a table node. -/
def Label.tableName (l : Label) : List (Option String) :=
  if l.kind = .table then [l.texts.lookup Slot.this] else []

theorem tableName_of_ne {l : Label} (hKind : l.kind ≠ .table) : l.tableName = [] :=
  if_neg hKind

/-- The label of a table has the last part of its name. -/
theorem tableName_tableLabel (name : ObjectName) :
    (tableLabel name).tableName = [some (lastPart name)] := by
  simp [Label.tableName, tableLabel]

/-- **The table nodes of an entry.** There is one if the entry refers to a table, with the name of
that table, and none otherwise. An item that is called opens a node of another kind, and so refers
to nothing. -/
theorem flatMap_tableName_chain (p : Place) {entry : Entry}
    (hQuery : ∀ ctes kind table, entry = .query ctes kind table → kind ∈ queryKinds) :
    (chain p entry).flatMap (·.tableName) = ((entry.reference p.owned).map some).toList := by
  match entry with
  | .statement none => rfl
  -- of a statement only the source of a copy is a table
  | .statement (some form) =>
    have hKind : form.kind ≠ .table := fun h =>
      absurd (h ▸ form.kind_mem_statementKinds) (by decide)
    have hForm : Label.tableName ⟨form.kind, []⟩ = [] := tableName_of_ne hKind
    rw [chain, Entry.reference, List.flatMap_append]
    cases copySource? (some form) with
    | none => simp [hForm]
    | some name => simp [hForm, tableName_tableLabel]
  -- of a query neither its own node nor the one around it is, but the table it is all rows of
  | .query ctes kind table =>
    have hKind : kind ≠ .table := fun h =>
      absurd (h ▸ hQuery ctes kind table rfl) (by decide)
    have hOwn : Label.tableName ⟨kind, []⟩ = [] := tableName_of_ne hKind
    have hCte : (p.cteName?.toList.map fun name =>
        (⟨.cte, [(Slot.aliasName, name)]⟩ : Label)).flatMap (·.tableName) = [] := by
      rw [List.flatMap_eq_nil_iff]
      intro l hl
      obtain ⟨name, -, rfl⟩ := List.mem_map.mp hl
      rfl
    rw [chain, Entry.reference, List.flatMap_append, List.flatMap_append, hCte]
    cases table with
    | none => simp [hOwn]
    | some t => simp [hKind, Label.tableName]
  | .table name aliasName called =>
    cases called with
    | true => rfl
    | false => simp [chain, Entry.reference, Label.withAlias, Label.tableName, tableLabel]
  | .derived aliasName => rfl
  | .compound => rfl
  | .relation name =>
    rw [chain, Entry.reference]
    split
    · rfl
    · simp [tableName_tableLabel]

/-- **The table nodes of a script.** One for each reference, in order and with its name. Every
table node has one, hence the `some`. -/
theorem tableNames_ofScript (script : List Statement) :
    (ofScript script).tableNames = (references script).map some := by
  -- what is read off a node depends on its label only
  have hRead : ∀ (l : Label) (cs : List Node),
      (if (l.node cs).kind = .table then [(l.node cs).name?] else []) = l.tableName := by
    intro l cs
    rw [Label.kind_node, Node.name?, Label.value?_node (by decide)]
    rfl
  -- names of table nodes are gathered node by node
  have hSplit : ∀ ns : List Node, (ns.filter (·.kind = .table)).map (·.name?) =
      ns.flatMap fun n => if n.kind = .table then [n.name?] else [] := by
    intro ns
    induction ns with
    | nil => rfl
    | cons n ns ih =>
      rw [List.flatMap_cons, ← ih]
      by_cases hKind : n.kind = .table
      · simp [hKind]
      · simp [hKind]
  -- and the nodes of each entry name the table it refers to, if it does
  have hChain : ∀ x ∈ enteredAll .outermost (visits script),
      (chain x.1 x.2).flatMap (·.tableName) = ((x.2.reference x.1.owned).map some).toList := by
    intro x hx
    exact flatMap_tableName_chain x.1 fun ctes kind table hEntry =>
      kind_mem_queryKinds_of_entered hx hEntry
  have hRoot : Label.tableName ⟨.script, []⟩ = [] := rfl
  rw [Node.tableNames, hSplit, ofScript_eq_lowered, flatMap_walk_lowered _ _ hRead, hRoot,
    List.nil_append, List.flatMap_congr hChain, ← List.filterMap_eq_flatMap_toList,
    ← referencesFrom_visits, referencesFrom, List.map_filterMap]

-- ---------------------------------------------------------------------------
-- Base tables
-- ---------------------------------------------------------------------------

/-- The aliases of a tree are those of its nodes of common table expressions. -/
theorem mem_cteNames {n : Node} {name : String} :
    name ∈ n.cteNames ↔ ∃ m ∈ n.walk, m.kind = .cte ∧ m.aliasName? = some name := by
  simp [Node.cteNames, and_assoc]

/-- The base tables of a tree are the names of its table nodes that are no aliases. -/
theorem mem_baseTables {n : Node} {name : String} :
    name ∈ n.baseTables ↔ some name ∈ n.tableNames ∧ name ∉ n.cteNames := by
  simp [Node.baseTables, Node.tables, Node.tableNames]

/-- **References are neither lost nor counted twice.** The references of a script are read off its
constituents, by their form and the innermost statement or item of FROM around them; they are those
that entering it meets. The table nodes of the tree are these references, one node each and in
order. And whenever tables are extracted from a text, they are the references of the script it is
read as, without the aliases of the tree's common table expressions. -/
theorem tableNames_exact :
    (∀ script, (placed script).map (·.2) = constituents script ∧
      referencesFrom .outermost (visits script) = references script ∧
      (ofScript script).tableNames = (references script).map some) ∧
      ∀ text name tables, (Guard.extract .sql text name).result = .ok tables →
        ∃ d script, ScriptReader.dialect name = .ok d ∧ ScriptReader.script d text = .ok script ∧
          ∀ table, table ∈ tables ↔ table ∈ references script ∧
            ¬ ∃ n ∈ (ofScript script).walk, n.kind = .cte ∧ n.aliasName? = some table := by
  constructor
  · intro script
    exact ⟨map_snd_placed script, referencesFrom_visits script, tableNames_ofScript script⟩
  · -- what is extracted is read off the tree of the script that the text is read as
    intro text name tables hExtract
    obtain ⟨n, hRead, -, rfl⟩ := Guard.result_extract_eq_ok.mp hExtract
    obtain ⟨d, script, hDialect, hScript, rfl⟩ := ScriptReader.result_sql_eq_ok.mp hRead
    refine ⟨d, script, hDialect, hScript, ?_⟩
    intro table
    rw [mem_baseTables, mem_cteNames, tableNames_ofScript]
    simp

/-- A script with a reference of each sort and with names that are none: all rows of a table, a
function and a table in its argument, a table to truncate, a schema whose tables are listed, a table
whose columns are, and the source of a copy. -/
def mixedScript : String :=
  "WITH c AS (TABLE s.a) SELECT * FROM c, f((SELECT x FROM b)); TRUNCATE d; SHOW TABLES FROM e; " ++
    "SHOW COLUMNS FROM k; COPY g TO STDOUT"

/-- The references of that script, and what is extracted from it. -/
theorem tableNames_exact_mixed :
    (Guard.extract .sql mixedScript "postgres").result = .ok (.ofList ["a", "b", "d", "g", "k"]) ∧
      ∃ d script, ScriptReader.dialect "postgres" = .ok d ∧
        ScriptReader.script d mixedScript = .ok script ∧
        references script = ["a", "c", "b", "d", "k", "g"] ∧
        (ofScript script).tableNames = (references script).map some ∧
        ∀ table, table ∈ NameSet.ofList ["a", "b", "d", "g", "k"] ↔ table ∈ references script ∧
          ¬ ∃ n ∈ (ofScript script).walk, n.kind = .cte ∧ n.aliasName? = some table := by
  have hExtract : (Guard.extract .sql mixedScript "postgres").result =
      .ok (.ofList ["a", "b", "d", "g", "k"]) := by
    decide +kernel
  have hReferences : (ScriptReader.script .postgres mixedScript).map references =
      .ok ["a", "c", "b", "d", "k", "g"] := by
    decide +kernel
  obtain ⟨d, script, hDialect, hScript, hTables⟩ := tableNames_exact.2 _ _ _ hExtract
  obtain rfl : .postgres = d := Except.ok.inj hDialect
  rw [hScript] at hReferences
  exact ⟨hExtract, .postgres, script, hDialect, hScript, Except.ok.inj hReferences,
    (tableNames_exact.1 script).2.2, hTables⟩

end Tree

end QueryGuard
