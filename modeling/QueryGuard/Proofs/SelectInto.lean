import QueryGuard.Proofs.EntryPoints

/-!
# Selecting into a table — accepted as if it only read

A selection with INTO creates a table and fills it. It is no statement of its own: it is a clause of
a query, and the query is entered as what it is without the clause. So the clause leaves no trace in
the tree, wherever it stands, and a script is judged as if it had none. The script
`CREATE TABLE u AS SELECT * FROM t` is rejected for its CREATE, and `SELECT * INTO u FROM t`, which
does the same, is accepted.

Main results:

* `constituents_withoutInto` — what a script without its INTO clauses is made of: the same, without
  the clauses.
* `ofScript_withoutInto` — its tree is that of the script with them.
* `readOnly_ignores_into` — **a clause INTO never counts**: a script is rejected for a disallowed
  statement in it and for nothing else.
-/

namespace QueryGuard.Sql

-- ---------------------------------------------------------------------------
-- Scripts without their INTO clauses
-- ---------------------------------------------------------------------------

/-- The table that a constituent creates by selecting into it. -/
def Constituent.into? : Constituent → Option ObjectName
  | .body (.select into _) => into
  | _ => none

/-- The tables that are selected into anywhere in a script. -/
def intoTargets (script : List Statement) : List ObjectName :=
  (constituents script).filterMap (·.into?)

mutual

/-- A statement without its INTO clauses, at any depth. -/
def Statement.withoutInto : Statement → Statement
  | .query q => .query q.withoutInto
  | .plain form parts => .plain form (partsWithoutInto parts)

/-- A query without its INTO clauses. -/
def Query.withoutInto : Query → Query
  | .mk ctes body rest => .mk (ctesWithoutInto ctes) body.withoutInto (partsWithoutInto rest)

/-- Common table expressions without their INTO clauses. -/
def ctesWithoutInto : List Cte → List Cte
  | [] => []
  | .mk aliasName q :: rest => .mk aliasName q.withoutInto :: ctesWithoutInto rest

/-- The body of a query without its INTO clauses. -/
def Body.withoutInto : Body → Body
  | .select _ parts => .select none (partsWithoutInto parts)
  | .nested q => .nested q.withoutInto
  | .setOperation op left right => .setOperation op left.withoutInto right.withoutInto
  | .values parts => .values (partsWithoutInto parts)
  | .table name schema => .table name schema
  | .write s => .write s.withoutInto

/-- An item of FROM without its INTO clauses. -/
def TableFactor.withoutInto : TableFactor → TableFactor
  | .table name aliasName none rest => .table name aliasName none (partsWithoutInto rest)
  | .table name aliasName (some args) rest =>
    .table name aliasName (some (partsWithoutInto args)) (partsWithoutInto rest)
  | .derived aliasName q rest => .derived aliasName q.withoutInto (partsWithoutInto rest)
  | .compound parts => .compound (partsWithoutInto parts)

/-- Parts of clauses without their INTO clauses. -/
def partsWithoutInto : List Part → List Part
  | [] => []
  | .statement s :: rest => .statement s.withoutInto :: partsWithoutInto rest
  | .query q :: rest => .query q.withoutInto :: partsWithoutInto rest
  | .factor f :: rest => .factor f.withoutInto :: partsWithoutInto rest
  | .relation name :: rest => .relation name :: partsWithoutInto rest

end

/-- A script without its INTO clauses. -/
def withoutInto (script : List Statement) : List Statement :=
  script.map (·.withoutInto)

/-- A common table expression without its INTO clauses. -/
def Cte.withoutInto : Cte → Cte
  | .mk aliasName q => .mk aliasName q.withoutInto

/-- A constituent without its INTO clauses. -/
def Constituent.withoutInto : Constituent → Constituent
  | .statement s => .statement s.withoutInto
  | .query q => .query q.withoutInto
  | .cte c => .cte c.withoutInto
  | .body b => .body b.withoutInto
  | .factor f => .factor f.withoutInto
  | .relation name => .relation name

-- ---------------------------------------------------------------------------
-- The same constituents
-- ---------------------------------------------------------------------------

mutual

/-- Without its INTO clauses a statement has the same constituents, each without its own. The
lemmas of this group are proved together, one case for each form of syntax. -/
theorem Statement.constituents_withoutInto (s : Statement) :
    s.withoutInto.constituents = s.constituents.map (·.withoutInto) := by
  match s with
  | .query q =>
    simp [Statement.withoutInto, Statement.constituents, Constituent.withoutInto,
      Query.constituents_withoutInto q]
  | .plain form parts =>
    simp [Statement.withoutInto, Statement.constituents, Constituent.withoutInto,
      constituentsOfParts_withoutInto parts]

/-- A query keeps its common table expressions, its body and its other clauses. Each of these may
hold a selection, so each loses the clauses in it. -/
theorem Query.constituents_withoutInto (q : Query) :
    q.withoutInto.constituents = q.constituents.map (·.withoutInto) := by
  match q with
  | .mk ctes body rest =>
    simp [Query.withoutInto, Query.constituents, Constituent.withoutInto,
      constituentsOfCtes_withoutInto ctes, Body.constituents_withoutInto body,
      constituentsOfParts_withoutInto rest]

/-- A common table expression keeps its name. -/
theorem constituentsOfCtes_withoutInto (ctes : List Cte) :
    constituentsOfCtes (ctesWithoutInto ctes) =
      (constituentsOfCtes ctes).map (·.withoutInto) := by
  match ctes with
  | [] => rfl
  | .mk aliasName q :: rest =>
    simp [ctesWithoutInto, constituentsOfCtes, Constituent.withoutInto, Cte.withoutInto,
      Query.constituents_withoutInto q, constituentsOfCtes_withoutInto rest]

/-- Here the clause itself is taken away. It stands in a selection and is no constituent of its
own. -/
theorem Body.constituents_withoutInto (b : Body) :
    b.withoutInto.constituents = b.constituents.map (·.withoutInto) := by
  match b with
  -- the clause is a field of the body, so only this constituent changes
  | .select into parts =>
    simp [Body.withoutInto, Body.constituents, Constituent.withoutInto,
      constituentsOfParts_withoutInto parts]
  | .nested q =>
    simp [Body.withoutInto, Body.constituents, Constituent.withoutInto,
      Query.constituents_withoutInto q]
  | .setOperation op left right =>
    simp [Body.withoutInto, Body.constituents, Constituent.withoutInto,
      Body.constituents_withoutInto left, Body.constituents_withoutInto right]
  | .values parts =>
    simp [Body.withoutInto, Body.constituents, Constituent.withoutInto,
      constituentsOfParts_withoutInto parts]
  | .table name schema => rfl
  | .write s =>
    simp [Body.withoutInto, Body.constituents, Constituent.withoutInto,
      Statement.constituents_withoutInto s]

/-- An item of FROM keeps its name, its alias and whether it is a call. A query in it loses its
clauses like any other. -/
theorem TableFactor.constituents_withoutInto (f : TableFactor) :
    f.withoutInto.constituents = f.constituents.map (·.withoutInto) := by
  match f with
  | .table name aliasName none rest =>
    simp [TableFactor.withoutInto, TableFactor.constituents, Constituent.withoutInto,
      constituentsOfParts_withoutInto rest]
  | .table name aliasName (some args) rest =>
    simp [TableFactor.withoutInto, TableFactor.constituents, Constituent.withoutInto,
      constituentsOfParts_withoutInto args, constituentsOfParts_withoutInto rest]
  | .derived aliasName q rest =>
    simp [TableFactor.withoutInto, TableFactor.constituents, Constituent.withoutInto,
      Query.constituents_withoutInto q, constituentsOfParts_withoutInto rest]
  | .compound parts =>
    simp [TableFactor.withoutInto, TableFactor.constituents, Constituent.withoutInto,
      constituentsOfParts_withoutInto parts]

/-- The parts of clauses lose their INTO clauses one by one. Named relations have nothing to be
taken away. -/
theorem constituentsOfParts_withoutInto (parts : List Part) :
    constituentsOfParts (partsWithoutInto parts) =
      (constituentsOfParts parts).map (·.withoutInto) := by
  match parts with
  | [] => rfl
  | .statement s :: rest =>
    simp [partsWithoutInto, constituentsOfParts, Statement.constituents_withoutInto s,
      constituentsOfParts_withoutInto rest]
  | .query q :: rest =>
    simp [partsWithoutInto, constituentsOfParts, Query.constituents_withoutInto q,
      constituentsOfParts_withoutInto rest]
  | .factor f :: rest =>
    simp [partsWithoutInto, constituentsOfParts, TableFactor.constituents_withoutInto f,
      constituentsOfParts_withoutInto rest]
  | .relation name :: rest =>
    simp [partsWithoutInto, constituentsOfParts, Constituent.withoutInto,
      constituentsOfParts_withoutInto rest]

end

theorem constituents_withoutInto (script : List Statement) :
    constituents (withoutInto script) = (constituents script).map (·.withoutInto) := by
  rw [constituents, withoutInto, constituents, List.flatMap_map, List.map_flatMap]
  congr 1
  funext s
  exact s.constituents_withoutInto

/-- Nothing is selected into once the clauses are gone. -/
theorem intoTargets_withoutInto (script : List Statement) :
    intoTargets (withoutInto script) = [] := by
  rw [intoTargets, constituents_withoutInto, List.filterMap_map, List.filterMap_eq_nil_iff]
  intro c _
  cases c with
  | body b =>
    cases b with
    | _ => rfl
  | _ => rfl

-- ---------------------------------------------------------------------------
-- The same visits
-- ---------------------------------------------------------------------------

mutual

theorem Query.kind_withoutInto (q : Query) : q.withoutInto.kind = q.kind := by
  match q with
  | .mk ctes body rest =>
    rw [Query.withoutInto, Query.kind, Query.kind, Body.kind_withoutInto body]

/-- A selection is of its kind with and without the clause. -/
theorem Body.kind_withoutInto (b : Body) : b.withoutInto.kind = b.kind := by
  match b with
  | .select into parts => rfl
  | .nested q => rw [Body.withoutInto, Body.kind, Body.kind, Query.kind_withoutInto q]
  | .setOperation op left right => rfl
  | .values parts => rfl
  | .table name schema => rfl
  | .write s => rfl

end

/-- Nor does it matter for a body that is all rows of a table. -/
theorem Body.wholeTable_withoutInto (b : Body) : b.withoutInto.wholeTable = b.wholeTable := by
  cases b with
  | _ => rfl

/-- The names that a query gives out are the same. -/
theorem map_aliasName_withoutInto (ctes : List Cte) :
    (ctesWithoutInto ctes).map (·.aliasName) = ctes.map (·.aliasName) := by
  induction ctes with
  | nil => rfl
  | cons c ctes ih =>
    match c with
    | .mk aliasName q => rw [ctesWithoutInto, List.map_cons, List.map_cons, ih]; rfl

/-- A query is entered as what it is without its INTO clauses. -/
theorem Query.entry_withoutInto (q : Query) : q.withoutInto.entry = q.entry := by
  match q with
  | .mk ctes body rest =>
    have hKind := Query.kind_withoutInto (.mk ctes body rest)
    rw [Query.withoutInto] at hKind
    rw [Query.withoutInto, Query.entry, Query.entry, hKind, map_aliasName_withoutInto,
      Body.wholeTable_withoutInto]

mutual

/-- **Nothing shows.** A reader enters the same in the same order, as the clause is in no entry.
This is where a table that is selected into gets lost. -/
theorem Statement.visit_withoutInto (s : Statement) : s.withoutInto.visit = s.visit := by
  match s with
  | .query q => rw [Statement.withoutInto, Statement.visit, Statement.visit, q.visit_withoutInto]
  | .plain form parts =>
    rw [Statement.withoutInto, Statement.visit, Statement.visit, visitParts_withoutInto]

/-- A query is entered with the same names, kind and table. -/
theorem Query.visit_withoutInto (q : Query) : q.withoutInto.visit = q.visit := by
  match q with
  | .mk ctes body rest =>
    have hEntry := Query.entry_withoutInto (.mk ctes body rest)
    rw [Query.withoutInto] at hEntry
    rw [Query.withoutInto, Query.visit, Query.visit, hEntry, visitCtes_withoutInto,
      Body.visits_withoutInto, visitParts_withoutInto]

theorem visitCtes_withoutInto (ctes : List Cte) :
    visitCtes (ctesWithoutInto ctes) = visitCtes ctes := by
  match ctes with
  | [] => rfl
  | .mk aliasName q :: rest =>
    rw [ctesWithoutInto, visitCtes, visitCtes, q.visit_withoutInto, visitCtes_withoutInto]

/-- Of a selection only the parts are entered, so taking its INTO clause away changes nothing here.
The other bodies lose the clauses in their parts. -/
theorem Body.visits_withoutInto (b : Body) : b.withoutInto.visits = b.visits := by
  match b with
  | .select into parts => rw [Body.withoutInto, Body.visits, Body.visits, visitParts_withoutInto]
  | .nested q => rw [Body.withoutInto, Body.visits, Body.visits, q.visit_withoutInto]
  | .setOperation op left right =>
    rw [Body.withoutInto, Body.visits, Body.visits, Body.visits_withoutInto left,
      Body.visits_withoutInto right]
  | .values parts => rw [Body.withoutInto, Body.visits, Body.visits, visitParts_withoutInto]
  | .table name schema => rfl
  | .write s => rw [Body.withoutInto, Body.visits, Body.visits, s.visit_withoutInto]

theorem TableFactor.visit_withoutInto (f : TableFactor) : f.withoutInto.visit = f.visit := by
  match f with
  | .table name aliasName none rest =>
    rw [TableFactor.withoutInto, TableFactor.visit, TableFactor.visit, visitParts_withoutInto]
  | .table name aliasName (some args) rest =>
    rw [TableFactor.withoutInto, TableFactor.visit, TableFactor.visit,
      visitParts_withoutInto args, visitParts_withoutInto rest]
  | .derived aliasName q rest =>
    rw [TableFactor.withoutInto, TableFactor.visit, TableFactor.visit, q.visit_withoutInto,
      visitParts_withoutInto]
  | .compound parts =>
    rw [TableFactor.withoutInto, TableFactor.visit, TableFactor.visit, visitParts_withoutInto]

theorem visitParts_withoutInto (parts : List Part) :
    visitParts (partsWithoutInto parts) = visitParts parts := by
  match parts with
  | [] => rfl
  | .statement s :: rest =>
    rw [partsWithoutInto, visitParts, visitParts, s.visit_withoutInto, visitParts_withoutInto]
  | .query q :: rest =>
    rw [partsWithoutInto, visitParts, visitParts, q.visit_withoutInto, visitParts_withoutInto]
  | .factor f :: rest =>
    rw [partsWithoutInto, visitParts, visitParts, f.visit_withoutInto, visitParts_withoutInto]
  | .relation name :: rest =>
    rw [partsWithoutInto, visitParts, visitParts, visitParts_withoutInto]

end

theorem visits_withoutInto (script : List Statement) :
    visits (withoutInto script) = visits script := by
  rw [visits, withoutInto, List.map_map, visits]
  congr 1
  funext s
  exact s.visit_withoutInto

end QueryGuard.Sql

namespace QueryGuard.Tree

open Sql

/-- INTO clauses leave no trace in the tree, at any depth: the trees are equal, and with them all
that is asked of a tree. -/
theorem ofScript_withoutInto (script : List Statement) :
    ofScript (withoutInto script) = ofScript script := by
  rw [ofScript, visits_withoutInto, ofScript]

-- ---------------------------------------------------------------------------
-- The verdict
-- ---------------------------------------------------------------------------

/-- The kinds of the statements that occur in a script, at any depth. -/
def statementKindsOf (script : List Statement) : List NodeKind :=
  (constituents script).filterMap (·.statementKind?)

/-- A script is free of disallowed nodes exactly if none of its statements, at any depth, is of a
disallowed kind. Selecting into a table is no statement. -/
theorem disallowed?_ofScript_eq_none {script : List Statement} :
    (ofScript script).disallowed? = none ↔
      ∀ kind ∈ statementKindsOf script, kind ∉ disallowedKinds := by
  rw [disallowed?_ofScript, enteredKinds_visits, List.find?_eq_none]
  simp only [isDisallowed_iff]
  rfl

end QueryGuard.Tree

namespace QueryGuard.Guard

open Sql QueryGuard.Tree

/-- A text that is read is judged by the tree of its script. -/
theorem result_readOnly_sql {text name : String} {d : Dialect} {script : List Statement}
    (hDialect : ScriptReader.dialect name = .ok d)
    (hScript : ScriptReader.script d text = .ok script) :
    (readOnly .sql text name).result = (classify (ofScript script)).result := by
  have hRead : (ScriptReader.sql text name).result = .ok (ofScript script) :=
    ScriptReader.result_sql_eq_ok.mpr ⟨d, script, hDialect, hScript, rfl⟩
  rw [result_readOnly, result_tree, hRead]
  rfl

/-- **A clause INTO never counts.** Let a text be read as a script. Without its INTO clauses the
script selects into nothing, and it has the same tree. The text is rejected for a disallowed
statement exactly if a statement of a disallowed kind occurs in the script at some depth, and
otherwise it is accepted, whatever is selected into. -/
theorem readOnly_ignores_into {text name : String} {d : Dialect} {script : List Statement}
    (hDialect : ScriptReader.dialect name = .ok d)
    (hScript : ScriptReader.script d text = .ok script) :
    (intoTargets (withoutInto script) = [] ∧ ofScript (withoutInto script) = ofScript script) ∧
    ((∃ kind, (readOnly .sql text name).result = .error (.disallowedStatement kind)) ↔
      ∃ kind ∈ statementKindsOf script, kind ∈ disallowedKinds) ∧
    ((readOnly .sql text name).result = .ok () ↔
      ∀ kind ∈ statementKindsOf script, kind ∉ disallowedKinds) := by
  refine ⟨⟨intoTargets_withoutInto script, ofScript_withoutInto script⟩, ?_⟩
  have hNone : (ofScript script).disallowed? = none ↔
      ∀ kind ∈ statementKindsOf script, kind ∉ disallowedKinds := disallowed?_ofScript_eq_none
  rw [result_readOnly_sql hDialect hScript, result_classify]
  -- the verdict is that on the first disallowed node, and there is one exactly if a statement is
  -- of a disallowed kind
  cases hKind : (ofScript script).disallowed? with
  | none =>
    have hAll := hNone.mp hKind
    refine ⟨⟨?_, ?_⟩, iff_of_true rfl hAll⟩
    · rintro ⟨kind, hError⟩
      cases hError
    · rintro ⟨kind, hMem, hDisallowed⟩
      exact absurd hDisallowed (hAll kind hMem)
  | some kind =>
    have hSome : ¬ ∀ kind ∈ statementKindsOf script, kind ∉ disallowedKinds := by
      rw [← hNone, hKind]
      exact Option.some_ne_none kind
    refine ⟨iff_of_true ⟨kind.upperKey, rfl⟩ ?_, iff_of_false ?_ hSome⟩
    · simpa only [not_forall, not_not, exists_prop] using hSome
    · intro hOk
      cases hOk

/-- A script that selects into a table and drops another is rejected for the latter. -/
theorem readOnly_ignores_into_drop :
    ∃ script, ScriptReader.script .postgres "SELECT * INTO u FROM t; DROP TABLE v" = .ok script ∧
      intoTargets script = [["u"]] ∧ ofScript (withoutInto script) = ofScript script ∧
      ∃ kind, (readOnly .sql "SELECT * INTO u FROM t; DROP TABLE v" "postgres").result =
        .error (.disallowedStatement kind) := by
  have hRead : (ScriptReader.script .postgres "SELECT * INTO u FROM t; DROP TABLE v").map
      (fun script => (intoTargets script, statementKindsOf script)) = .ok ([["u"]], [.drop]) := by
    decide +kernel
  have hDialect : ScriptReader.dialect "postgres" = .ok .postgres := by decide
  cases hScript : ScriptReader.script .postgres "SELECT * INTO u FROM t; DROP TABLE v" with
  | error e =>
    rw [hScript] at hRead
    cases hRead
  | ok script =>
    rw [hScript] at hRead
    obtain ⟨hTargets, hKinds⟩ := Prod.mk.inj (Except.ok.inj hRead)
    obtain ⟨⟨-, hTree⟩, hRejected, -⟩ := readOnly_ignores_into hDialect hScript
    refine ⟨script, rfl, hTargets, hTree, hRejected.mpr ⟨.drop, ?_, by decide⟩⟩
    rw [hKinds]
    exact List.mem_singleton_self _

/-- A table is created, from a selection and by a statement: only the statement is rejected. -/
theorem readOnly_select_into :
    (ScriptReader.script .postgres "SELECT * INTO u FROM t").map intoTargets = .ok [["u"]] ∧
      (readOnly .sql "SELECT * INTO u FROM t" "postgres").result = .ok () ∧
      (readOnly .sql "CREATE TABLE u AS SELECT * FROM t" "postgres").result =
        .error (.disallowedStatement "CREATE") := by
  decide +kernel

end QueryGuard.Guard
