import QueryGuard.Proofs.References

/-!
# Whole tables — where `TABLE t` is reported and where it is lost

All rows of a table may stand in the body of a query: as the whole body, in parentheses, or as an
operand of set operations, nested in any way. Such a table is entered as nothing of its own. It is
known by the query whose whole body it is, and by nothing else, so it depends on its position
whether it is known at all: in parentheses it is, as an operand it is not. The script
`SELECT 1 UNION (TABLE t)` refers to `t`, and `SELECT 1 UNION TABLE t` does not.

An `OpenBody` is a body with one place left open, and `fill` puts a body there; so the open
bodies and what fills them are the leaves of all bodies.

Main results:

* `mem_references_of_isOperand_eq_false` — anywhere but as an operand a table is referred to.
* `ofScript_fill_of_isOperand` — as an operand it leaves no trace: the tree is that of a script
  with no rows at its place.
* `tableNames_fill_iff` — **a table is reported at exactly the positions that are no operands**,
  unless the script refers to it elsewhere.
-/

namespace QueryGuard.Sql

-- ---------------------------------------------------------------------------
-- Positions
-- ---------------------------------------------------------------------------

/-- A body of a query with one place left open. -/
inductive OpenBody where
  /-- The whole body. -/
  | whole
  /-- In the body of a query in parentheses. -/
  | nested (ctes : List Cte) (inner : OpenBody) (rest : List Part)
  /-- In the left operand of a set operation. -/
  | left (op : SetOperator) (inner : OpenBody) (other : Body)
  /-- In the right operand of a set operation. -/
  | right (op : SetOperator) (other : Body) (inner : OpenBody)

namespace OpenBody

/-- The body with another put at the open place. -/
def fill (b : Body) : OpenBody → Body
  | whole => b
  | nested ctes inner rest => .nested (.mk ctes (inner.fill b) rest)
  | left op inner other => .setOperation op (inner.fill b) other
  | right op other inner => .setOperation op other (inner.fill b)

/-- Whether the open place is the whole body. -/
def isWhole : OpenBody → Bool
  | whole => true
  | _ => false

/-- Whether the open place is an operand of a set operation, with no parentheses between. -/
def isOperand : OpenBody → Bool
  | whole => false
  | nested _ inner _ => inner.isOperand
  | left _ inner _ => inner.isWhole || inner.isOperand
  | right _ _ inner => inner.isWhole || inner.isOperand

/-- An open place that is the whole body has nothing around it. -/
theorem eq_whole_of_isWhole {around : OpenBody} (h : around.isWhole = true) : around = whole := by
  cases around with
  | whole => rfl
  | nested ctes inner rest => cases h
  | left op inner other => cases h
  | right op other inner => cases h

-- ---------------------------------------------------------------------------
-- Anywhere but as an operand
-- ---------------------------------------------------------------------------

/-- At a place that is neither the whole body nor an operand, something is the whole body of a
query that occurs in the script. -/
theorem query_mem_constituents_fill (b : Body) {around : OpenBody} (hWhole : around.isWhole = false)
    (hOperand : around.isOperand = false) :
    ∃ ctes rest, Constituent.query (.mk ctes b rest) ∈ (around.fill b).constituents := by
  induction around with
  | whole => cases hWhole
  | nested ctes inner rest ih =>
    rw [fill, Body.constituents, Query.constituents]
    -- the place is the whole body of the query in parentheses, or lies deeper in that body
    cases hInner : inner.isWhole with
    | true =>
      obtain rfl := eq_whole_of_isWhole hInner
      exact ⟨ctes, rest, by simp [fill]⟩
    | false =>
      obtain ⟨cs, r, hMem⟩ := ih hInner hOperand
      exact ⟨cs, r, by simp [hMem]⟩
  -- below an operator the place is no operand only if it lies in parentheses further in
  | left op inner other ih =>
    rw [isOperand, Bool.or_eq_false_iff] at hOperand
    obtain ⟨cs, r, hMem⟩ := ih hOperand.1 hOperand.2
    rw [fill, Body.constituents]
    exact ⟨cs, r, by simp [hMem]⟩
  | right op other inner ih =>
    rw [isOperand, Bool.or_eq_false_iff] at hOperand
    obtain ⟨cs, r, hMem⟩ := ih hOperand.1 hOperand.2
    rw [fill, Body.constituents]
    exact ⟨cs, r, by simp [hMem]⟩

end OpenBody

/-- A query that is all rows of a table refers to it, wherever in the script it stands. -/
theorem mem_references_of_query {script : List Statement} {ctes : List Cte} {name : String}
    {schema : Option String} {rest : List Part}
    (hMem : .query (.mk ctes (.table (some name) schema) rest) ∈ constituents script) :
    name ∈ references script := by
  rw [← map_snd_placed] at hMem
  obtain ⟨⟨around, c⟩, hPlaced, rfl⟩ := List.mem_map.mp hMem
  exact List.mem_filterMap.mpr ⟨_, hPlaced, rfl⟩

/-- The script of a single query with a body put at a position. -/
def scriptAt (ctes : List Cte) (around : OpenBody) (rest : List Part) (b : Body) : List Statement :=
  [.query (.mk ctes (around.fill b) rest)]

/-- **Anywhere but as an operand** a table is referred to: as the whole body of a query, however
many parentheses and set operations stand around that query. -/
theorem mem_references_of_isOperand_eq_false {around : OpenBody}
    (hOperand : around.isOperand = false) (ctes : List Cte) (rest : List Part) (name : String)
    (schema : Option String) :
    name ∈ references (scriptAt ctes around rest (.table (some name) schema)) := by
  have hQuery : ∃ cs r, Constituent.query (.mk cs (.table (some name) schema) r) ∈
      constituents (scriptAt ctes around rest (.table (some name) schema)) := by
    rw [scriptAt, constituents, List.flatMap_singleton, Statement.constituents, Query.constituents]
    cases hWhole : around.isWhole with
    | true =>
      obtain rfl := OpenBody.eq_whole_of_isWhole hWhole
      exact ⟨ctes, rest, by simp [OpenBody.fill]⟩
    | false =>
      obtain ⟨cs, r, hMem⟩ :=
        OpenBody.query_mem_constituents_fill (.table (some name) schema) hWhole hOperand
      exact ⟨cs, r, by simp [hMem]⟩
  obtain ⟨cs, r, hMem⟩ := hQuery
  exact mem_references_of_query hMem

-- ---------------------------------------------------------------------------
-- As an operand
-- ---------------------------------------------------------------------------

/-- What a query shows of its body: what is entered in it, its kind, and the table it is. -/
structure SameShown (b b' : Body) : Prop where
  visits : b.visits = b'.visits
  kind : b.kind = b'.kind
  wholeTable : b.wholeTable = b'.wholeTable

/-- Bodies that show the same are entered alike in any query. -/
theorem SameShown.visit_mk {b b' : Body} (h : SameShown b b') (ctes : List Cte)
    (rest : List Part) : (Query.mk ctes b rest).visit = (Query.mk ctes b' rest).visit := by
  rw [Query.visit, Query.visit, Query.entry, Query.entry, Query.kind, Query.kind, h.visits, h.kind,
    h.wholeTable]

section Operand

variable {b b' : Body} (hb : b.visits = []) (hb' : b'.visits = [])

include hb hb'

/-- Bodies at an operand that show the same are entered alike with what is around them, since an
operand shows only what is entered in it. -/
theorem visits_fill_of_operand {inner : OpenBody}
    (hShown : inner.isOperand = true → SameShown (inner.fill b) (inner.fill b'))
    (hInner : (inner.isWhole || inner.isOperand) = true) :
    (inner.fill b).visits = (inner.fill b').visits := by
  rw [Bool.or_eq_true] at hInner
  rcases hInner with hWhole | hOperand
  · -- the place itself: both bodies enter nothing
    obtain rfl := OpenBody.eq_whole_of_isWhole hWhole
    rw [OpenBody.fill, OpenBody.fill, hb, hb']
  · exact (hShown hOperand).visits

/-- As an operand, bodies in which nothing is entered cannot be told apart. The induction is on
what is around the place; parentheses pass on what the query in them shows, and a set operation
shows its operator. -/
theorem sameShown_fill {around : OpenBody} (hOperand : around.isOperand = true) :
    SameShown (around.fill b) (around.fill b') := by
  induction around with
  | whole => cases hOperand
  -- parentheses pass on what the query in them shows, and are no table themselves
  | nested ctes inner rest ih =>
    have hInner := ih hOperand
    refine ⟨?_, ?_, rfl⟩
    · rw [OpenBody.fill, OpenBody.fill, Body.visits, Body.visits, hInner.visit_mk]
    · rw [OpenBody.fill, OpenBody.fill, Body.kind, Body.kind, Query.kind, Query.kind, hInner.kind]
  | left op inner other ih =>
    -- the kind is that of the operator, and a set operation is no table
    refine ⟨?_, rfl, rfl⟩
    rw [OpenBody.fill, OpenBody.fill, Body.visits, Body.visits,
      visits_fill_of_operand hb hb' ih hOperand]
  | right op other inner ih =>
    refine ⟨?_, rfl, rfl⟩
    rw [OpenBody.fill, OpenBody.fill, Body.visits, Body.visits,
      visits_fill_of_operand hb hb' ih hOperand]

end Operand

end QueryGuard.Sql

namespace QueryGuard.Tree

open Sql

/-- **As an operand** a table leaves no trace in the tree, whatever its name: the tree is that with
an empty list of rows in its place. -/
theorem ofScript_fill_of_isOperand {around : OpenBody} (hOperand : around.isOperand = true)
    (ctes : List Cte) (rest : List Part) (name schema : Option String) :
    ofScript (scriptAt ctes around rest (.table name schema)) =
      ofScript (scriptAt ctes around rest (.values [])) := by
  have hSame : SameShown (around.fill (.table name schema)) (around.fill (.values [])) :=
    sameShown_fill rfl rfl hOperand
  have hVisits : visits (scriptAt ctes around rest (.table name schema)) =
      visits (scriptAt ctes around rest (.values [])) := by
    simp only [scriptAt, visits, List.map_cons, List.map_nil, Statement.visit, hSame.visit_mk]
  rw [ofScript, ofScript, hVisits]

/-- **Whole tables are reported at exactly the positions that are no operands.** Wherever in the
body of a query all rows of a table stand, the tree has a node of that name if and only if they
stand as no operand of a set operation, or the script without them refers to the table as well. -/
theorem tableNames_fill_iff (ctes : List Cte) (around : OpenBody) (rest : List Part)
    (name : String) (schema : Option String) :
    some name ∈ (ofScript (scriptAt ctes around rest (.table (some name) schema))).tableNames ↔
      around.isOperand = false ∨
        some name ∈ (ofScript (scriptAt ctes around rest (.values []))).tableNames := by
  cases hOperand : around.isOperand with
  | true =>
    -- at an operand the trees are the same, so the table adds nothing to what is named elsewhere
    rw [ofScript_fill_of_isOperand hOperand]
    simp
  | false =>
    -- anywhere else the table is that of a query, which refers to it
    have hMem := mem_references_of_isOperand_eq_false hOperand ctes rest name schema
    constructor
    · intro _
      exact Or.inl rfl
    · intro _
      rw [tableNames_ofScript]
      exact List.mem_map_of_mem hMem

/-- A table read through a set operation and not extracted. -/
theorem extract_union_table :
    (Guard.extract .sql "SELECT 1 UNION TABLE t" "postgres").result = .ok .empty := by
  decide +kernel

end QueryGuard.Tree
