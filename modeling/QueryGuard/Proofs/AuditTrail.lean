import QueryGuard.Proofs.EntryPoints
import QueryGuard.Proofs.QuotedForm
import QueryGuard.Proofs.References

/-!
# The audit trail — what is recorded on the way to which result

Records are made at four places: by the reader once a text is read, at a disallowed statement, once
a script is validated, and at tables that are not allowed. Each is passed on some ways only.
`Course` lists the ways that a check can go, each with its records and its result, and says nothing
of the order in which the check does things. A check goes exactly one of them.

A record is what is emitted in the end: a level, the part of the program it comes from, and a text.
The four of them are written out under `Emitted`, and their texts say what they are about: two
warnings with one text name the same kind or the same tables, and the counts of a validation can be
read off its record.

So the records tell the result. There is one warning if the script is rejected and none otherwise,
and it names what the failure names; no other record is a warning.

Main results:

* `Emitted.rejectedTables_inj`, `Emitted.validated_inj` — what a record is about, by its text.
* `report_of_unread`, `report_of_forbidden`, `report_of_accepted`, `report_of_unlisted` — records
  and result of a check by those of its stages, for any reader.
* `emissions_of_course` / `exists_course` — the ways that a check can go, and that it goes one of
  them.
* `warnings_of_course` — the warnings of each way.
* `report_faithful` — **the records of a check tell its result.**
-/

namespace QueryGuard

-- ---------------------------------------------------------------------------
-- Records as they are emitted
-- ---------------------------------------------------------------------------

/-- A record as it is emitted: how much it matters, the part of the program it comes from, and what
it says. -/
structure Emitted where
  level : Level
  origin : String
  text : String
deriving DecidableEq

/-- What is emitted of an event. -/
def Event.emitted (e : Event) : Emitted where
  level := e.level
  origin := e.origin
  text := e.message

namespace Emitted

/-- The reader has read so many statements in a dialect. -/
def parsed (statements : Nat) (dialect : String) : Emitted where
  level := .debug
  origin := "sqlguard::sql_parser"
  text := "Parsed " ++ toString statements ++ " statement(s) with " ++ dialect ++ " dialect"

/-- A statement of a disallowed kind was found. -/
def rejectedStatement (kind : String) : Emitted where
  level := .warn
  origin := "sqlguard::readonly"
  text := "Rejected query containing disallowed statement: " ++ kind

/-- A script was found to be read-only, with so many tables and names of common table
expressions. -/
def validated (tables ctes : Nat) : Emitted where
  level := .debug
  origin := "sqlguard::validator"
  text := "Validated query: " ++ toString tables ++ " table(s), " ++ toString ctes
    ++ " CTE alias(es) excluded"

/-- Tables were found that are not allowed. -/
def rejectedTables (tables : List String) : Emitted where
  level := .warn
  origin := "sqlguard::allowlist"
  text := "Rejected query referencing disallowed tables: "
    ++ ("[" ++ ", ".intercalate (tables.map Text.quoted) ++ "]")

/-- The warning of a disallowed statement tells its kind. -/
theorem rejectedStatement_inj {kind kind' : String} :
    rejectedStatement kind = rejectedStatement kind' ↔ kind = kind' := by
  simp [rejectedStatement]

/-- The warning of disallowed tables tells which they are, and in which order. -/
theorem rejectedTables_inj {tables tables' : List String} :
    rejectedTables tables = rejectedTables tables' ↔ tables = tables' := by
  rw [← Text.quotedList_inj, Text.quotedList, Text.quotedList]
  simp [rejectedTables]

/-- The record of a validation tells both counts: in its text each count ends at the blank behind
it, so the digits before the blank are those of one number only. -/
theorem validated_inj {tables tables' ctes ctes' : Nat} :
    validated tables ctes = validated tables' ctes' ↔ tables = tables' ∧ ctes = ctes' := by
  constructor
  · intro h
    have hText := (Emitted.mk.inj h).2.2
    -- either count ends at the blank behind it
    have hTables : " table(s), " = String.singleton ' ' ++ "table(s), " := by decide
    have hCtes : " CTE alias(es) excluded" =
        String.singleton ' ' ++ "CTE alias(es) excluded" := by decide
    simp only [hTables, hCtes, String.append_assoc, String.append_right_inj] at hText
    obtain ⟨rfl, hBehind⟩ := Text.toString_append_inj (by decide) hText
    rw [String.append_right_inj] at hBehind
    exact ⟨rfl, (Text.toString_append_inj (by decide) hBehind).1⟩
  · rintro ⟨rfl, rfl⟩
    rfl

/-- The four texts begin with different words, so they cannot be mistaken for each other, whatever
names and numbers they hold. -/
@[simp] theorem validated_ne_parsed {tables ctes statements : Nat} {dialect : String} :
    validated tables ctes ≠ parsed statements dialect := by
  simp [validated, parsed]

@[simp] theorem validated_ne_rejectedStatement {tables ctes : Nat} {kind : String} :
    validated tables ctes ≠ rejectedStatement kind := by
  simp [validated, rejectedStatement]

@[simp] theorem validated_ne_rejectedTables {tables ctes : Nat} {names : List String} :
    validated tables ctes ≠ rejectedTables names := by
  simp [validated, rejectedTables]

end Emitted

-- ---------------------------------------------------------------------------
-- Records of chains
-- ---------------------------------------------------------------------------

namespace Audited

variable {ε α β : Type}

/-- A chain whose first step succeeds records what that has recorded, and then what the next
does. -/
theorem bind_of_ok {x : Audited ε α} {events : List Event} {a : α} (h : x = ⟨events, .ok a⟩)
    (f : α → Audited ε β) : x >>= f = ⟨events ++ (f a).events, (f a).result⟩ := by
  rw [h]
  rfl

/-- A chain whose first step fails records nothing more. -/
theorem bind_of_error {x : Audited ε α} {events : List Event} {e : ε}
    (h : x = ⟨events, .error e⟩) (f : α → Audited ε β) : x >>= f = ⟨events, .error e⟩ := by
  rw [h]
  rfl

end Audited

/-- A tree that is accepted leaves no record. -/
theorem Tree.classify_of_none {n : Node} (h : n.disallowed? = none) :
    classify n = ⟨[], .ok ()⟩ := by
  rw [classify, h]
  rfl

/-- A tree that is rejected leaves one, with the kind that the failure has. -/
theorem Tree.classify_of_some {n : Node} {kind : NodeKind} (h : n.disallowed? = some kind) :
    classify n = ⟨[.rejectedStatement kind.upperKey],
      .error (.disallowedStatement kind.upperKey)⟩ := by
  rw [classify, h]
  rfl

theorem AllowList.check_of_all {a : AllowList} {tables : NameSet}
    (h : ∀ t ∈ tables, t ∈ a.tables) : a.check tables = ⟨[], .ok ()⟩ := by
  rw [check]
  rw [if_pos (isEmpty_offenders.mpr h)]
  rfl

/-- Tables that are not leave one, with the tables that the failure has. -/
theorem AllowList.check_of_not_all {a : AllowList} {tables : NameSet}
    (h : ¬ ∀ t ∈ tables, t ∈ a.tables) :
    a.check tables = ⟨[.rejectedTables (a.offenders tables).toList],
      .error (.disallowedTable (a.offenders tables).toList)⟩ := by
  rw [check]
  rw [if_neg (mt isEmpty_offenders.mp h)]
  rfl

namespace Guard

section Stages

variable {read : ScriptReader} {text dialect : String} {events : List Event} {n : Tree.Node}

/-- Reading adds no record to those of the reader. -/
theorem tree_of_read (h : read text dialect = ⟨events, .ok n⟩) :
    tree read text dialect = ⟨events, .ok n⟩ := by
  rw [tree, h]
  rfl

/-- A script that is rejected is recorded once, behind what the reader has recorded. -/
theorem extract_of_forbidden {kind : NodeKind} (h : read text dialect = ⟨events, .ok n⟩)
    (hKind : n.disallowed? = some kind) :
    extract read text dialect = ⟨events ++ [.rejectedStatement kind.upperKey],
      .error (.disallowedStatement kind.upperKey)⟩ := by
  rw [extract, Audited.bind_of_ok (tree_of_read h),
    Audited.bind_of_error (Tree.classify_of_some hKind)]

/-- One that is accepted is recorded with the sizes of two sets: its base tables, and the names
that have been taken off them. -/
theorem extract_of_accepted (h : read text dialect = ⟨events, .ok n⟩)
    (hNone : n.disallowed? = none) :
    extract read text dialect = ⟨events ++ [.validated n.baseTables.size n.cteNames.size],
      .ok n.baseTables⟩ := by
  rw [extract, Audited.bind_of_ok (tree_of_read h),
    Audited.bind_of_ok (Tree.classify_of_none hNone)]
  rfl

/-- A check that fails before tables are compared does so with any allow-list and without. -/
theorem report_of_extract_error {e : GuardError}
    (h : extract read text dialect = ⟨events, .error e⟩) (allowed : Option AllowList) :
    report read text dialect allowed = ⟨events, .error e⟩ := by
  rw [report]
  apply Audited.bind_of_error
  cases allowed with
  | none => exact h
  | some a => exact Audited.bind_of_error h _

/-- Whatever the allow-list, a text that cannot be read leaves only the records of the reader, and
fails for the reader's reason. The list is not looked at, so what it holds cannot show in the
records. -/
theorem report_of_unread {cause : ReadError} (h : read text dialect = ⟨events, .error cause⟩)
    (allowed : Option AllowList) :
    report read text dialect allowed = ⟨events, .error (.ofReadError dialect cause)⟩ := by
  apply report_of_extract_error
  rw [extract]
  apply Audited.bind_of_error
  rw [tree, h]
  rfl

/-- A script that is rejected leaves one more record, which names the kind of its first disallowed
statement, and fails with the same kind. It is not compared with a list: the tree is classified
before any table is extracted. -/
theorem report_of_forbidden {kind : NodeKind} (h : read text dialect = ⟨events, .ok n⟩)
    (hKind : n.disallowed? = some kind) (allowed : Option AllowList) :
    report read text dialect allowed = ⟨events ++ [.rejectedStatement kind.upperKey],
      .error (.disallowedStatement kind.upperKey)⟩ :=
  report_of_extract_error (extract_of_forbidden h hKind) allowed

/-- A script that is accepted leaves the record of its validation, and none behind it if its tables
are all listed. Without a list there is nothing to be listed on, so this covers a check without
allow-list as well. -/
theorem report_of_accepted (h : read text dialect = ⟨events, .ok n⟩)
    (hNone : n.disallowed? = none) {allowed : Option AllowList}
    (hAllowed : ∀ a ∈ allowed, ∀ t ∈ n.baseTables, t ∈ a.tables) :
    report read text dialect allowed =
      ⟨events ++ [.validated n.baseTables.size n.cteNames.size],
        .ok (.ofTables dialect n.baseTables)⟩ := by
  have hTables : tables read text dialect allowed =
      ⟨events ++ [.validated n.baseTables.size n.cteNames.size], .ok n.baseTables⟩ := by
    have hExtract := extract_of_accepted h hNone
    -- without a list the extracted tables are passed on; with one that has them all, so they are
    cases allowed with
    | none => exact hExtract
    | some a =>
      rw [tables, authorize, Audited.bind_of_ok hExtract,
        Audited.bind_of_ok (AllowList.check_of_all (hAllowed a rfl))]
      exact congrArg (Audited.mk · _) (List.append_nil _)
  rw [report, Audited.bind_of_ok hTables]
  exact congrArg (Audited.mk · _) (List.append_nil _)

/-- A script with tables that are not listed has been accepted before, so both things are recorded:
that it is read-only, and then which tables are not on the list. They are the tables of the
failure, in the same order. -/
theorem report_of_unlisted (h : read text dialect = ⟨events, .ok n⟩)
    (hNone : n.disallowed? = none) {a : AllowList}
    (hNot : ¬ ∀ t ∈ n.baseTables, t ∈ a.tables) :
    report read text dialect (some a) =
      ⟨events ++ [.validated n.baseTables.size n.cteNames.size,
        .rejectedTables (a.offenders n.baseTables).toList],
        .error (.disallowedTable (a.offenders n.baseTables).toList)⟩ := by
  rw [report]
  apply Audited.bind_of_error
  rw [tables, authorize, Audited.bind_of_ok (extract_of_accepted h hNone),
    Audited.bind_of_error (AllowList.check_of_not_all hNot)]
  exact congrArg (Audited.mk · _) (List.append_assoc _ _ _)

end Stages

end Guard

-- ---------------------------------------------------------------------------
-- Records of the reader
-- ---------------------------------------------------------------------------

namespace ScriptReader

variable {text name : String} {d : Dialect}

/-- The statements that a text is read as. -/
def Reads (text name : String) (statements : List Sql.Statement) : Prop :=
  ∃ d, Dialect.ofName? name = some d ∧ Sql.parse d text = .ok statements ∧ statements ≠ []

/-- The message for a text without statements. -/
def emptyMessage (text : String) : String :=
  "No expression was parsed from '" ++ text ++ "'"

/-- Without a dialect nothing is read and nothing recorded. -/
theorem sql_of_unknown (h : Dialect.ofName? name = none) :
    sql text name = ⟨[], .error (.unknownDialect name)⟩ := by
  rw [sql, dialect, h]
  rfl

theorem sql_of_malformed (hDialect : Dialect.ofName? name = some d) {e : Sql.SyntaxError}
    (h : Sql.parse d text = .error e) : sql text name = ⟨[], .error (.malformed e.message)⟩ := by
  simp only [sql, dialect, hDialect, script, h]
  rfl

theorem sql_of_empty (hDialect : Dialect.ofName? name = some d) (h : Sql.parse d text = .ok []) :
    sql text name = ⟨[], .error (.malformed (emptyMessage text))⟩ := by
  simp only [sql, dialect, hDialect, script, h]
  rfl

/-- A text that is read is recorded with the number of its statements and the dialect as it was
given. -/
theorem sql_of_reads {statements : List Sql.Statement} (h : Reads text name statements) :
    sql text name = ⟨[.parsed statements.length name], .ok (Tree.ofScript statements)⟩ := by
  obtain ⟨d, hDialect, hParse, hSome⟩ := h
  obtain ⟨s, ss, rfl⟩ := List.exists_cons_of_ne_nil hSome
  simp only [sql, dialect, hDialect, script, hParse]
  rfl

end ScriptReader

-- ---------------------------------------------------------------------------
-- The ways that a check can go
-- ---------------------------------------------------------------------------

namespace Guard

open ScriptReader

/-- The ways that a check of a text can go: what is emitted, and what the result is. -/
inductive Course (text dialect : String) (allowed : Option AllowList) :
    List Emitted → Except GuardError Report → Prop where
  | unknownDialect (h : Dialect.ofName? dialect = none) :
    Course text dialect allowed [] (.error (.unsupportedDialect dialect))
  | malformed {d : Dialect} {e : Sql.SyntaxError} (hDialect : Dialect.ofName? dialect = some d)
      (h : Sql.parse d text = .error e) :
    Course text dialect allowed [] (.error (.invalidSyntax dialect e.message))
  | empty {d : Dialect} (hDialect : Dialect.ofName? dialect = some d)
      (h : Sql.parse d text = .ok []) :
    Course text dialect allowed [] (.error (.invalidSyntax dialect (emptyMessage text)))
  | forbidden {statements : List Sql.Statement} {kind : NodeKind}
      (hReads : Reads text dialect statements)
      (hKind : (Tree.ofScript statements).disallowed? = some kind) :
    Course text dialect allowed
      [.parsed statements.length dialect, .rejectedStatement kind.upperKey]
      (.error (.disallowedStatement kind.upperKey))
  | accepted {statements : List Sql.Statement} {n : Tree.Node}
      (hReads : Reads text dialect statements) (hTree : n = Tree.ofScript statements)
      (hNone : n.disallowed? = none) (hAllowed : ∀ a ∈ allowed, ∀ t ∈ n.baseTables, t ∈ a.tables) :
    Course text dialect allowed
      [.parsed statements.length dialect,
        .validated n.baseTables.toList.length n.cteNames.toList.length]
      (.ok (.ofTables dialect n.baseTables))
  | unlisted {statements : List Sql.Statement} {n : Tree.Node} {a : AllowList}
      (hReads : Reads text dialect statements) (hTree : n = Tree.ofScript statements)
      (hNone : n.disallowed? = none) (hAllowed : allowed = some a)
      (hNot : ¬ ∀ t ∈ n.baseTables, t ∈ a.tables) :
    Course text dialect allowed
      [.parsed statements.length dialect,
        .validated n.baseTables.toList.length n.cteNames.toList.length,
        .rejectedTables (a.offenders n.baseTables).toList]
      (.error (.disallowedTable (a.offenders n.baseTables).toList))

/-- The records that a check of a text emits, in order. -/
def emissions (text dialect : String) (allowed : Option AllowList) : List Emitted :=
  (report .sql text dialect allowed).events.map (·.emitted)

variable {text dialect : String} {allowed : Option AllowList} {records : List Emitted}
  {result : Except GuardError Report}

/-- A check goes the way that its text, dialect and allow-list call for. What is emitted is read
off the chain of the stages, one lemma above for each way it can end; how that is worded is left to
the events. -/
theorem emissions_of_course (h : Course text dialect allowed records result) :
    emissions text dialect allowed = records ∧
      (report .sql text dialect allowed).result = result := by
  rw [emissions]
  -- each course is computed stage by stage; the lemmas above leave nothing but a comparison
  cases h with
  | unknownDialect h =>
    rw [report_of_unread (sql_of_unknown h) allowed]
    exact ⟨rfl, rfl⟩
  | malformed hDialect h =>
    rw [report_of_unread (sql_of_malformed hDialect h) allowed]
    exact ⟨rfl, rfl⟩
  | empty hDialect h =>
    rw [report_of_unread (sql_of_empty hDialect h) allowed]
    exact ⟨rfl, rfl⟩
  | forbidden hReads hKind =>
    rw [report_of_forbidden (sql_of_reads hReads) hKind allowed]
    exact ⟨rfl, rfl⟩
  | accepted hReads hTree hNone hAllowed =>
    subst hTree
    rw [report_of_accepted (sql_of_reads hReads) hNone hAllowed]
    exact ⟨rfl, rfl⟩
  | unlisted hReads hTree hNone hAllowed hNot =>
    subst hTree hAllowed
    rw [report_of_unlisted (sql_of_reads hReads) hNone hNot]
    exact ⟨rfl, rfl⟩

/-- A check goes one of the ways. They are told apart by what decides them in the order the stages
do: the dialect, the text, its statements, the disallowed ones, the list. -/
theorem exists_course (text dialect : String) (allowed : Option AllowList) :
    ∃ records result, Course text dialect allowed records result := by
  -- the questions are asked in the order in which the check asks them
  cases hDialect : Dialect.ofName? dialect with
  | none => exact ⟨_, _, .unknownDialect hDialect⟩
  | some d =>
    cases hParse : Sql.parse d text with
    | error e => exact ⟨_, _, .malformed hDialect hParse⟩
    | ok statements =>
      by_cases hEmpty : statements = []
      · exact ⟨_, _, .empty hDialect (hEmpty ▸ hParse)⟩
      have hReads : Reads text dialect statements := ⟨d, hDialect, hParse, hEmpty⟩
      cases hKind : (Tree.ofScript statements).disallowed? with
      | some kind => exact ⟨_, _, .forbidden hReads hKind⟩
      | none =>
        -- tables are compared only where there is an allow-list
        cases allowed with
        | none => exact ⟨_, _, .accepted hReads rfl hKind (by simp)⟩
        | some a =>
          by_cases hAll : ∀ t ∈ (Tree.ofScript statements).baseTables, t ∈ a.tables
          · exact ⟨_, _, .accepted hReads rfl hKind (by simpa using hAll)⟩
          · exact ⟨_, _, .unlisted hReads rfl hKind rfl hAll⟩

/-- The ways that a check can go are those it goes: records and result of a check determine each
other through `Course` alone. -/
theorem course_iff :
    Course text dialect allowed records result ↔
      emissions text dialect allowed = records ∧
        (report .sql text dialect allowed).result = result := by
  constructor
  · exact emissions_of_course
  · rintro ⟨rfl, rfl⟩
    obtain ⟨records, result, hCourse⟩ := exists_course text dialect allowed
    obtain ⟨hRecords, hResult⟩ := emissions_of_course hCourse
    rwa [hRecords, hResult]

/-- The way that a check goes. -/
theorem course_report (text dialect : String) (allowed : Option AllowList) :
    Course text dialect allowed (emissions text dialect allowed)
      (report .sql text dialect allowed).result :=
  course_iff.mpr ⟨rfl, rfl⟩

/-- The levels of the records on the way to a result. -/
def levels : Except GuardError Report → List Level
  | .ok _ => [.debug, .debug]
  | .error (.disallowedStatement _) => [.debug, .warn]
  | .error (.disallowedTable _) => [.debug, .debug, .warn]
  | .error _ => []

/-- No record of a check is an error, nor does one go without notice. -/
theorem debug_or_warn_of_mem_levels {level : Level} (h : level ∈ levels result) :
    level = .debug ∨ level = .warn := by
  unfold levels at h
  split at h
  · exact Or.inl (by simpa using h)
  · simpa using h
  · simpa using h
  · cases h

/-- The warning that a result calls for. -/
def warning? : Except GuardError Report → Option Emitted
  | .error (.disallowedStatement kind) => some (.rejectedStatement kind)
  | .error (.disallowedTable tables) => some (.rejectedTables tables)
  | _ => none

/-- The result of a check tells the levels of its records, and with them how many there are. The
texts depend on more than the result, such as the number of statements. -/
theorem levels_of_course (h : Course text dialect allowed records result) :
    records.map (·.level) = levels result := by
  cases h with
  | unknownDialect _ => rfl
  | malformed _ _ => rfl
  | empty _ _ => rfl
  | forbidden _ _ => rfl
  | accepted _ _ _ _ => rfl
  | unlisted _ _ _ _ _ => rfl

/-- The records of a check that are warnings are the one that its result calls for, if it calls for
one. A script that cannot be read calls for none: nothing has been refused yet. -/
theorem warnings_of_course (h : Course text dialect allowed records result) :
    records.filter (·.level = .warn) = (warning? result).toList := by
  cases h with
  | unknownDialect _ => rfl
  | malformed _ _ => rfl
  | empty _ _ => rfl
  | forbidden _ _ => rfl
  | accepted _ _ _ _ => rfl
  | unlisted _ _ _ _ _ => rfl

/-- A result calls for a warning exactly if it is a violation of the policy. -/
theorem isSome_warning?_iff :
    (warning? result).isSome = true ↔ ∃ e, result = .error e ∧ e.isPolicyViolation = true := by
  cases result with
  | ok report => simp [warning?]
  | error e => cases e <;> simp [warning?, GuardError.isPolicyViolation]

/-- So many texts have a property. -/
def Counts (count : Nat) (p : String → Prop) : Prop :=
  ∃ names : List String, names.Nodup ∧ (∀ a, a ∈ names ↔ p a) ∧ count = names.length

/-- The names of a set are as many as it lists. `Counts` asks for any list of the names without
repetition, so it says the size of a set without its representation. -/
theorem counts_iff {count : Nat} {s : NameSet} {p : String → Prop} (hp : ∀ a, a ∈ s ↔ p a) :
    Counts count p ↔ count = s.toList.length := by
  constructor
  · rintro ⟨names, hNodup, hMem, rfl⟩
    -- the names of a set without repetition are those it lists, but for the order
    have hPerm : names.Perm s.toList :=
      (List.perm_ext_iff_of_nodup hNodup s.nodup_toList).mpr fun a => (hMem a).trans (hp a).symm
    exact hPerm.length_eq
  · intro h
    exact ⟨s.toList, s.nodup_toList, hp, h⟩

/-- The record of a validation, for a tree and the tables extracted from it. -/
theorem validation_iff {n : Tree.Node} {tableCount cteCount : Nat} :
    (tableCount = n.baseTables.toList.length ∧ cteCount = n.cteNames.toList.length) ↔
      Counts tableCount (· ∈ n.baseTables) ∧
        Counts cteCount fun a => ∃ m ∈ n.walk, m.kind = .cte ∧ m.aliasName? = some a := by
  rw [counts_iff (fun _ => Iff.rfl), counts_iff (fun _ => Tree.mem_cteNames)]

/-- A validation is recorded exactly on the ways on which tables are extracted, with their number
and that of the names of common table expressions. -/
theorem mem_validated_of_course (h : Course text dialect allowed records result)
    {tableCount cteCount : Nat} :
    .validated tableCount cteCount ∈ records ↔
      ∃ n tables, (sql text dialect).result = .ok n ∧
        (extract .sql text dialect).result = .ok tables ∧ Counts tableCount (· ∈ tables) ∧
          Counts cteCount fun a => ∃ m ∈ n.walk, m.kind = .cte ∧ m.aliasName? = some a := by
  cases h with
  -- without a script nothing is extracted either
  | unknownDialect h => simp [sql_of_unknown h]
  | malformed hDialect h => simp [sql_of_malformed hDialect h]
  | empty hDialect h => simp [sql_of_empty hDialect h]
  | forbidden hReads hKind =>
    have hSql := sql_of_reads hReads
    simp [hSql, extract_of_forbidden hSql hKind]
  -- the two courses with such a record, whose sizes are those of the extracted sets
  | accepted hReads hTree hNone _ =>
    subst hTree
    have hSql := sql_of_reads hReads
    simp [hSql, extract_of_accepted hSql hNone, Emitted.validated_inj, validation_iff]
  | unlisted hReads hTree hNone _ _ =>
    subst hTree
    have hSql := sql_of_reads hReads
    simp [hSql, extract_of_accepted hSql hNone, Emitted.validated_inj, validation_iff]

/-- **The records of a check tell its result.** A check of a text goes exactly one of the ways of
`Course`: it emits nothing if the text is not read; that it was read and the warning of a disallowed
statement; that it was read and validated; or these two and the warning of tables that are not
allowed. A warning names what the failure names: its text is that of the kind, or of the list of
tables, and of no other. There is one exactly if the script is rejected by the policy, and none
exactly if it is not. And the record of the validation counts the tables that were extracted and the
names of common table expressions; its text tells both counts. -/
theorem report_faithful (text dialect : String) (allowed : Option AllowList) :
    (∀ records result, Course text dialect allowed records result ↔
      emissions text dialect allowed = records ∧
        (report .sql text dialect allowed).result = result) ∧
    (emissions text dialect allowed).map (·.level) =
      levels (report .sql text dialect allowed).result ∧
    (emissions text dialect allowed).filter (·.level = .warn) =
      (warning? (report .sql text dialect allowed).result).toList ∧
    (∀ kind kind', Emitted.rejectedStatement kind = .rejectedStatement kind' ↔ kind = kind') ∧
    (∀ tables tables', Emitted.rejectedTables tables = .rejectedTables tables' ↔
      tables = tables') ∧
    (((emissions text dialect allowed).filter (·.level = .warn)).length = 1 ↔
      ∃ e, (report .sql text dialect allowed).result = .error e ∧ e.isPolicyViolation = true) ∧
    ((emissions text dialect allowed).filter (·.level = .warn) = [] ↔
      ¬ ∃ e, (report .sql text dialect allowed).result = .error e ∧ e.isPolicyViolation = true) ∧
    (∀ tableCount cteCount,
      .validated tableCount cteCount ∈ emissions text dialect allowed ↔
        ∃ n tables, (sql text dialect).result = .ok n ∧
          (extract .sql text dialect).result = .ok tables ∧ Counts tableCount (· ∈ tables) ∧
            Counts cteCount fun a => ∃ m ∈ n.walk, m.kind = .cte ∧ m.aliasName? = some a) ∧
    ∀ tableCount cteCount tableCount' cteCount',
      Emitted.validated tableCount cteCount = .validated tableCount' cteCount' ↔
        tableCount = tableCount' ∧ cteCount = cteCount' := by
  -- there is one course for each check; levels, warnings and sizes are read off it
  have hCourse := course_report text dialect allowed
  have hWarnings := warnings_of_course hCourse
  refine ⟨fun _ _ => course_iff, levels_of_course hCourse, hWarnings,
    fun _ _ => Emitted.rejectedStatement_inj, fun _ _ => Emitted.rejectedTables_inj, ?_, ?_,
    fun _ _ => mem_validated_of_course hCourse, fun _ _ _ _ => Emitted.validated_inj⟩
  · rw [hWarnings, ← isSome_warning?_iff]
    cases warning? (report .sql text dialect allowed).result with
    | none => simp
    | some e => simp
  · rw [hWarnings, ← isSome_warning?_iff]
    cases warning? (report .sql text dialect allowed).result with
    | none => simp
    | some e => simp

example : emissions "WITH a AS (SELECT * FROM t) SELECT * FROM a, u" "mysql"
    (some (.ofList ["u"])) = [.parsed 1 "mysql", .validated 2 1, .rejectedTables ["t"]] := by
  decide +kernel

end Guard

end QueryGuard
