import Mathlib.Data.List.Forall2
import QueryGuard.Proofs.AuditTrail

/-!
# Spellings — how a dialect is spelled shows only where it is echoed

A dialect may be named with blanks around its name and in any case. Two names that are equal but for
these are two spellings, and a script checked under one is checked as under the other. What was
asked for is echoed as it stands at four places: in the record of what was read, in the failure for
a text that is no script, in the failure for an unknown dialect, and in the report. Nothing else may
differ.

This is a statement about two runs. `Audited.Alike` relates runs that record alike and end alike,
and says of each pair of records and reasons which spelling stands where. Chains of steps that are
alike are alike, so each stage of a check is looked at once, and only the reader has to know of
dialects.

Main results:

* `Dialect.ofName?_eq_of_plainName` — spellings of one name stand for one dialect.
* `Audited.Alike.bind` — chains of alike steps.
* `ScriptReader.alike_sql` — the reader under two spellings.
* `Guard.alike_extract` / `Guard.alike_authorize` / `Guard.alike_report` — the checks, for any
  reader that is alike.
* `spelling_only_echoed` — **the spelling of a dialect is echoed and does nothing else.**
-/

namespace QueryGuard

-- ---------------------------------------------------------------------------
-- Names
-- ---------------------------------------------------------------------------

namespace Dialect

/-- A name without the blanks at its ends and with its ASCII capitals in lower case. Two names are
spellings of one if this is the same. -/
def plainName (name : String) : String :=
  String.ofList ((Text.trimChars name.toList).map Char.toLower)

/-- Only a capital changes, and its code grows by 32. This is said of codes, so that two ways of
lowering can be compared by arithmetic. -/
theorem toLower_cases (c : Char) :
    (65 ≤ c.toNat ∧ c.toNat ≤ 90 ∧ c.toLower.toNat = c.toNat + 32) ∨ c.toLower = c := by
  by_cases hUpper : c.val ≥ 'A'.val ∧ c.val ≤ 'Z'.val
  · have hLow : 65 ≤ c.toNat := hUpper.1
    have hHigh : c.toNat ≤ 90 := hUpper.2
    have hCode : c.toLower.val = c.val + 32 := congrArg Char.val (dif_pos hUpper)
    refine Or.inl ⟨hLow, hHigh, ?_⟩
    show c.toLower.val.toNat = c.toNat + 32
    rw [hCode, UInt32.toNat_add]
    exact Nat.mod_eq_of_lt (Nat.lt_of_le_of_lt (Nat.add_le_add_right hHigh 32) (by decide))
  · exact Or.inr (dif_neg hUpper)

/-- Of two foldings to lower case, the first that knows fewer letters does nothing more. -/
theorem foldChar_toLower (c : Char) : foldChar c.toLower = foldChar c := by
  rcases toLower_cases c with ⟨hLow, hHigh, hCode⟩ | hSame
  · have hStays : c.toLower.toLower = c.toLower := by
      rcases toLower_cases c.toLower with ⟨-, hHigh', -⟩ | hSame
      · omega
      · exact hSame
    rw [foldChar, foldChar, if_neg (by omega), if_neg (by omega), hStays]
  · rw [hSame]

/-- Names are folded in two steps: the ASCII capitals, which make spellings of one name, and then
the other letters. -/
theorem foldName_eq (name : String) :
    foldName name = String.ofList ((plainName name).toList.map foldChar) := by
  rw [foldName, plainName, String.toList_ofList, List.map_map]
  exact congrArg _ (List.map_congr_left fun c _ => (foldChar_toLower c).symm)

/-- Spellings of one name are looked up alike. -/
theorem ofName?_eq_of_plainName {a b : String} (h : plainName a = plainName b) :
    ofName? a = ofName? b := by
  rw [ofName?, ofName?, foldName_eq, foldName_eq, h]

end Dialect

-- ---------------------------------------------------------------------------
-- Where a spelling is echoed
-- ---------------------------------------------------------------------------

/-- The same record, with the spelling of its run if it has one. -/
inductive Event.Echo (a b : String) : Event → Event → Prop where
  | parsed (statements : Nat) : Echo a b (.parsed statements a) (.parsed statements b)
  | other {e : Event} (h : ∀ statements dialect, e ≠ .parsed statements dialect) : Echo a b e e

/-- The same reason of a reader, with the spelling of its run if it has one. -/
inductive ReadError.Echo (a b : String) : ReadError → ReadError → Prop where
  | malformed (message : String) : Echo a b (.malformed message) (.malformed message)
  | unknownDialect : Echo a b (.unknownDialect a) (.unknownDialect b)

/-- The same reason of a check, with the spelling of its run if it has one. -/
inductive GuardError.Echo (a b : String) : GuardError → GuardError → Prop where
  | invalidSyntax (message : String) :
    Echo a b (.invalidSyntax a message) (.invalidSyntax b message)
  | unsupportedDialect : Echo a b (.unsupportedDialect a) (.unsupportedDialect b)
  | disallowedStatement (kind : String) :
    Echo a b (.disallowedStatement kind) (.disallowedStatement kind)
  | disallowedTable (tables : List String) :
    Echo a b (.disallowedTable tables) (.disallowedTable tables)

/-- The same tables, each with the spelling of its run. -/
structure Report.Echo (a b : String) (r s : Report) : Prop where
  first : r.dialect = a
  second : s.dialect = b
  tables : r.tables = s.tables

/-- A reader's reasons are put in the terms of a check with the spelling of each run. -/
theorem ReadError.Echo.ofReadError {a b : String} {e f : ReadError} (h : ReadError.Echo a b e f) :
    GuardError.Echo a b (.ofReadError a e) (.ofReadError b f) := by
  cases h with
  | malformed message => exact .invalidSyntax message
  | unknownDialect => exact .unsupportedDialect

-- ---------------------------------------------------------------------------
-- Two runs
-- ---------------------------------------------------------------------------

/-- Both succeed, with related values, or both fail, for related reasons. -/
inductive Outcomes {ε α : Type} (E : ε → ε → Prop) (R : α → α → Prop) :
    Except ε α → Except ε α → Prop where
  | ok {u v : α} (h : R u v) : Outcomes E R (.ok u) (.ok v)
  | error {e f : ε} (h : E e f) : Outcomes E R (.error e) (.error f)

namespace Audited

/-- Two runs under two spellings: they record the same and end alike. -/
structure Alike {ε α : Type} (a b : String) (E : ε → ε → Prop) (R : α → α → Prop)
    (x y : Audited ε α) : Prop where
  events : List.Forall₂ (Event.Echo a b) x.events y.events
  result : Outcomes E R x.result y.result

variable {ε α β : Type} {a b : String} {E : ε → ε → Prop} {R : α → α → Prop} {S : β → β → Prop}

/-- Steps that record nothing and give related values are alike. -/
theorem Alike.pure {u v : α} (h : R u v) : Alike a b E R (Pure.pure u) (Pure.pure v) :=
  ⟨.nil, .ok h⟩

/-- **Chains of steps that are alike are alike.** If the first fails, both chains end there for
related reasons; if it succeeds, they go on with related values. The records of both go on behind
each other in either case. -/
theorem Alike.bind {x y : Audited ε α} (h : Alike a b E R x y) {f g : α → Audited ε β}
    (hNext : ∀ u v, R u v → Alike a b E S (f u) (g v)) :
    Alike a b E S (x >>= f) (y >>= g) := by
  obtain ⟨xEvents, xResult⟩ := x
  obtain ⟨yEvents, yResult⟩ := y
  obtain ⟨hEvents, hResult⟩ := h
  -- both have failed, or both go on
  cases hResult with
  | error hReason => exact ⟨hEvents, .error hReason⟩
  | ok hValues =>
    obtain ⟨hMore, hEnd⟩ := hNext _ _ hValues
    exact ⟨List.rel_append hEvents hMore, hEnd⟩

end Audited

-- ---------------------------------------------------------------------------
-- The stages
-- ---------------------------------------------------------------------------

open Audited

variable {a b : String}

/-- **The reader.** It gives the same tree, the same message, or each its own name: the name is
trimmed and lowered for the lookup and for nothing else, and is echoed as it was given. -/
theorem ScriptReader.alike_sql (h : Dialect.plainName a = Dialect.plainName b) (text : String) :
    Alike a b (ReadError.Echo a b) Eq (sql text a) (sql text b) := by
  have hName := Dialect.ofName?_eq_of_plainName h
  -- both runs look up one dialect, read one text, and find the same statements in it
  cases hDialect : Dialect.ofName? a with
  | none =>
    rw [sql_of_unknown hDialect, sql_of_unknown (hName ▸ hDialect)]
    exact ⟨.nil, .error .unknownDialect⟩
  | some d =>
    cases hParse : Sql.parse d text with
    | error e =>
      rw [sql_of_malformed hDialect hParse, sql_of_malformed (hName ▸ hDialect) hParse]
      exact ⟨.nil, .error (.malformed _)⟩
    | ok statements =>
      by_cases hEmpty : statements = []
      · subst hEmpty
        rw [sql_of_empty hDialect hParse, sql_of_empty (hName ▸ hDialect) hParse]
        exact ⟨.nil, .error (.malformed _)⟩
      · rw [sql_of_reads ⟨d, hDialect, hParse, hEmpty⟩,
          sql_of_reads ⟨d, hName ▸ hDialect, hParse, hEmpty⟩]
        exact ⟨.cons (.parsed _) .nil, .ok rfl⟩

/-- Classifying a tree does not look at the name of the dialect. -/
theorem Tree.alike_classify (n : Node) :
    Alike a b (GuardError.Echo a b) Eq (classify n) (classify n) := by
  cases hKind : n.disallowed? with
  | none =>
    rw [classify_of_none hKind]
    exact ⟨.nil, .ok rfl⟩
  | some kind =>
    rw [classify_of_some hKind]
    exact ⟨.cons (.other (by simp)) .nil, .error (.disallowedStatement _)⟩

theorem AllowList.alike_check (allowed : AllowList) (tables : NameSet) :
    Alike a b (GuardError.Echo a b) Eq (allowed.check tables) (allowed.check tables) := by
  by_cases hAll : ∀ t ∈ tables, t ∈ allowed.tables
  · rw [check_of_all hAll]
    exact ⟨.nil, .ok rfl⟩
  · rw [check_of_not_all hAll]
    exact ⟨.cons (.other (by simp)) .nil, .error (.disallowedTable _)⟩

namespace Guard

variable {read : ScriptReader} {text : String}

/-- A failure of the reader is put in terms of the guard with the spelling of the run. A tree is
the same under both spellings. -/
theorem alike_tree (hRead : Alike a b (ReadError.Echo a b) Eq (read text a) (read text b)) :
    Alike a b (GuardError.Echo a b) Eq (tree read text a) (tree read text b) := by
  obtain ⟨hEvents, hResult⟩ := hRead
  refine ⟨hEvents, ?_⟩
  rw [result_tree, result_tree]
  revert hResult
  generalize (read text a).result = x, (read text b).result = y
  intro hResult
  cases hResult with
  | ok hTree => exact .ok hTree
  | error hReason => exact .error hReason.ofReadError

/-- From here on the stages follow those of a check: each is a chain of ones that are alike. -/
theorem alike_extract (hRead : Alike a b (ReadError.Echo a b) Eq (read text a) (read text b)) :
    Alike a b (GuardError.Echo a b) Eq (extract read text a) (extract read text b) := by
  refine (alike_tree hRead).bind ?_
  rintro n _ rfl
  refine (Tree.alike_classify n).bind fun _ _ _ => ?_
  exact ⟨.cons (.other (by simp)) .nil, .ok rfl⟩

/-- The list is looked at behind the extraction, and is the same for both runs. -/
theorem alike_authorize (hRead : Alike a b (ReadError.Echo a b) Eq (read text a) (read text b))
    (allowed : AllowList) :
    Alike a b (GuardError.Echo a b) Eq (authorize read text a allowed)
      (authorize read text b allowed) := by
  refine (alike_extract hRead).bind ?_
  rintro tables _ rfl
  exact (allowed.alike_check tables).bind fun _ _ _ => .pure rfl

/-- A report echoes the spelling beside the same tables. That is all of the name that a check gives
out, failures and records apart. -/
theorem alike_report (hRead : Alike a b (ReadError.Echo a b) Eq (read text a) (read text b))
    (allowed : Option AllowList) :
    Alike a b (GuardError.Echo a b) (Report.Echo a b) (report read text a allowed)
      (report read text b allowed) := by
  have hTables : Alike a b (GuardError.Echo a b) Eq (tables read text a allowed)
      (tables read text b allowed) := by
    cases allowed with
    | none => exact alike_extract hRead
    | some allowed => exact alike_authorize hRead allowed
  refine hTables.bind ?_
  rintro names _ rfl
  exact .pure ⟨rfl, rfl, rfl⟩

/-- **The spelling of a dialect is echoed and does nothing else.** Under two spellings of a name, a
text is read as the same tree, is refused with the same message, or is refused because of the name,
which each run gives as it was asked. So the tables of a script, with an allow-list or without, are
the same, or there is the same reason why there are none; the reports have the same tables; and the
records are the same. They differ in the spelling alone, wherever it is echoed. -/
theorem spelling_only_echoed (h : Dialect.plainName a = Dialect.plainName b) (text : String) :
    Alike a b (ReadError.Echo a b) Eq (ScriptReader.sql text a) (ScriptReader.sql text b) ∧
    Alike a b (GuardError.Echo a b) Eq (extract .sql text a) (extract .sql text b) ∧
    (∀ allowed, Alike a b (GuardError.Echo a b) Eq (authorize .sql text a allowed)
      (authorize .sql text b allowed)) ∧
    ∀ allowed, Alike a b (GuardError.Echo a b) (Report.Echo a b) (report .sql text a allowed)
      (report .sql text b allowed) := by
  have hRead := ScriptReader.alike_sql h text
  exact ⟨hRead, alike_extract hRead, alike_authorize hRead, alike_report hRead⟩

/-- A name with blanks and capitals, and the plain one. -/
theorem spelling_only_echoed_padded :
    Dialect.plainName "\u2003PostGres\n" = Dialect.plainName "postgres" ∧
    Alike "\u2003PostGres\n" "postgres" (GuardError.Echo "\u2003PostGres\n" "postgres")
      (Report.Echo "\u2003PostGres\n" "postgres")
      (report .sql "SELECT * FROM t" "\u2003PostGres\n" none)
      (report .sql "SELECT * FROM t" "postgres" none) ∧
    (report .sql "SELECT * FROM t" "\u2003PostGres\n" none).result =
      .ok ⟨"\u2003PostGres\n", ["t"]⟩ := by
  have hName : Dialect.plainName "\u2003PostGres\n" = Dialect.plainName "postgres" := by
    decide +kernel
  obtain ⟨-, -, -, hReport⟩ := spelling_only_echoed hName "SELECT * FROM t"
  exact ⟨hName, hReport none, by decide +kernel⟩

end Guard

end QueryGuard
