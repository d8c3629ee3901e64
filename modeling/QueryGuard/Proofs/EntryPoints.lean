import QueryGuard.Proofs.Classification
import QueryGuard.Proofs.Stages

/-!
# Entry points — one verdict, whichever check is asked for

A caller may ask whether a text only reads, for its tables, for its tables under an allow-list, or
for a report. These share their stages: each is a chain that begins with the one before it. So they
succeed and fail together as far as they go together, with the same reason, and a later stage adds
one reason of its own. Nothing here depends on the reader; it may give any tree and fail in any way.

A failure is put down to the policy exactly if the reader gave a tree. Before that there is only the
reader to fail, and after that there are only forbidden statements and forbidden tables.

Main results:

* `result_extract` / `result_authorize` / `result_report` — each check by the one before it.
* `isPolicyViolation_of_fails` — which failures are put down to the policy.
* `entry_points_agree` — **the checks agree**, for any reader, text, dialect and allow-list.
-/

namespace QueryGuard

-- ---------------------------------------------------------------------------
-- The allow-list
-- ---------------------------------------------------------------------------

namespace AllowList

/-- What an allow-list says of some tables. -/
theorem result_check (a : AllowList) (tables : NameSet) :
    (a.check tables).result =
      if (a.offenders tables).toList.isEmpty then .ok ()
      else .error (.disallowedTable (a.offenders tables).toList) := by
  unfold check
  dsimp only
  split
  · rfl
  · rfl

/-- There are no tables to report exactly if all tables are listed. -/
theorem isEmpty_offenders {a : AllowList} {tables : NameSet} :
    (a.offenders tables).toList.isEmpty = true ↔ ∀ t ∈ tables, t ∈ a.tables := by
  simp [offenders, NameSet.diff, NameSet.mem_def]

/-- A set of tables is let through exactly if each of them is on the list. How the list is kept
does not matter. -/
theorem result_check_eq_ok {a : AllowList} {tables : NameSet} :
    (a.check tables).result = .ok () ↔ ∀ t ∈ tables, t ∈ a.tables := by
  rw [result_check, ← isEmpty_offenders]
  split
  · rename_i hEmpty
    simp [hEmpty]
  · rename_i hEmpty
    simp [hEmpty]

/-- A list has no other reason to fail than tables that are not on it. -/
theorem eq_disallowedTable_of_check {a : AllowList} {tables : NameSet} {e : GuardError}
    (h : (a.check tables).result = .error e) : ∃ names, e = .disallowedTable names := by
  rw [result_check] at h
  split at h
  · cases h
  · injection h with h
    exact ⟨_, h.symm⟩

end AllowList

/-- A tree has no other reason to fail than a statement it holds. So a failure for another reason
comes from before the classification or from behind it. -/
theorem Tree.eq_disallowedStatement_of_classify {n : Tree.Node} {e : GuardError}
    (h : (Tree.classify n).result = .error e) : ∃ kind, e = .disallowedStatement kind := by
  rw [Tree.result_classify] at h
  cases hKind : n.disallowed? with
  | none =>
    rw [hKind] at h
    cases h
  | some kind =>
    rw [hKind] at h
    injection h with h
    exact ⟨_, h.symm⟩

/-- A text that cannot be read is no violation of a policy, whichever way it fails. -/
theorem GuardError.isPolicyViolation_ofReadError (dialect : String) (cause : ReadError) :
    (GuardError.ofReadError dialect cause).isPolicyViolation = false := by
  cases cause with
  | malformed message => rfl
  | unknownDialect name => rfl

-- ---------------------------------------------------------------------------
-- Each check by the one before it
-- ---------------------------------------------------------------------------

namespace Guard

section Results

variable (read : ScriptReader) (sql dialect : String)

/-- The tree of a text is what the reader gives; only its failures are put in terms of the
guard. -/
theorem result_tree :
    (tree read sql dialect).result =
      (read sql dialect).result.mapError (.ofReadError dialect) := rfl

/-- The first entry point: the tree is read, and classified. -/
theorem result_readOnly :
    (readOnly read sql dialect).result =
      (tree read sql dialect).result.bind fun n => (Tree.classify n).result := by
  rw [readOnly, Audited.result_bind]

/-- The second: behind the reader and the classifier the base tables are taken off the tree. So it
fails as one of those two, or gives what the tree says. -/
theorem result_extract :
    (extract read sql dialect).result =
      (tree read sql dialect).result.bind fun n =>
        (Tree.classify n).result.map fun _ => n.baseTables := by
  rw [extract, Audited.result_bind]
  congr 1
  funext n
  rw [Audited.result_bind]
  cases (Tree.classify n).result with
  | error e => rfl
  | ok _ => rfl

/-- A check for reading only is an extraction that forgets the tables. -/
theorem result_readOnly_eq_map :
    (readOnly read sql dialect).result = (extract read sql dialect).result.map fun _ => () := by
  rw [result_readOnly, result_extract]
  cases (tree read sql dialect).result with
  | error e => rfl
  | ok n =>
    show (Tree.classify n).result =
      Except.map (fun _ => ()) ((Tree.classify n).result.map fun _ => n.baseTables)
    cases (Tree.classify n).result with
    | error e => rfl
    | ok _ => rfl

/-- The third: behind the second its tables are compared with a list, and passed on unchanged if
they are on it. So its failures are those of the second, and one more. -/
theorem result_authorize (allowed : AllowList) :
    (authorize read sql dialect allowed).result =
      (extract read sql dialect).result.bind fun tables =>
        (allowed.check tables).result.map fun _ => tables := by
  rw [authorize, Audited.result_bind]
  congr 1
  funext tables
  exact Audited.result_bind_pure (allowed.check tables) fun _ => tables

/-- The last: it changes what is given and never whether it is. With a list it stands behind the
third entry point, without one behind the second. -/
theorem result_report (allowed : Option AllowList) :
    (report read sql dialect allowed).result =
      (tables read sql dialect allowed).result.map (.ofTables dialect) :=
  Audited.result_bind_pure (tables read sql dialect allowed) (Report.ofTables dialect)

end Results

variable {read : ScriptReader} {sql dialect : String}

/-- Under a list a text gives exactly the tables it gives without one, provided they are all
listed. -/
theorem result_authorize_eq_ok {allowed : AllowList} {tables : NameSet} :
    (authorize read sql dialect allowed).result = .ok tables ↔
      (extract read sql dialect).result = .ok tables ∧ ∀ t ∈ tables, t ∈ allowed.tables := by
  rw [result_authorize]
  cases (extract read sql dialect).result with
  | error e => simp [Except.bind]
  | ok found =>
    simp only [Except.bind, Except.ok.injEq]
    -- what is compared is what was extracted, so the two sides speak of one set
    rw [← AllowList.result_check_eq_ok]
    cases hCheck : (allowed.check found).result with
    | error e =>
      simp only [Except.map, reduceCtorEq, false_iff, not_and]
      rintro rfl
      simp [hCheck]
    | ok _ =>
      simp only [Except.map, Except.ok.injEq]
      constructor
      · rintro rfl
        exact ⟨rfl, hCheck⟩
      · exact fun h => h.1

/-- An allow-list fails as the extraction does, or for forbidden tables. Which of the two it is can
be told from the extraction alone. -/
theorem result_authorize_eq_error {allowed : AllowList} {e : GuardError}
    (h : (authorize read sql dialect allowed).result = .error e) :
    (extract read sql dialect).result = .error e ∨
      ∃ tables names, (extract read sql dialect).result = .ok tables ∧
        e = .disallowedTable names := by
  rw [result_authorize] at h
  -- either the extraction has failed, and that is the failure, or the list has
  cases hExtract : (extract read sql dialect).result with
  | error cause =>
    rw [hExtract] at h
    exact Or.inl h
  | ok tables =>
    simp only [hExtract, Except.bind] at h
    cases hCheck : (allowed.check tables).result with
    | ok _ =>
      rw [hCheck] at h
      cases h
    | error cause =>
      rw [hCheck] at h
      injection h with h
      subst h
      obtain ⟨names, hNames⟩ := AllowList.eq_disallowedTable_of_check hCheck
      exact Or.inr ⟨tables, names, rfl, hNames⟩

/-- A text that fails without a list fails with any list, for the same reason. The list is not
looked at. -/
theorem result_authorize_of_error (allowed : AllowList) {e : GuardError}
    (h : (extract read sql dialect).result = .error e) :
    (authorize read sql dialect allowed).result = .error e := by
  rw [result_authorize, h]
  rfl

/-- An extraction fails as the reader does, in the words of the guard, or at the classification of
the tree that the reader gives. -/
theorem result_extract_eq_error {e : GuardError} :
    (extract read sql dialect).result = .error e ↔
      (∃ cause, (read sql dialect).result = .error cause ∧ .ofReadError dialect cause = e) ∨
        ∃ n, (read sql dialect).result = .ok n ∧ (Tree.classify n).result = .error e := by
  rw [result_extract, result_tree]
  cases (read sql dialect).result with
  | error cause => simp [Except.mapError, Except.bind]
  | ok n =>
    simp only [Except.mapError, Except.bind]
    cases hClassify : (Tree.classify n).result with
    | error cause => simp [Except.map, hClassify]
    | ok _ => simp [Except.map, hClassify]

-- ---------------------------------------------------------------------------
-- Failures
-- ---------------------------------------------------------------------------

/-- Some check of a text fails for a reason. -/
inductive Fails (read : ScriptReader) (sql dialect : String) (e : GuardError) : Prop where
  | readOnly (h : (Guard.readOnly read sql dialect).result = .error e)
  | extract (h : (Guard.extract read sql dialect).result = .error e)
  | authorize {allowed : AllowList}
      (h : (Guard.authorize read sql dialect allowed).result = .error e)
  | report {allowed : Option AllowList}
      (h : (Guard.report read sql dialect allowed).result = .error e)

/-- All checks of a text fail, for one reason. -/
structure AllFail (read : ScriptReader) (sql dialect : String) (e : GuardError) : Prop where
  readOnly : (Guard.readOnly read sql dialect).result = .error e
  extract : (Guard.extract read sql dialect).result = .error e
  authorize : ∀ allowed, (Guard.authorize read sql dialect allowed).result = .error e
  report : ∀ allowed, (Guard.report read sql dialect allowed).result = .error e

theorem eq_error_of_map {α β : Type} {f : α → β} {x : Except GuardError α} {e : GuardError}
    (h : x.map f = .error e) : x = .error e := by
  cases x with
  | error cause =>
    injection h with h
    rw [h]
  | ok a => cases h

/-- Every failure is one of extraction, or is for tables that were extracted. So whatever the entry
point, there are only these two to look at. -/
theorem Fails.of_extract {e : GuardError} (h : Fails read sql dialect e) :
    (Guard.extract read sql dialect).result = .error e ∨
      ∃ tables names, (Guard.extract read sql dialect).result = .ok tables ∧
        e = .disallowedTable names := by
  -- one case for each entry point; those that extract first fail as the extraction, or by the list
  cases h with
  | readOnly h =>
    rw [result_readOnly_eq_map] at h
    exact Or.inl (eq_error_of_map h)
  | extract h => exact Or.inl h
  | authorize h => exact result_authorize_eq_error h
  | report h =>
    rename_i allowed
    rw [result_report] at h
    cases allowed with
    | none => exact Or.inl (eq_error_of_map h)
    | some allowed => exact result_authorize_eq_error (eq_error_of_map h)

/-- **Policy or input.** A failure is put down to the policy exactly if the reader gave a tree.
What comes before the tree is the fault of the input, what comes behind it has been refused. -/
theorem isPolicyViolation_of_fails {e : GuardError} (h : Fails read sql dialect e) :
    e.isPolicyViolation = true ↔ ∃ n, (read sql dialect).result = .ok n := by
  rcases h.of_extract with hExtract | ⟨tables, names, hExtract, rfl⟩
  · rcases result_extract_eq_error.mp hExtract with ⟨cause, hRead, rfl⟩ | ⟨n, hRead, hClassify⟩
    · rw [GuardError.isPolicyViolation_ofReadError, hRead]
      simp
    · obtain ⟨kind, rfl⟩ := Tree.eq_disallowedStatement_of_classify hClassify
      exact ⟨fun _ => ⟨n, hRead⟩, fun _ => rfl⟩
  · -- tables are forbidden only once they were extracted, so there was a tree
    obtain ⟨n, hRead, -, -⟩ := result_extract_eq_ok.mp hExtract
    exact ⟨fun _ => ⟨n, hRead⟩, fun _ => rfl⟩

/-- Where the reader fails, all checks do, in its terms. Extraction comes first in all of them, so
none gets to look at a tree or a list. -/
theorem allFail_of_read {cause : ReadError} (h : (read sql dialect).result = .error cause) :
    AllFail read sql dialect (.ofReadError dialect cause) := by
  -- extraction comes first in all the others, so its failure is theirs
  have hExtract := result_extract_eq_error.mpr (Or.inl ⟨cause, h, rfl⟩)
  refine ⟨?_, hExtract, fun allowed => result_authorize_of_error allowed hExtract, ?_⟩
  · rw [result_readOnly_eq_map, hExtract]
    rfl
  · intro allowed
    rw [result_report]
    cases allowed with
    | none =>
      rw [tables, hExtract]
      rfl
    | some allowed =>
      rw [tables, result_authorize_of_error allowed hExtract]
      rfl

-- ---------------------------------------------------------------------------
-- Agreement
-- ---------------------------------------------------------------------------

/-- **The checks agree, for any reader.** Extraction succeeds exactly if the reader gives a tree
that is accepted, and fails as reading and then classifying does; so it succeeds and fails with the
check for reading only. Under an allow-list there are the same tables exactly if all are allowed,
and the same failure if extraction fails; tables are forbidden only where they were extracted. A
report is made of what the check it is for gives, with the dialect asked for and the same tables. A
failure is put down to the policy exactly if the reader gave a tree, and where the reader fails, all
checks fail: with its message and the dialect asked for, or with the name that it does not know. -/
theorem entry_points_agree (read : ScriptReader) (sql dialect : String) :
    ((∃ tables, (extract read sql dialect).result = .ok tables) ↔
      ∃ n, (read sql dialect).result = .ok n ∧ (Tree.classify n).result = .ok ()) ∧
    (∀ e, (extract read sql dialect).result = .error e ↔
      (∃ cause, (read sql dialect).result = .error cause ∧ .ofReadError dialect cause = e) ∨
        ∃ n, (read sql dialect).result = .ok n ∧ (Tree.classify n).result = .error e) ∧
    (readOnly read sql dialect).result = ((extract read sql dialect).result.map fun _ => ()) ∧
    (∀ (allowed : AllowList) (tables : NameSet),
      (authorize read sql dialect allowed).result = .ok tables ↔
        (extract read sql dialect).result = .ok tables ∧ ∀ t ∈ tables, t ∈ allowed.tables) ∧
    (∀ (allowed : AllowList) (e : GuardError), (extract read sql dialect).result = .error e →
      (authorize read sql dialect allowed).result = .error e) ∧
    (∀ (allowed : AllowList) (names : List String),
      (authorize read sql dialect allowed).result = .error (.disallowedTable names) →
        ∃ tables, (extract read sql dialect).result = .ok tables) ∧
    (∀ allowed, (report read sql dialect (some allowed)).result =
      (authorize read sql dialect allowed).result.map (.ofTables dialect)) ∧
    (report read sql dialect none).result =
      (extract read sql dialect).result.map (.ofTables dialect) ∧
    (∀ tables : NameSet, (Report.ofTables dialect tables).dialect = dialect ∧
      ∀ t, t ∈ (Report.ofTables dialect tables).tables ↔ t ∈ tables) ∧
    (∀ e, Fails read sql dialect e →
      (e.isPolicyViolation = true ↔ ∃ n, (read sql dialect).result = .ok n)) ∧
    (∀ message, (read sql dialect).result = .error (.malformed message) →
      AllFail read sql dialect (.invalidSyntax dialect message)) ∧
    ∀ name, (read sql dialect).result = .error (.unknownDialect name) →
      AllFail read sql dialect (.unsupportedDialect name) := by
  refine ⟨?_, fun _ => result_extract_eq_error, result_readOnly_eq_map read sql dialect,
    fun _ _ => result_authorize_eq_ok, fun allowed _ => result_authorize_of_error allowed, ?_,
    fun _ => result_report .., result_report .., fun _ => ⟨rfl, fun _ => Iff.rfl⟩,
    fun _ => isPolicyViolation_of_fails, fun _ => allFail_of_read, fun _ => allFail_of_read⟩
  · -- a text is extracted exactly if it is read and its tree accepted
    constructor
    · rintro ⟨tables, hExtract⟩
      obtain ⟨n, hRead, hClassify, -⟩ := result_extract_eq_ok.mp hExtract
      exact ⟨n, hRead, hClassify⟩
    · rintro ⟨n, hRead, hClassify⟩
      exact ⟨n.baseTables, result_extract_eq_ok.mpr ⟨n, hRead, hClassify, rfl⟩⟩
  · intro allowed names hForbidden
    rcases result_authorize_eq_error hForbidden with hExtract | ⟨tables, _, hExtract, -⟩
    · -- extraction knows nothing of forbidden tables
      rcases result_extract_eq_error.mp hExtract with ⟨cause, -, hCause⟩ | ⟨n, -, hClassify⟩
      · cases cause with
        | malformed message => cases hCause
        | unknownDialect name => cases hCause
      · obtain ⟨kind, hKind⟩ := Tree.eq_disallowedStatement_of_classify hClassify
        cases hKind
    · exact ⟨tables, hExtract⟩

/-- Readers that give one tree, or fail in one way, whatever the text. -/
theorem entry_points_agree_constant :
    (∃ tables, (extract (fun _ _ => ⟨[], .ok (.table "t")⟩) "" "d").result = .ok tables) ∧
    (GuardError.isPolicyViolation (.disallowedTable ["t"]) = true ↔
      ∃ n, (Except.ok (.table "t") : Except ReadError Tree.Node) = .ok n) ∧
    (authorize (fun _ _ => ⟨[], .error (.malformed "m")⟩) "" "d" ⟨.empty⟩).result =
      .error (.invalidSyntax "d" "m") ∧
    AllFail (fun _ _ => ⟨[], .error (.malformed "m")⟩) "" "d" (.invalidSyntax "d" "m") ∧
    AllFail (fun _ _ => ⟨[], .error (.unknownDialect "x")⟩) "" "d" (.unsupportedDialect "x") := by
  have hForbidden : (authorize (fun _ _ => ⟨[], .ok (.table "t")⟩) "" "d" ⟨.empty⟩).result =
      .error (.disallowedTable ["t"]) := by decide +kernel
  have hMalformed : (extract (fun _ _ => ⟨[], .error (.malformed "m")⟩) "" "d").result =
      .error (.invalidSyntax "d" "m") := by decide +kernel
  obtain ⟨-, -, -, -, -, hTables, -, -, -, hPolicy, -, -⟩ :=
    entry_points_agree (fun _ _ => ⟨[], .ok (.table "t")⟩) "" "d"
  obtain ⟨-, -, -, -, hSame, -, -, -, -, -, hMessage, -⟩ :=
    entry_points_agree (fun _ _ => ⟨[], .error (.malformed "m")⟩) "" "d"
  obtain ⟨-, -, -, -, -, -, -, -, -, -, -, hName⟩ :=
    entry_points_agree (fun _ _ => ⟨[], .error (.unknownDialect "x")⟩) "" "d"
  exact ⟨hTables _ _ hForbidden, hPolicy _ (.authorize hForbidden), hSame _ _ hMalformed,
    hMessage _ rfl, hName _ rfl⟩

end Guard

end QueryGuard
