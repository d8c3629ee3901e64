import QueryGuard.Guard

/-!
# Checks by their stages

A check is a chain of audited steps: read the text, classify the tree, gather its tables, compare
them. What such a chain gives is opened here once, at the steps' results: the chain gives a result
exactly if each step does, in turn (`Audited.result_bind_eq_ok`). Later proofs name the results of
the stages and never look into a chain.

Main results:

* `ScriptReader.result_sql_eq_ok` — the reader of SQL gives the trees of scripts.
* `Guard.result_extract_eq_ok` — when tables are extracted, and which.
-/

namespace QueryGuard

-- ---------------------------------------------------------------------------
-- Audited steps
-- ---------------------------------------------------------------------------

namespace Audited

variable {ε δ α β : Type}

/-- What a chain gives, by what its steps give. -/
theorem result_bind (x : Audited ε α) (f : α → Audited ε β) :
    (x >>= f).result = x.result.bind fun a => (f a).result := by
  obtain ⟨events, result⟩ := x
  cases result with
  | ok a => rfl
  | error e => rfl

theorem result_bind_pure (x : Audited ε α) (g : α → β) :
    (x >>= fun a => pure (g a)).result = x.result.map g := by
  rw [result_bind]
  cases x.result with
  | ok a => rfl
  | error e => rfl

/-- A chain gives something exactly if its steps do. Records are left aside here; they are told
apart in the modules about them. -/
theorem result_bind_eq_ok {x : Audited ε α} {f : α → Audited ε β} {b : β} :
    (x >>= f).result = .ok b ↔ ∃ a, x.result = .ok a ∧ (f a).result = .ok b := by
  obtain ⟨events, result⟩ := x
  cases result with
  | ok a =>
    show (f a).result = .ok b ↔ ∃ a', Except.ok a = Except.ok a' ∧ (f a').result = .ok b
    simp
  | error e =>
    show Except.error e = Except.ok b ↔ ∃ a, Except.error e = Except.ok a ∧ (f a).result = .ok b
    simp

/-- Failures put in other terms leave what is given as it is. -/
theorem result_mapError_eq_ok {x : Audited ε α} {f : ε → δ} {a : α} :
    (x.mapError f).result = .ok a ↔ x.result = .ok a := by
  obtain ⟨events, result⟩ := x
  cases result with
  | ok a' =>
    show Except.ok a' = Except.ok a ↔ Except.ok a' = Except.ok a
    simp
  | error e =>
    show Except.error (f e) = Except.ok a ↔ Except.error e = Except.ok a
    simp

end Audited

-- ---------------------------------------------------------------------------
-- The stages of a check
-- ---------------------------------------------------------------------------

/-- The reader of SQL gives a tree exactly for a known dialect and a text that is a script in it,
and then it is the tree of that script. A text without statements is no script. -/
theorem ScriptReader.result_sql_eq_ok {text name : String} {n : Tree.Node} :
    (ScriptReader.sql text name).result = .ok n ↔
      ∃ d statements, ScriptReader.dialect name = .ok d ∧
        ScriptReader.script d text = .ok statements ∧ n = Tree.ofScript statements := by
  unfold ScriptReader.sql
  cases hDialect : ScriptReader.dialect name with
  | error e => simp [Audited.fail]
  | ok d =>
    cases hScript : ScriptReader.script d text with
    | error e => simp [Audited.fail, hScript]
    | ok statements =>
      simp only [hScript]
      -- what remains is the record of the number of statements, which changes nothing
      rw [Audited.result_bind_eq_ok]
      constructor
      · rintro ⟨_, -, hPure⟩
        injection hPure with hTree
        exact ⟨d, statements, rfl, hScript, hTree.symm⟩
      · rintro ⟨d', statements', hd, hStatements, rfl⟩
        injection hd with hd
        subst hd
        rw [hScript] at hStatements
        injection hStatements with hStatements
        subst hStatements
        exact ⟨(), rfl, rfl⟩

/-- Tables are extracted exactly if the reader gives a tree that is accepted, and they are the base
tables of that tree. This is said for any reader, so that others than that of SQL can take its
place. -/
theorem Guard.result_extract_eq_ok {read : ScriptReader} {text name : String}
    {tables : NameSet} :
    (Guard.extract read text name).result = .ok tables ↔
      ∃ n, (read text name).result = .ok n ∧ (Tree.classify n).result = .ok () ∧
        tables = n.baseTables := by
  unfold Guard.extract Guard.tree
  rw [Audited.result_bind_eq_ok]
  constructor
  · rintro ⟨n, hTree, hRest⟩
    -- the second step gives no value, and the record behind it none either
    obtain ⟨_, hClassify, hRest⟩ := Audited.result_bind_eq_ok.mp hRest
    obtain ⟨_, -, hPure⟩ := Audited.result_bind_eq_ok.mp hRest
    injection hPure with hTables
    exact ⟨n, Audited.result_mapError_eq_ok.mp hTree, hClassify, hTables.symm⟩
  · rintro ⟨n, hTree, hClassify, rfl⟩
    refine ⟨n, Audited.result_mapError_eq_ok.mpr hTree, ?_⟩
    exact Audited.result_bind_eq_ok.mpr
      ⟨(), hClassify, Audited.result_bind_eq_ok.mpr ⟨(), rfl, rfl⟩⟩

end QueryGuard
