import QueryGuard.CommandLine.Run
import QueryGuard.Proofs.EntryPoints

/-!
# Restriction — when the allow-list of the environment is in force

A run takes its allow-list from a variable. If the value of the variable is a text, the list is in
force whatever the text is: an empty one, one of blanks and commas alone, and one with a faulty name
all restrict the run or stop it, and none switches the restriction off. A report then names only
tables of the list.

A variable may also hold bytes that are no text. Such a variable counts as not set, so the run goes
ahead without an allow-list, as if it had never been configured. `run_undecodable` is such a run.

Main results:

* `Config.result_ofLookup_eq_ok` — what settings an environment gives.
* `allowedTables_of_ofLookup` — the tables that settings allow are the names in the value.
* `result_report_of_check` — a run that gives a report has been checked against them.
* `ofBlock_blockOf` — the bytes of a variable are read as they are, whether or not they are a text.
* `run_congr` — of the variables a run sees their texts and nothing else.
* `run_restricted` — **a value that is a text restricts the run; any other leaves it unrestricted.**
-/

namespace QueryGuard

-- ---------------------------------------------------------------------------
-- The list of a value
-- ---------------------------------------------------------------------------

namespace TableList

/-- An entry that is accepted is taken as it stands: the check of a name does not change it. -/
theorem eq_of_entry {name found : String} (h : entry name = .ok found) : found = name := by
  unfold entry at h
  split at h
  · cases h
  · injection h with h
    exact h.symm

/-- So accepted entries are those that were there, in order: none is changed, left out or moved on
the way through the check. -/
theorem eq_of_mapM_entry {names found : List String} (h : names.mapM entry = .ok found) :
    found = names := by
  induction names generalizing found with
  | nil =>
    injection h with h
    exact h.symm
  | cons name names ih =>
    rw [List.mapM_cons] at h
    cases hName : entry name with
    | error e =>
      rw [hName] at h
      cases h
    | ok first =>
      cases hNames : names.mapM entry with
      | error e =>
        rw [hName, hNames] at h
        cases h
      | ok rest =>
        rw [hName, hNames] at h
        injection h with h
        rw [← h, eq_of_entry hName, ih hNames]

/-- A list that is acceptable is that of its names. -/
theorem eq_entries_of_parse {text : String} {names : List String} (h : parse text = .ok names) :
    names = entries text :=
  eq_of_mapM_entry h

end TableList

-- ---------------------------------------------------------------------------
-- The settings of an environment
-- ---------------------------------------------------------------------------

namespace Config

/-- The dialect that the value of its variable chooses. -/
def chosenDialect (value : Option String) : String :=
  if Text.trim (value.getD "") = "" then Guard.defaultDialect else Text.trim (value.getD "")

/-- Reading the dialect never fails. It may leave a record. -/
theorem result_readDialect (value : Option String) :
    (readDialect value).result = .ok (chosenDialect value) := by
  unfold readDialect chosenDialect
  by_cases hBlank : Text.trim (value.getD "") = ""
  · rw [if_pos hBlank, if_pos (String.isEmpty_iff.mpr hBlank)]
    rfl
  · rw [if_neg hBlank, if_neg (mt String.isEmpty_iff.mp hBlank)]
    rfl

/-- Without a value there are no tables to allow, which is no restriction; with one it has to be an
acceptable list. A value never counts as none, so none of them lifts the restriction. -/
theorem result_readTables_eq_ok {value : Option String} {tables : Option (List String)} :
    (readTables value).result = .ok tables ↔
      value = none ∧ tables = none ∨
        ∃ text names, value = some text ∧ TableList.parse text = .ok names ∧
          tables = some names := by
  cases value with
  | none =>
    constructor
    · intro h
      exact Or.inl ⟨rfl, (Except.ok.inj h).symm⟩
    · rintro (⟨-, rfl⟩ | ⟨text, names, hText, -, -⟩)
      · rfl
      · cases hText
  | some text =>
    -- a value is parsed, and only that decides
    rw [readTables]
    cases hParse : TableList.parse text with
    | error e => simp [Except.map, hParse]
    | ok names => simp [Except.map, hParse, eq_comm]

/-- Settings are those of two variables, each read apart from the other. The dialect never fails;
so they fail exactly if the tables do. -/
theorem result_ofLookup_eq_ok {lookup : String → Option String} {config : Config} :
    (ofLookup lookup).result = .ok config ↔
      config.dialect = chosenDialect (lookup dialectVariable) ∧
        (readTables (lookup TableList.variableName)).result = .ok config.allowedTables := by
  unfold ofLookup
  constructor
  · intro h
    obtain ⟨dialect, hDialect, h⟩ := Audited.result_bind_eq_ok.mp h
    obtain ⟨tables, hTables, h⟩ := Audited.result_bind_eq_ok.mp h
    have hConfig : { dialect := dialect, allowedTables := tables } = config := Except.ok.inj h
    subst hConfig
    rw [result_readDialect] at hDialect
    exact ⟨(Except.ok.inj hDialect).symm, hTables⟩
  · rintro ⟨hDialect, hTables⟩
    refine Audited.result_bind_eq_ok.mpr ⟨config.dialect, ?_, ?_⟩
    · rw [hDialect, result_readDialect]
    · exact Audited.result_bind_eq_ok.mpr ⟨config.allowedTables, hTables, rfl⟩

/-- The tables that settings allow are the names in the value of the variable; without a value
there is no list at all, which is something else than an empty one. -/
theorem allowedTables_of_ofLookup {lookup : String → Option String} {config : Config}
    (h : (ofLookup lookup).result = .ok config) :
    config.allowedTables = (lookup TableList.variableName).map TableList.entries := by
  obtain ⟨-, hTables⟩ := result_ofLookup_eq_ok.mp h
  rcases result_readTables_eq_ok.mp hTables with
    ⟨hUnset, hNone⟩ | ⟨text, names, hSet, hParse, hNames⟩
  · rw [hUnset, hNone]
    rfl
  · rw [hSet, hNames, TableList.eq_entries_of_parse hParse]
    rfl

end Config

-- ---------------------------------------------------------------------------
-- Reports under a list
-- ---------------------------------------------------------------------------

/-- A report under an allow-list names only tables of the list. It is made behind the comparison,
from the very tables that were compared. -/
theorem Guard.mem_tables_of_report {read : ScriptReader} {sql dialect : String}
    {allowed : AllowList} {report : Report}
    (h : (Guard.report read sql dialect (some allowed)).result = .ok report)
    {table : String} (hTable : table ∈ report.tables) : table ∈ allowed.tables := by
  rw [Guard.result_report, Guard.tables] at h
  cases hAuthorize : (Guard.authorize read sql dialect allowed).result with
  | error e =>
    rw [hAuthorize] at h
    cases h
  | ok tables =>
    rw [hAuthorize] at h
    injection h with h
    subst h
    exact (Guard.result_authorize_eq_ok.mp hAuthorize).2 table hTable

namespace CommandLine

-- ---------------------------------------------------------------------------
-- The list in force
-- ---------------------------------------------------------------------------

/-- The allow-list in force in an environment. -/
def Environment.allowList? (env : Environment) : Option AllowList :=
  (env.text? TableList.variableName).map fun value => .ofList (TableList.entries value)

/-- A report has been checked against the allow-list in force. There is no way to a report past the
list that the settings give. -/
theorem result_report_of_check {o : Options} {env : Environment} {input : ByteArray}
    {report : Report} (h : (check o env input).result = .ok report) :
    ∃ sql dialect, (Guard.report .sql sql dialect env.allowList?).result = .ok report := by
  unfold check at h
  obtain ⟨config, hConfig, h⟩ := Audited.result_bind_eq_ok.mp h
  obtain ⟨sql, -, h⟩ := Audited.result_bind_eq_ok.mp h
  obtain ⟨_, -, h⟩ := Audited.result_bind_eq_ok.mp h
  have hAllowed : config.allowList = env.allowList? := by
    have hTables := Config.allowedTables_of_ofLookup (Audited.result_mapError_eq_ok.mp hConfig)
    rw [Config.allowList, hTables, Option.map_map]
    rfl
  refine ⟨sql, o.dialect.getD config.dialect, ?_⟩
  rw [← hAllowed]
  exact Audited.result_mapError_eq_ok.mp h

-- ---------------------------------------------------------------------------
-- Runs
-- ---------------------------------------------------------------------------

/-- A run that checks a script and succeeds prints the report of the check. A check that fails does
not give the code for success. -/
theorem exists_report_of_run {arguments : List String} {o : Options}
    (hArguments : Request.ofArguments arguments = .validate o) {env : Environment}
    {input : ByteArray} (hCode : (run arguments env input).code = 0) :
    ∃ report, (check o env input).result = .ok report ∧
      (run arguments env input).output = report.render ++ "\n" := by
  unfold run at hCode ⊢
  simp only [hArguments, outcome] at hCode ⊢
  cases hCheck : (check o env input).result with
  | error e =>
    rw [hCheck] at hCode
    cases hCode
  | ok report => exact ⟨report, rfl, rfl⟩

/-- Of the variables a run sees their texts and nothing else. So a variable that is set to bytes
that are no text is, to a run, one that is not set. -/
theorem run_congr {env env' : Environment} (h : env.text? = env'.text?) (arguments : List String)
    (input : ByteArray) : run arguments env input = run arguments env' input := by
  -- variables are looked at in two places, the choice of records and the settings
  have hLogging : logging env = logging env' := by rw [logging, logging, h]
  have hCheck : ∀ o, check o env input = check o env' input := by
    intro o
    rw [check, check, h]
  simp only [run, hLogging, hCheck]

-- ---------------------------------------------------------------------------
-- Environments
-- ---------------------------------------------------------------------------

/-- The entry of a variable holds its value, and nothing of any other variable. Both names end at
an equals sign, so neither can be the beginning of the other. -/
theorem Environment.valueBehind_append {name wanted : List UInt8} (h : 0x3D ∉ name)
    (hWanted : 0x3D ∉ wanted) (value : List UInt8) :
    valueBehind wanted (name ++ 0x3D :: value) = if wanted = name then some value else none := by
  induction name generalizing wanted with
  | nil =>
    cases wanted with
    | nil => rfl
    | cons w wanted =>
      -- the name is over, the wanted one is not
      have hSign : w ≠ 0x3D := fun hw => hWanted (hw ▸ List.mem_cons_self)
      simp [valueBehind, hSign]
  | cons n name ih =>
    cases wanted with
    | nil =>
      -- the wanted name is over, this one is not
      have hSign : n ≠ 0x3D := fun hn => h (hn ▸ List.mem_cons_self)
      simp [valueBehind, hSign]
    | cons w wanted =>
      have hRest := ih (fun hMem => h (List.mem_cons_of_mem n hMem))
        (fun hMem => hWanted (List.mem_cons_of_mem w hMem))
      rw [List.cons_append, valueBehind, hRest]
      by_cases hSame : w = n
      · simp [hSame]
      · simp [hSame]

/-- The block with an entry for each of some variables. -/
def Environment.blockOf (vars : List (List UInt8 × List UInt8)) : ByteArray :=
  ⟨(vars.flatMap fun v => v.1 ++ 0x3D :: (v.2 ++ [0])).toArray⟩

/-- **A block is read back.** The value of a variable is that of its first entry, as the bytes it
is, whether or not they are a text; a variable without an entry has none. (Names hold no equals
sign, and neither names nor values hold the byte that ends an entry.) -/
theorem Environment.ofBlock_blockOf {vars : List (List UInt8 × List UInt8)}
    (h : ∀ v ∈ vars, 0x3D ∉ v.1 ∧ 0 ∉ v.1 ∧ 0 ∉ v.2) {name : String}
    (hName : 0x3D ∉ name.toUTF8.data.toList) :
    ofBlock (blockOf vars) name =
      (vars.lookup name.toUTF8.data.toList).map fun value => ⟨value.toArray⟩ := by
  rw [ofBlock, blockOf]
  generalize name.toUTF8.data.toList = wanted at hName ⊢
  congr 1
  induction vars with
  | nil => 
    cases wanted <;> rfl
  | cons v vars ih =>
    obtain ⟨⟨hSign, hZero, hZeros⟩, hRest⟩ := List.forall_mem_cons.mp h
    -- no zero stands in an entry, so the first one ends it
    have hEntry : 0 ∉ v.1 ++ 0x3D :: v.2 := by
      simp [hZero, hZeros]
    have hBlock : (v :: vars).flatMap (fun v => v.1 ++ 0x3D :: (v.2 ++ [0])) =
        (v.1 ++ 0x3D :: v.2) ++ 0 :: vars.flatMap fun v => v.1 ++ 0x3D :: (v.2 ++ [0]) := by
      simp
    rw [hBlock, List.splitOn_append_cons_self_of_not_mem hEntry, List.findSome?_cons,
      valueBehind_append hSign hName, List.lookup_cons]
    -- the entry is the one that is looked for, or it holds nothing of it
    by_cases hSame : wanted = v.1
    · simp [hSame]
    · have hOther : (wanted == v.1) = false := by simp [hSame]
      simp only [if_neg hSame, hOther]
      exact ih hRest

/-- An environment with a single variable set. -/
def Environment.single (name : String) (bytes : ByteArray) : Environment :=
  fun other => if other = name then some bytes else none

theorem Environment.single_self (name : String) (bytes : ByteArray) :
    Environment.single name bytes name = some bytes :=
  if_pos rfl

/-- An environment without one of its variables. -/
def Environment.unset (env : Environment) (name : String) : Environment :=
  fun other => if other = name then none else env other

/-- Unsetting a variable without a text changes no text. A run sees texts only, so it cannot
tell. -/
theorem Environment.text?_unset {env : Environment} {name : String} (h : env.text? name = none) :
    (env.unset name).text? = env.text? := by
  funext other
  by_cases hName : other = name
  · subst hName
    rw [h, Environment.text?, Environment.unset, if_pos rfl]
    rfl
  · rw [Environment.text?, Environment.unset, if_neg hName, Environment.text?]

/-- **A value that is a text restricts the run; any other leaves it unrestricted.** Let the variable
of the allow-list be set, to any bytes whatever. If they are a text and the run of a check succeeds,
it prints a report, and all tables of the report are among the names in the text. If they are none,
the run is the one in which the variable is not set. -/
theorem run_restricted {arguments : List String} {o : Options}
    (hArguments : Request.ofArguments arguments = .validate o) (env : Environment)
    (input : ByteArray) {bytes : ByteArray} (hSet : env TableList.variableName = some bytes) :
    (∀ value, String.fromUTF8? bytes = some value → (run arguments env input).code = 0 →
      ∃ report, (check o env input).result = .ok report ∧
        (run arguments env input).output = report.render ++ "\n" ∧
        ∀ table ∈ report.tables, table ∈ TableList.entries value) ∧
    (String.fromUTF8? bytes = none →
      run arguments env input = run arguments (env.unset TableList.variableName) input) := by
  have hText : env.text? TableList.variableName = String.fromUTF8? bytes := by
    rw [Environment.text?, hSet]
    rfl
  constructor
  · -- a text: the run that succeeds has been checked against its entries
    intro value hValue hCode
    obtain ⟨report, hCheck, hOutput⟩ := exists_report_of_run hArguments hCode
    refine ⟨report, hCheck, hOutput, ?_⟩
    intro table hTable
    obtain ⟨sql, dialect, hReport⟩ := result_report_of_check hCheck
    rw [Environment.allowList?, hText, hValue] at hReport
    have hMem := Guard.mem_tables_of_report hReport hTable
    simpa [AllowList.ofList] using hMem
  · -- no text: the run sees what it would see without the variable
    intro hUndecodable
    rw [hUndecodable] at hText
    exact (run_congr (Environment.text?_unset hText) arguments input).symm

/-- A list with blanks around its names, and one that is no text. -/
theorem run_restricted_padded :
    (∃ report, (check { sql := some "SELECT * FROM t" }
        (.single TableList.variableName " t ,u".toUTF8) .empty).result = .ok report ∧
      (run ["SELECT * FROM t"] (.single TableList.variableName " t ,u".toUTF8) .empty).output =
        report.render ++ "\n" ∧
      ∀ table ∈ report.tables, table ∈ TableList.entries " t ,u") ∧
    run ["SELECT * FROM t"] (.single TableList.variableName ⟨#[0xff]⟩) .empty =
      run ["SELECT * FROM t"]
        ((Environment.single TableList.variableName ⟨#[0xff]⟩).unset TableList.variableName)
        .empty := by
  have hArguments : Request.ofArguments ["SELECT * FROM t"] =
      .validate { sql := some "SELECT * FROM t" } := by decide
  have hText : String.fromUTF8? " t ,u".toUTF8 = some " t ,u" := by decide +kernel
  have hNoText : String.fromUTF8? ⟨#[0xff]⟩ = none := by decide +kernel
  have hCode : (run ["SELECT * FROM t"] (.single TableList.variableName " t ,u".toUTF8)
      .empty).code = 0 := by decide +kernel
  exact ⟨(run_restricted hArguments _ _ (Environment.single_self _ _)).1 _ hText hCode,
    (run_restricted hArguments _ _ (Environment.single_self _ _)).2 hNoText⟩

/-- A list that is no text, and a table read all the same: the check is off, although the variable
that switches it on is set. -/
theorem run_undecodable :
    Environment.single TableList.variableName ⟨#[0xff]⟩ TableList.variableName = some ⟨#[0xff]⟩ ∧
      run ["SELECT * FROM secret"] (.single TableList.variableName ⟨#[0xff]⟩) .empty =
        { code := 0, output := Report.render ⟨"postgres", ["secret"]⟩ ++ "\n", errors := "" } := by
  decide +kernel

end CommandLine

end QueryGuard
