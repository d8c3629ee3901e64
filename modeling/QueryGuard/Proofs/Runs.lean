import QueryGuard.Proofs.AuditTrail
import QueryGuard.Proofs.Restriction
import QueryGuard.Proofs.RoundTrip

/-!
# Runs — which failure is seen, and what is printed

A run of a check can fail at three places: the settings of the environment, the input and the check
of the script. The first of these that fails is what the run ends with, so faulty settings are seen
whatever the script is, and an input that is no text is seen before any fault of a script. The input
is looked at only where the arguments give no script.

A run that fails exits with 1 and writes nothing to its output; one that succeeds exits with 0 and
writes the report. Records come before the message of a failure, and there are none where the
environment asks for none.

What is written is spelled out here: the layout of a report (`Report.pretty`), what each failure of
a check says (`Says`), and before it where the failure comes from.

Main results:

* `ofArguments_arguments` — every choice of dialect and script can be asked for.
* `result_ofLookup_eq_error` — when the settings are faulty.
* `result_check` — the stages of a check of the command line.
* `render_eq_pretty` / `says_iff` — reports and failures as they are written.
* `prints_of_check` / `failsWith_of_check` — what a run writes, by the result of its check.
* `run_precedence` — **which failure is seen, and what is printed.**
-/

namespace QueryGuard

-- ---------------------------------------------------------------------------
-- Records of chains
-- ---------------------------------------------------------------------------

namespace Audited

variable {ε δ α β : Type}

/-- What a chain records is recorded by one of its steps, and by the second only if the first has
given something to it. -/
theorem mem_events_bind {x : Audited ε α} {f : α → Audited ε β} {event : Event}
    (h : event ∈ (x >>= f).events) :
    event ∈ x.events ∨ ∃ a, x.result = .ok a ∧ event ∈ (f a).events := by
  obtain ⟨events, result⟩ := x
  cases result with
  | error e => exact Or.inl h
  | ok a =>
    rcases List.mem_append.mp h with h | h
    · exact Or.inl h
    · exact Or.inr ⟨a, rfl, h⟩

@[simp] theorem events_mapError (f : ε → δ) (x : Audited ε α) :
    (x.mapError f).events = x.events := rfl

end Audited

-- ---------------------------------------------------------------------------
-- Settings
-- ---------------------------------------------------------------------------

namespace Config

/-- Settings are faulty exactly if the list of tables is, and then for its fault. The dialect is
taken as it stands; whether it is known is found out when a script is read. -/
theorem result_ofLookup_eq_error {lookup : String → Option String} {cause : GuardError} :
    (ofLookup lookup).result = .error cause ↔
      ∃ value, lookup TableList.variableName = some value ∧
        TableList.parse value = .error cause := by
  rw [ofLookup, Audited.result_bind, result_readDialect]
  simp only [Except.bind]
  rw [Audited.result_bind]
  cases lookup TableList.variableName with
  | none => simp [readTables, pure, Except.bind]
  | some value =>
    cases hParse : TableList.parse value with
    | error e => simp [readTables, hParse, Except.map, Except.bind]
    | ok names => simp [readTables, hParse, Except.map, Except.bind, pure]

/-- All that reading the settings records is that a default is taken, and that is for debugging. -/
theorem level_of_mem_ofLookup {lookup : String → Option String} {event : Event}
    (h : event ∈ (ofLookup lookup).events) : event.level = .debug := by
  rw [ofLookup] at h
  rcases Audited.mem_events_bind h with h | ⟨dialect, -, h⟩
  · -- only the default of the dialect is recorded
    rw [readDialect] at h
    split at h
    · rcases Audited.mem_events_bind h with h | ⟨_, -, h⟩
      · rw [List.mem_singleton.mp h]
        rfl
      · cases h
    · cases h
  · rcases Audited.mem_events_bind h with h | ⟨tables, -, h⟩
    · cases hValue : lookup TableList.variableName with
      | none =>
        rw [hValue] at h
        cases h
      | some value =>
        rw [hValue] at h
        cases h
    · cases h

end Config

-- ---------------------------------------------------------------------------
-- Reports
-- ---------------------------------------------------------------------------

namespace Report

open Json Json.Value

/-- The tables of a report, each on a line of its own. -/
def prettyTables : List String → String
  | [] => "[]"
  | t :: ts => "[\n    " ++ ",\n    ".intercalate ((t :: ts).map Json.string) ++ "\n  ]"

/-- A report over several lines, each level two blanks further in. -/
def pretty (r : Report) : String :=
  "\x7b\n  \"dialect\": " ++ Json.string r.dialect ++ ",\n  \"tables\": " ++
    prettyTables r.tables ++ "\n\x7d"

/-- The list of tables as it is rendered inside of a report, one level further in than the report.
A list without tables is closed on the line it was opened on. -/
theorem renderAt_tables (tables : List String) :
    renderAt 1 (.array (tables.map .string)) = prettyTables tables := by
  have hOpening : "[" ++ newLine 2 = "[\n    " := by decide
  have hComma : "," ++ newLine 2 = ",\n    " := by decide
  have hClosing : newLine 1 ++ "]" = "\n  ]" := by decide
  rw [renderAt, renderItems_map_string]
  cases tables with
  | nil => rfl
  | cons t ts =>
    rw [List.map_cons, bracketed, if_neg (by simp), hOpening, hComma, String.append_assoc, hClosing,
      prettyTables, List.map_cons]

/-- This is how reports are rendered: the layout spelled out above, with the dialect and then the
tables, one on a line. The general rendering of values with members and items comes to this for a
report. -/
theorem render_eq_pretty (r : Report) : r.render = r.pretty := by
  have hDialect : Json.string "dialect" = "\"dialect\"" := by decide
  have hTables : Json.string "tables" = "\"tables\"" := by decide
  have hOpening : "\x7b" ++ newLine 1 ++ ("\"dialect\"" ++ ": ") = "\x7b\n  \"dialect\": " := by
    decide
  have hComma : "," ++ newLine 1 ++ ("\"tables\"" ++ ": ") = ",\n  \"tables\": " := by decide
  have hClosing : newLine 0 ++ "\x7d" = "\n\x7d" := by decide
  unfold pretty
  rw [render, Value.render, toJson, renderAt, renderFields, renderFields, renderFields,
    renderAt_tables, renderAt, bracketed, if_neg (by simp), String.intercalate_cons_cons,
    String.intercalate_singleton, hDialect, hTables, ← hOpening, ← hComma, ← hClosing]
  simp only [String.append_assoc, Nat.zero_add]

end Report

namespace CommandLine

-- ---------------------------------------------------------------------------
-- Arguments
-- ---------------------------------------------------------------------------

/-- Arguments that ask for a choice of dialect and script. -/
def Options.arguments (o : Options) : List String :=
  (o.dialect.map ("--dialect=" ++ ·)).toList ++ "--" :: o.sql.toList

/-- The long form of the option takes whatever stands behind its sign, be it empty or begin with a
dash. -/
theorem Argument.ofString_dialect (value : String) :
    ofString ("--dialect=" ++ value) = .dialectIs value := by
  have hList : ("--dialect=" ++ value).toList =
      '-' :: '-' :: 'd' :: 'i' :: 'a' :: 'l' :: 'e' :: 'c' :: 't' :: '=' :: value.toList := by
    rw [String.toList_append]
    rfl
  rw [ofString, hList]
  simp [long]

/-- Behind two dashes everything is a script, so a script that begins with a dash can be given. -/
theorem Request.ofRest_endOfOptions (o : Options) (rest : List String) :
    ofRest o ("--" :: rest) = ofTexts o rest := by
  have hEnd : Argument.ofString "--" = .endOfOptions := by decide
  unfold ofRest
  rw [hEnd]

/-- The first option for a dialect sets it, and the arguments behind it are read on. -/
theorem Request.ofRest_dialect (value : String) (rest : List String) :
    ofRest {} (("--dialect=" ++ value) :: rest) = ofRest { dialect := some value } rest := by
  conv_lhs => unfold ofRest
  rw [Argument.ofString_dialect]
  rfl

/-- Every choice of dialect and script can be asked for. Where the script could be taken for an
option the arguments put a double dash before it. -/
theorem Request.ofArguments_arguments (o : Options) :
    ofArguments o.arguments = .validate o := by
  obtain ⟨dialect, sql⟩ := o
  have hTexts : ∀ o : Options, o.sql = none →
      ofRest o ("--" :: sql.toList) = .validate { o with sql := sql } := by
    rintro ⟨dialect, -⟩ rfl
    rw [ofRest_endOfOptions]
    cases sql with
    | none => rfl
    | some sql => rfl
  cases dialect with
  | none => exact hTexts {} rfl
  | some value => exact (ofRest_dialect value _).trans (hTexts { dialect := some value } rfl)

-- ---------------------------------------------------------------------------
-- Checks
-- ---------------------------------------------------------------------------

/-- The script that is checked: that of the arguments, or else the input. -/
def Chosen (o : Options) (input : ByteArray) (sql : String) : Prop :=
  o.sql = some sql ∨ o.sql = none ∧ String.fromUTF8? input = some sql

section Checks

variable {o : Options} {env : Environment} {input : ByteArray}

/-- The script that is checked is the chosen one. -/
theorem result_readSql_of_chosen {sql : String} (h : Chosen o input sql) :
    (readSql o input).result = .ok sql := by
  rw [readSql]
  rcases h with h | ⟨h, hInput⟩
  · rw [h]
    rfl
  · rw [h]
    dsimp only
    rw [hInput]
    rfl

/-- An input that is no text fails only where the arguments give no script. -/
theorem result_readSql_of_undecodable (h : o.sql = none) (hInput : String.fromUTF8? input = none) :
    (readSql o input).result = .error .input := by
  rw [readSql, h]
  dsimp only
  rw [hInput]
  rfl

/-- A script among the arguments is taken without a look at the input. -/
theorem readSql_of_some {sql : String} (h : o.sql = some sql) (input : ByteArray) :
    readSql o input = pure sql := by
  rw [readSql, h]

theorem result_announce (allowed : Option AllowList) : (announce allowed).result = .ok () := by
  cases allowed with
  | none => rfl
  | some a => rfl

/-- Faulty settings end a check before script and input are looked at. -/
theorem check_of_settings {cause : GuardError}
    (h : (Config.ofLookup env.text?).result = .error cause) (o : Options) (input : ByteArray) :
    check o env input = ⟨(Config.ofLookup env.text?).events, .error (.settings cause)⟩ := by
  rw [check]
  apply Audited.bind_of_error
  rw [Audited.mapError, h]
  rfl

/-- The stages of a check behind settings that are acceptable: the script is read, then checked.
The dialect that is asked for goes before that of the settings, and only the settings give a list.
-/
theorem result_check {config : Config} (h : (Config.ofLookup env.text?).result = .ok config) :
    (check o env input).result = (readSql o input).result.bind fun sql =>
      (Guard.report .sql sql (o.dialect.getD config.dialect) config.allowList).result.mapError
        .script := by
  rw [check, Audited.result_bind, Audited.result_mapError_eq_ok.mpr h]
  simp only [Except.bind]
  rw [Audited.result_bind]
  refine congrArg _ (funext fun sql => ?_)
  rw [Audited.result_bind, result_announce]
  rfl

/-- The list of acceptable settings is the list in force in the environment, which is read off the
variable alone. -/
theorem allowList_of_ofLookup {config : Config}
    (h : (Config.ofLookup env.text?).result = .ok config) : config.allowList = env.allowList? := by
  rw [Config.allowList, Config.allowedTables_of_ofLookup h, Option.map_map]
  rfl

/-- No record of a check is an error, wherever it is made: by the settings, at the announcement of
a list, or by the check of the script. Failures are told in the outcome and not in a record. -/
theorem level_of_mem_check {event : Event} (h : event ∈ (check o env input).events) :
    event.level ≠ .error := by
  rw [check] at h
  rcases Audited.mem_events_bind h with h | ⟨config, -, h⟩
  · -- what the settings record
    rw [Audited.events_mapError] at h
    rw [Config.level_of_mem_ofLookup h]
    decide
  rcases Audited.mem_events_bind h with h | ⟨sql, -, h⟩
  · -- reading the script records nothing
    rw [readSql] at h
    split at h
    · cases h
    · split at h
      · cases h
      · cases h
  rcases Audited.mem_events_bind h with h | ⟨_, -, h⟩
  · -- the announcement of a list
    cases hAllowed : config.allowList with
    | none =>
      rw [hAllowed] at h
      cases h
    | some a =>
      rw [hAllowed] at h
      rw [List.mem_singleton.mp h, Event.level]
      decide
  · -- the check of the script, whose levels are known from its course
    rw [Audited.events_mapError] at h
    have hLevels := Guard.levels_of_course
      (Guard.course_report sql (o.dialect.getD config.dialect) config.allowList)
    have hEmitted : event.emitted ∈ Guard.emissions sql _ config.allowList :=
      List.mem_map_of_mem h
    have hLevel : event.level ∈ Guard.levels _ := hLevels ▸ List.mem_map_of_mem hEmitted
    rcases Guard.debug_or_warn_of_mem_levels hLevel with hDebug | hWarn
    · rw [hDebug]
      decide
    · rw [hWarn]
      decide

end Checks

-- ---------------------------------------------------------------------------
-- What is written
-- ---------------------------------------------------------------------------

/-- What is written of records: complaints about their choice, and those that are let through. -/
def recordLines (env : Environment) (events : List Event) : String :=
  (logging env).2 ++ String.join ((events.filter (logging env).1.admits).map logLine)

theorem rank_le_one {level : Level} : level.rank ≤ 1 ↔ level = .error := by
  cases level <;> decide

/-- Where no records are chosen, none below an error is written. A check makes no record that is an
error, so what it writes there is its failure alone. -/
theorem recordLines_of_unset {env : Environment} (h : env.text? logVariable = none)
    {events : List Event} (hEvents : ∀ e ∈ events, e.level ≠ .error) :
    recordLines env events = "" := by
  have hLogging : logging env = ({ directives := [] }, "") := by
    rw [logging, h]
    rfl
  have hNone : events.filter (LogFilter.admits { directives := [] }) = [] := by
    rw [List.filter_eq_nil_iff]
    intro e he hAdmits
    obtain ⟨hRank, -⟩ := Bool.and_eq_true_iff.mp hAdmits
    exact hEvents e he (rank_le_one.mp (of_decide_eq_true hRank))
  rw [recordLines, hLogging, hNone]
  rfl

/-- What a run writes of the records of its check. -/
def records (o : Options) (env : Environment) (input : ByteArray) : String :=
  recordLines env (check o env input).events

/-- A run that ends with a report, behind the lines of records: it succeeds, its output is the
report over several lines and a newline, and what is printed can be read back. -/
structure Prints (outcome : Outcome) (records : String) (report : Report) : Prop where
  code : outcome.code = 0
  output : outcome.output = report.pretty ++ "\n"
  reads : Report.decode outcome.output = .ok report
  errors : outcome.errors = records

/-- A run that ends with a failure, behind the lines of records: it does not succeed, prints
nothing, and says why. -/
structure FailsWith (outcome : Outcome) (records : String) (text : String) : Prop where
  code : outcome.code = 1
  output : outcome.output = ""
  errors : outcome.errors = records ++ "Error: " ++ text ++ "\n"

/-- What a failure of a check says. -/
inductive Says : GuardError → String → Prop where
  | invalidSyntax (dialect message : String) :
    Says (.invalidSyntax dialect message) ("Invalid SQL syntax for " ++ dialect ++ ": " ++ message)
  | disallowedStatement (kind : String) :
    Says (.disallowedStatement kind)
      ("The query must be a SELECT (or UNION of SELECTs). Found disallowed statement: " ++ kind ++
        ".")
  | disallowedTable (tables : List String) :
    Says (.disallowedTable tables) ("Disallowed tables found: " ++ ", ".intercalate tables)
  | unsupportedDialect (name : String) :
    Says (.unsupportedDialect name) ("Unsupported dialect: " ++ name)
  | invalidConfig (message : String) :
    Says (.invalidConfig message) ("Invalid configuration: " ++ message)

/-- Every failure says one thing, its message. The texts are spelled out in `Says` by the failure;
this is where they are compared with those the program has. -/
theorem says_iff {cause : GuardError} {text : String} :
    Says cause text ↔ text = cause.message := by
  constructor
  · intro h
    cases h <;> rfl
  · rintro rfl
    cases cause with
    | invalidSyntax dialect message => exact .invalidSyntax dialect message
    | disallowedStatement kind => exact .disallowedStatement kind
    | disallowedTable tables => exact .disallowedTable tables
    | unsupportedDialect name => exact .unsupportedDialect name
    | invalidConfig message => exact .invalidConfig message

section Runs

variable {arguments : List String} {o : Options} {env : Environment} {input : ByteArray}

/-- A report is written behind the records, and to another stream. -/
theorem outcome_of_ok {filter : LogFilter} {x : Audited RunError Report} {report : Report}
    (h : x.result = .ok report) :
    outcome filter x =
      ⟨0, report.render ++ "\n", String.join ((x.events.filter filter.admits).map logLine)⟩ := by
  rw [outcome, h]

/-- A failure writes no output, and its message behind the records. -/
theorem outcome_of_error {filter : LogFilter} {x : Audited RunError Report} {e : RunError}
    (h : x.result = .error e) :
    outcome filter x =
      ⟨1, "", String.join ((x.events.filter filter.admits).map logLine) ++ "Error: " ++ e.message ++
        "\n"⟩ := by
  rw [outcome, h]

/-- Where the arguments ask for a check, a run is that check, with complaints about the choice of
records before everything else. -/
theorem run_of_validate (h : Request.ofArguments arguments = .validate o) :
    run arguments env input =
      ⟨(outcome (logging env).1 (check o env input)).code,
        (outcome (logging env).1 (check o env input)).output,
        (logging env).2 ++ (outcome (logging env).1 (check o env input)).errors⟩ := by
  unfold run
  rw [h]

/-- **A check that gives a report** is printed as one, behind the lines of its records, and ends
well. What is printed is spelled out, and can be read back. -/
theorem prints_of_check (hArguments : Request.ofArguments arguments = .validate o)
    {report : Report} (h : (check o env input).result = .ok report) :
    Prints (run arguments env input) (records o env input) report := by
  rw [run_of_validate hArguments, outcome_of_ok h]
  have hOutput : report.render ++ "\n" = report.pretty ++ "\n" := by
    rw [Report.render_eq_pretty]
  exact ⟨rfl, hOutput, Report.decode_printed report, by rw [records, recordLines]⟩

/-- **A check that fails** prints nothing, and says why behind its records. The run ends as failed
whatever the reason, and the report that could have been made before is not printed. -/
theorem failsWith_of_check (hArguments : Request.ofArguments arguments = .validate o)
    {e : RunError} (h : (check o env input).result = .error e) :
    FailsWith (run arguments env input) (records o env input) e.message := by
  rw [run_of_validate hArguments, outcome_of_error h]
  refine ⟨rfl, rfl, ?_⟩
  simp only [records, recordLines, String.append_assoc]

/-- Runs with one check are one run. -/
theorem run_eq_of_check {arguments' : List String} {o' : Options} {input' : ByteArray}
    (hArguments : Request.ofArguments arguments = .validate o)
    (hArguments' : Request.ofArguments arguments' = .validate o')
    (h : check o env input = check o' env input') :
    run arguments env input = run arguments' env input' := by
  rw [run_of_validate hArguments, run_of_validate hArguments', h]

end Runs

/-- **Which failure is seen, and what is printed.** Let the arguments ask for a check; every choice
of dialect and script can be asked for. Settings are faulty exactly if the list of tables in the
environment is, and then the run fails with their fault, whatever the script and the input are.
Otherwise, if the arguments give no script and the input is no text, the run fails for its input.
Otherwise the script is that of the arguments, and the input does not matter, or else it is the
whole input; the dialect is that of the arguments, be it empty, or else that of the settings; and
the allow-list is that of the settings. With them the run prints the report, or fails as the check
of the script does. A failure is told by its text: that of the settings' fault behind where it
comes from, that of the input, or that of the check, as `Says` words them. A run that fails prints
nothing. Before the message of a failure there are lines of records only if the environment asks
for some. -/
theorem run_precedence {arguments : List String} {o : Options}
    (hArguments : Request.ofArguments arguments = .validate o) (env : Environment)
    (input : ByteArray) :
    (∀ o', Request.ofArguments o'.arguments = .validate o') ∧
    (∀ cause, (Config.ofLookup env.text?).result = .error cause ↔
      ∃ value, env.text? TableList.variableName = some value ∧
        TableList.parse value = .error cause) ∧
    (∀ cause, (Config.ofLookup env.text?).result = .error cause →
      FailsWith (run arguments env input) (records o env input)
        ("invalid sqlguard environment: " ++ cause.message) ∧
      ∀ arguments' o' input', Request.ofArguments arguments' = .validate o' →
        run arguments' env input' = run arguments env input) ∧
    (∀ config, (Config.ofLookup env.text?).result = .ok config →
      config.dialect = Config.chosenDialect (env.text? Config.dialectVariable) ∧
      config.allowList = env.allowList? ∧
      (o.sql = none → String.fromUTF8? input = none →
        FailsWith (run arguments env input) (records o env input)
          "failed to read SQL from stdin: stream did not contain valid UTF-8") ∧
      ∀ sql, Chosen o input sql →
        (∀ report,
          (Guard.report .sql sql (o.dialect.getD config.dialect) config.allowList).result =
            .ok report →
          Prints (run arguments env input) (records o env input) report) ∧
        ∀ cause,
          (Guard.report .sql sql (o.dialect.getD config.dialect) config.allowList).result =
            .error cause →
          FailsWith (run arguments env input) (records o env input) cause.message) ∧
    (∀ cause text, Says cause text ↔ text = cause.message) ∧
    (o.sql ≠ none → ∀ input', run arguments env input' = run arguments env input) ∧
    ((run arguments env input).code ≠ 0 →
      (run arguments env input).code = 1 ∧ (run arguments env input).output = "") ∧
    (env.text? logVariable = none → records o env input = "") := by
  refine ⟨Request.ofArguments_arguments, fun _ => Config.result_ofLookup_eq_error, ?_, ?_,
    fun _ _ => says_iff, ?_, ?_,
    fun hUnset => recordLines_of_unset hUnset fun _ => level_of_mem_check⟩
  · -- faulty settings: the check ends with them, and so does any other check in this environment
    intro cause hSettings
    constructor
    · apply failsWith_of_check hArguments (e := .settings cause)
      rw [check_of_settings hSettings]
    · intro arguments' o' input' hArguments'
      apply run_eq_of_check hArguments' hArguments
      rw [check_of_settings hSettings, check_of_settings hSettings]
  · intro config hSettings
    obtain ⟨hDialect, -⟩ := Config.result_ofLookup_eq_ok.mp hSettings
    refine ⟨hDialect, allowList_of_ofLookup hSettings, ?_, ?_⟩
    · -- acceptable settings, and an input that would be read but is no text
      intro hSql hInput
      apply failsWith_of_check hArguments (e := .input)
      rw [result_check hSettings, result_readSql_of_undecodable hSql hInput]
      rfl
    · intro sql hChosen
      -- a script has been found, so the check of it decides
      have hCheck : (check o env input).result = _ := result_check hSettings
      rw [result_readSql_of_chosen hChosen] at hCheck
      constructor
      · intro report hReport
        apply prints_of_check hArguments
        rw [hCheck, Except.bind, hReport]
        rfl
      · intro cause hCause
        apply failsWith_of_check hArguments (e := .script cause)
        rw [hCheck, Except.bind, hCause]
        rfl
  · -- with a script among the arguments the input is in no stage of the check
    intro hSql input'
    obtain ⟨sql, hSql⟩ := Option.ne_none_iff_exists'.mp hSql
    apply run_eq_of_check hArguments hArguments
    rw [check, check, readSql_of_some hSql, readSql_of_some hSql]
  · intro hCode
    cases hCheck : (check o env input).result with
    | ok report => exact absurd (prints_of_check hArguments hCheck).code hCode
    | error e =>
      have hFails := failsWith_of_check hArguments hCheck
      exact ⟨hFails.code, hFails.output⟩

/-- Four runs under a list: a faulty list, before an input that is no text and a script that would
be rejected; an input that is no text; an empty dialect; and a script from the input. -/
theorem run_precedence_stages :
    FailsWith (run ["DROP TABLE t"] (.single TableList.variableName "a\x00b".toUTF8) ⟨#[0xff]⟩) ""
      ("invalid sqlguard environment: Invalid configuration: SQLGUARD_ALLOWED_TABLES: " ++
        "Invalid table identifier \"a\\0b\": character '\\0' not allowed") ∧
    FailsWith (run [] (.single TableList.variableName "t".toUTF8) ⟨#[0xff]⟩) ""
      "failed to read SQL from stdin: stream did not contain valid UTF-8" ∧
    FailsWith (run ["--dialect=", "SELECT 1"] (.single TableList.variableName "t".toUTF8) ⟨#[0xff]⟩)
      "" "Unsupported dialect: " ∧
    Prints (run [] (.single TableList.variableName "t".toUTF8) "SELECT * FROM t".toUTF8) ""
      ⟨"postgres", ["t"]⟩ := by
  have hUnset : ∀ bytes,
      (Environment.single TableList.variableName bytes).text? logVariable = none := fun _ => rfl
  have hFaulty : (Config.ofLookup
      (Environment.single TableList.variableName "a\x00b".toUTF8).text?).result =
      .error (.invalidConfig ("SQLGUARD_ALLOWED_TABLES: Invalid table identifier \"a\\0b\": " ++
        "character '\\0' not allowed")) := by decide +kernel
  have hConfig : (Config.ofLookup
      (Environment.single TableList.variableName "t".toUTF8).text?).result =
      .ok ⟨"postgres", some ["t"]⟩ := by decide +kernel
  have hDrop : Request.ofArguments ["DROP TABLE t"] = .validate ⟨none, some "DROP TABLE t"⟩ := rfl
  have hNothing : Request.ofArguments [] = .validate ⟨none, none⟩ := rfl
  have hEmpty : Request.ofArguments ["--dialect=", "SELECT 1"] =
      .validate ⟨some "", some "SELECT 1"⟩ := rfl
  refine ⟨?_, ?_, ?_, ?_⟩
  · obtain ⟨-, -, hSettings, -, -, -, -, hQuiet⟩ := run_precedence hDrop
      (.single TableList.variableName "a\x00b".toUTF8) ⟨#[0xff]⟩
    have hFails := (hSettings _ hFaulty).1
    rwa [hQuiet (hUnset _)] at hFails
  · obtain ⟨-, -, -, hStages, -, -, -, hQuiet⟩ := run_precedence hNothing
      (.single TableList.variableName "t".toUTF8) ⟨#[0xff]⟩
    obtain ⟨-, -, hInput, -⟩ := hStages _ hConfig
    have hFails := hInput rfl (by decide +kernel)
    rwa [hQuiet (hUnset _)] at hFails
  · obtain ⟨-, -, -, hStages, -, -, -, hQuiet⟩ := run_precedence hEmpty
      (.single TableList.variableName "t".toUTF8) ⟨#[0xff]⟩
    obtain ⟨-, -, -, hScript⟩ := hStages _ hConfig
    have hFails := (hScript "SELECT 1" (Or.inl rfl)).2 (.unsupportedDialect "") (by decide +kernel)
    rwa [hQuiet (hUnset _)] at hFails
  · obtain ⟨-, -, -, hStages, -, -, -, hQuiet⟩ := run_precedence hNothing
      (.single TableList.variableName "t".toUTF8) "SELECT * FROM t".toUTF8
    obtain ⟨-, -, -, hScript⟩ := hStages _ hConfig
    have hChosen : Chosen ⟨none, none⟩ "SELECT * FROM t".toUTF8 "SELECT * FROM t" :=
      Or.inr ⟨rfl, by decide +kernel⟩
    have hPrints := (hScript _ hChosen).1 ⟨"postgres", ["t"]⟩ (by decide +kernel)
    rwa [hQuiet (hUnset _)] at hPrints

end CommandLine

end QueryGuard
