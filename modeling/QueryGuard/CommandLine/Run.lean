import QueryGuard.CommandLine.Arguments
import QueryGuard.CommandLine.LogFilter
import QueryGuard.Config
import QueryGuard.Report.Json

/-!
A run of the command line, from arguments, environment and input to what is written and the exit
code.

The arguments come first, then the settings, then the input, then the check; the first that fails
is the outcome. A run that fails writes nothing to its output. A variable whose value is no text
counts as not set.
-/

namespace QueryGuard.CommandLine

/-- The variables that are set, with their values as bytes. -/
def Environment : Type :=
  String → Option ByteArray

/-- The value of a variable that is a text. -/
def Environment.text? (env : Environment) (name : String) : Option String :=
  (env name).bind String.fromUTF8?

/-- What stands behind a name and an equals sign. -/
def Environment.valueBehind : List UInt8 → List UInt8 → Option (List UInt8)
  | [], 0x3D :: value => some value
  | n :: name, b :: entry => if n = b then valueBehind name entry else none
  | _, _ => none

/-- The variables of a block of entries, each of them a name, an equals sign, a value and a zero.
The first entry for a name counts. -/
def Environment.ofBlock (block : ByteArray) : Environment := fun name =>
  ((block.data.toList.splitOn 0).findSome? (valueBehind name.toUTF8.data.toList)).map
    fun value => ⟨value.toArray⟩

/-- What a run gives. -/
structure Outcome where
  code : Nat
  output : String
  errors : String
deriving DecidableEq, Repr

/-- Why a run fails. -/
inductive RunError where
  /-- The settings are not acceptable. -/
  | settings (cause : GuardError)
  /-- The input is no text. -/
  | input
  /-- The script is not accepted. -/
  | script (cause : GuardError)
deriving DecidableEq, Repr

/-- The wording of a failure. -/
def RunError.message : RunError → String
  | settings cause => "invalid sqlguard environment: " ++ cause.message
  | input => "failed to read SQL from stdin: stream did not contain valid UTF-8"
  | script cause => cause.message

/-- The script that options or else the input give. -/
def readSql (o : Options) (input : ByteArray) : Audited RunError String :=
  match o.sql with
  | some sql => pure sql
  | none =>
    match String.fromUTF8? input with
    | some sql => pure sql
    | none => .fail .input

/-- Records that an allow-list is going to be used, if there is one. -/
def announce : Option AllowList → Audited RunError Unit
  | some allowed => .record (.authorizing allowed.size)
  | none => pure ()

/-- The report that options, settings and input ask for. -/
def check (o : Options) (env : Environment) (input : ByteArray) : Audited RunError Report := do
  let config ← (Config.ofLookup env.text?).mapError .settings
  let sql ← readSql o input
  announce config.allowList
  (Guard.report .sql sql (o.dialect.getD config.dialect) config.allowList).mapError .script

/-- The variable that holds the specification of the records to be written. -/
def logVariable : String :=
  "RUST_LOG"

/-- The filter of records, and the lines of complaint about its specification. -/
def logging (env : Environment) : LogFilter × String :=
  let (filter, complaints) := LogFilter.ofSpec ((env.text? logVariable).getD "")
  (filter, String.join (complaints.map fun c => "warning: " ++ c ++ ", ignoring it\n"))

/-- What a check writes. -/
def outcome (filter : LogFilter) (x : Audited RunError Report) : Outcome :=
  let lines := String.join ((x.events.filter filter.admits).map logLine)
  match x.result with
  | .ok report => { code := 0, output := report.render ++ "\n", errors := lines }
  | .error e => { code := 1, output := "", errors := lines ++ "Error: " ++ e.message ++ "\n" }

/-- The text that explains the command. -/
def helpText : String :=
  "Read-only SQL validation and base-table extraction across SQL dialects.\n\n" ++
  "Usage: sqlguard [OPTIONS] [SQL]\n\n" ++
  "Arguments:\n" ++
  "  [SQL]  SQL to validate; read from stdin when omitted\n\n" ++
  "Options:\n" ++
  "  -d, --dialect <DIALECT>  SQL dialect (overrides SQLGUARD_DIALECT)\n" ++
  "  -h, --help               Print help\n" ++
  "  -V, --version            Print version\n"

/-- The name and version of the command. -/
def versionText : String :=
  "sqlguard 0.1.0\n"

/-- A run of the command. -/
def run (arguments : List String) (env : Environment) (input : ByteArray) : Outcome :=
  let (filter, complaints) := logging env
  let inner :=
    match Request.ofArguments arguments with
    | .validate o => outcome filter (check o env input)
    | .help => { code := 0, output := helpText, errors := "" }
    | .version => { code := 0, output := versionText, errors := "" }
    | .mistake => { code := 2, output := "", errors := "error: invalid usage\n" }
  { inner with errors := complaints ++ inner.errors }

/-- Whether a run looks at its input. -/
def readsInput (arguments : List String) : Bool :=
  match Request.ofArguments arguments with
  | .validate o => o.sql.isNone
  | _ => false

end QueryGuard.CommandLine
