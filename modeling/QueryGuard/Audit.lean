import QueryGuard.Failure
import QueryGuard.NameSet
import QueryGuard.Text.Quoted

/-!
The audit trail: what is recorded while a script is checked.

A computation that is audited gives the records it made, in order, and its result or failure. What
has been recorded before a failure stays recorded.
-/

namespace QueryGuard

/-- How much a record matters, from most to least. -/
inductive Level where
  | error | warn | info | debug | trace
deriving DecidableEq, Repr

namespace Level

/-- The name of a level. -/
def name : Level → String
  | error => "ERROR" | warn => "WARN" | info => "INFO" | debug => "DEBUG" | trace => "TRACE"

/-- The place of a level, most important first. -/
def rank : Level → Nat
  | error => 1 | warn => 2 | info => 3 | debug => 4 | trace => 5

end Level

/-- What can be recorded. -/
inductive Event where
  /-- A text was read as so many statements. -/
  | parsed (statements : Nat) (dialect : String)
  /-- A script holds a disallowed statement. -/
  | rejectedStatement (kind : String)
  /-- A script was found to be read-only. -/
  | validated (tables ctes : Nat)
  /-- A script reads tables that are not allowed. -/
  | rejectedTables (tables : List String)
  /-- No dialect is set, so the default is taken. -/
  | defaultDialect (setting dialect : String)
  /-- The tables of a script are about to be compared with so many allowed ones. -/
  | authorizing (tables : Nat)
  /-- A record made by a reader from outside. -/
  | note (level : Level) (origin message : String)
deriving DecidableEq, Repr

namespace Event

/-- How much an event matters. -/
def level : Event → Level
  | parsed _ _ => .debug
  | rejectedStatement _ => .warn
  | validated _ _ => .debug
  | rejectedTables _ => .warn
  | defaultDialect _ _ => .debug
  | authorizing _ => .info
  | note level _ _ => level

/-- The part of the program an event comes from. -/
def origin : Event → String
  | parsed _ _ => "sqlguard::sql_parser"
  | rejectedStatement _ => "sqlguard::readonly"
  | validated _ _ => "sqlguard::validator"
  | rejectedTables _ => "sqlguard::allowlist"
  | defaultDialect _ _ => "sqlguard::config"
  | authorizing _ => "sqlguard"
  | note _ origin _ => origin

/-- The wording of an event. -/
def message : Event → String
  | parsed statements dialect =>
    "Parsed " ++ toString statements ++ " statement(s) with " ++ dialect ++ " dialect"
  | rejectedStatement kind => "Rejected query containing disallowed statement: " ++ kind
  | validated tables ctes =>
    "Validated query: " ++ toString tables ++ " table(s), " ++ toString ctes
      ++ " CTE alias(es) excluded"
  | rejectedTables tables =>
    "Rejected query referencing disallowed tables: " ++ Text.quotedList tables
  | defaultDialect setting dialect => setting ++ " not set, defaulting to " ++ dialect
  | authorizing tables => "Authorizing against " ++ toString tables ++ " allowed table(s)"
  | note _ _ message => message

end Event

/-- A result or failure together with what was recorded on the way. -/
structure Audited (ε α : Type) where
  events : List Event
  result : Except ε α

namespace Audited

instance : Monad (Audited ε) where
  pure a := ⟨[], .ok a⟩
  bind x f :=
    match x.result with
    | .ok a =>
      let y := f a
      ⟨x.events ++ y.events, y.result⟩
    | .error e => ⟨x.events, .error e⟩

/-- Records an event. -/
def record (e : Event) : Audited ε Unit :=
  ⟨[e], .ok ()⟩

/-- Fails, recording nothing. -/
def fail (e : ε) : Audited ε α :=
  ⟨[], .error e⟩

/-- The same with failures put in other terms. -/
def mapError (f : ε → δ) (x : Audited ε α) : Audited δ α :=
  ⟨x.events, x.result.mapError f⟩

end Audited

end QueryGuard
