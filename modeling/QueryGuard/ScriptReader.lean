import QueryGuard.Audit
import QueryGuard.Dialect
import QueryGuard.Sql.Grammar
import QueryGuard.Tree.Builder

/-!
Readers: from the text of a script and the name of a dialect to a tree.
-/

namespace QueryGuard

/-- A reader of scripts, given a text and the name of a dialect. -/
def ScriptReader : Type :=
  (sql dialect : String) → Audited ReadError Tree.Node

namespace ScriptReader

/-- The dialect of a name. -/
def dialect (name : String) : Except ReadError Dialect :=
  match Dialect.ofName? name with
  | some d => .ok d
  | none => .error (.unknownDialect name)

/-- The statements of a text, of which there is at least one. -/
def script (d : Dialect) (sql : String) : Except ReadError (List Sql.Statement) :=
  match Sql.parse d sql with
  | .error e => .error (.malformed e.message)
  | .ok [] => .error (.malformed ("No expression was parsed from '" ++ sql ++ "'"))
  | .ok (s :: ss) => .ok (s :: ss)

/-- The reader of SQL in all its dialects. -/
def sql : ScriptReader := fun text name =>
  match dialect name with
  | .error e => .fail e
  | .ok d =>
    match script d text with
    | .error e => .fail e
    | .ok statements => do
      .record (.parsed statements.length name)
      return Tree.ofScript statements

end ScriptReader

end QueryGuard
