import QueryGuard.NodeKind

/-!
Why a script is not accepted, and the message for each reason.
-/

namespace QueryGuard

/-- Why a reader gives no tree for a text. -/
inductive ReadError where
  /-- The text is no script of the dialect. -/
  | malformed (message : String)
  /-- No dialect has the name. -/
  | unknownDialect (name : String)
deriving DecidableEq, Repr

namespace ReadError

/-- The wording of a reason. -/
def message : ReadError → String
  | malformed message => message
  | unknownDialect name => "unknown dialect '" ++ name ++ "'"

end ReadError

/-- Why a check fails. -/
inductive GuardError where
  /-- The text is no script of the dialect asked for. -/
  | invalidSyntax (dialect message : String)
  /-- The script holds a statement that changes something; `kind` names it. -/
  | disallowedStatement (kind : String)
  /-- The script reads tables that are not allowed. -/
  | disallowedTable (tables : List String)
  /-- No dialect has the name. -/
  | unsupportedDialect (name : String)
  /-- A setting is not acceptable. -/
  | invalidConfig (message : String)
deriving DecidableEq, Repr

namespace GuardError

/-- The wording of a reason. -/
def message : GuardError → String
  | invalidSyntax dialect message => "Invalid SQL syntax for " ++ dialect ++ ": " ++ message
  | disallowedStatement kind =>
    "The query must be a SELECT (or UNION of SELECTs). Found disallowed statement: " ++ kind ++ "."
  | disallowedTable tables => "Disallowed tables found: " ++ ", ".intercalate tables
  | unsupportedDialect name => "Unsupported dialect: " ++ name
  | invalidConfig message => "Invalid configuration: " ++ message

/-- The failure of a reader that was asked for a dialect. -/
def ofReadError (dialect : String) : ReadError → GuardError
  | .malformed message => invalidSyntax dialect message
  | .unknownDialect name => unsupportedDialect name

/-- Whether the input was understood and is forbidden. -/
def isPolicyViolation : GuardError → Bool
  | disallowedStatement _ => true
  | disallowedTable _ => true
  | invalidSyntax _ _ => false
  | unsupportedDialect _ => false
  | invalidConfig _ => false

end GuardError

end QueryGuard
