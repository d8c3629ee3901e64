import QueryGuard.Sql.Token

/-!
Why a text is no script, and the message for each reason.
-/

namespace QueryGuard.Sql

/-- The reasons for which a text is refused. -/
inductive SyntaxError where
  /-- The text falls into no tokens. -/
  | lexical (message : String) (place : Position)
  /-- Something else was needed where a token stands. -/
  | expected (what : String) (found : Located)
  /-- A rule of the grammar is broken, at a place if one is to be named. -/
  | refused (message : String) (place : Option Position)
  /-- The script is nested too deeply. -/
  | tooDeep
deriving DecidableEq, Repr

namespace SyntaxError

/-- The place as the end of a message; none at the end of the text. -/
def placeSuffix : Option Position → String
  | none => ""
  | some p => p.suffix

/-- The wording of a reason. -/
def reason : SyntaxError → String
  | .lexical message place => message ++ place.suffix
  | .expected what found =>
    "Expected: " ++ what ++ ", found: " ++ found.token.render ++ placeSuffix found.place
  | .refused message place => message ++ placeSuffix place
  | .tooDeep => "recursion limit exceeded"

/-- The message of a refused text. -/
def message (e : SyntaxError) : String :=
  "sql parser error: " ++ e.reason

end SyntaxError

end QueryGuard.Sql
