import QueryGuard.Failure
import QueryGuard.Text.Blank
import QueryGuard.Text.Quoted
import QueryGuard.Text.Split

/-!
Lists of table names as settings give them: names between commas, with blanks around them.

A name is compared as it is and never put into a script, so nearly everything is a name; what could
not be written in a list is none.
-/

namespace QueryGuard

namespace TableName

/-- Characters that no name in a list can hold. -/
def isForbidden (c : Char) : Bool :=
  Text.isControl c || c = ','

/-- Why a text is no name that a list could hold, if it is none. -/
def fault? (name : String) : Option String :=
  if name.isEmpty then
    some "Table identifier cannot be empty"
  else if Text.trim name ≠ name then
    some ("Invalid table identifier " ++ Text.quoted name ++ ": leading or trailing whitespace")
  else
    match name.toList.find? isForbidden with
    | some c =>
      some ("Invalid table identifier " ++ Text.quoted name ++ ": character " ++ Text.quotedChar c
        ++ " not allowed")
    | none => none

/-- Fails unless a text is a name that a list could hold. -/
def validate (name : String) : Except GuardError Unit :=
  match fault? name with
  | some message => .error (.invalidConfig message)
  | none => .ok ()

end TableName

namespace TableList

/-- The names of a list, without the blanks around them; what is empty is no name. -/
def entries (text : String) : List String :=
  ((Text.split ',' text.toList).map fun s => String.ofList (Text.trimChars s)).filter (!·.isEmpty)

/-- The variable that holds the allow-list. -/
def variableName : String :=
  "SQLGUARD_ALLOWED_TABLES"

/-- A name of the list, or why it cannot be one. -/
def entry (name : String) : Except GuardError String :=
  match TableName.fault? name with
  | some message => .error (.invalidConfig (variableName ++ ": " ++ message))
  | none => .ok name

/-- The names of a list; fails at the first that is none. -/
def parse (text : String) : Except GuardError (List String) :=
  (entries text).mapM entry

end TableList

end QueryGuard
