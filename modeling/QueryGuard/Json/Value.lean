import QueryGuard.Json.Text

/-!
JSON values and their written form.

A value is written over several lines, each level two blanks further in. Lists and objects without
content take no line of their own.
-/

namespace QueryGuard.Json

/-- A JSON value, as far as reports and schemas need them. -/
inductive Value where
  | null
  | string (text : String)
  | array (items : List Value)
  | object (fields : List (String × Value))

namespace Value

/-- The start of a line so many levels in. -/
def newLine (level : Nat) : String :=
  "\n" ++ String.ofList (List.replicate (2 * level) ' ')

/-- Parts on lines of their own between brackets; without parts only the brackets. -/
def bracketed (opening closing : String) (level : Nat) (parts : List String) : String :=
  if parts.isEmpty then opening ++ closing
  else
    opening ++ newLine (level + 1) ++ ("," ++ newLine (level + 1)).intercalate parts
      ++ newLine level ++ closing

mutual

/-- A value so many levels in. -/
def renderAt (level : Nat) : Value → String
  | null => "null"
  | string text => Json.string text
  | array items => bracketed "[" "]" level (renderItems (level + 1) items)
  | object fields => bracketed "\x7b" "\x7d" level (renderFields (level + 1) fields)

/-- The items of a list. -/
def renderItems (level : Nat) : List Value → List String
  | [] => []
  | v :: vs => renderAt level v :: renderItems level vs

/-- The fields of an object. -/
def renderFields (level : Nat) : List (String × Value) → List String
  | [] => []
  | (name, v) :: fields => (Json.string name ++ ": " ++ renderAt level v) :: renderFields level fields

end

/-- A value as a text. -/
def render (v : Value) : String :=
  renderAt 0 v

end Value

end QueryGuard.Json
