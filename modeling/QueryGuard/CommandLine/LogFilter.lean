import QueryGuard.Audit
import QueryGuard.Text.Blank
import QueryGuard.Text.Split

/-!
Which records are written, as a specification says: directives between commas, each a level, an
origin, or an origin and its level.

The directive with the longest origin that a record's origin starts with decides. A specification
without directives lets only errors through. A second part, behind a slash, is a text that the
message of a record has to hold.
-/

namespace QueryGuard.CommandLine

/-- Lets records of some origins through, up to some level. -/
structure Directive where
  /-- What origins start with; empty for all of them. -/
  origin : String
  /-- The rank of the least important level let through; zero for none. -/
  rank : Nat
deriving DecidableEq, Repr

/-- A filter of records. -/
structure LogFilter where
  directives : List Directive
  /-- What every message has to hold. -/
  text : String := ""
deriving DecidableEq, Repr

namespace LogFilter

/-- The rank of a level by its name in any case, and zero for none. -/
def rank? (cs : List Char) : Option Nat :=
  let name := String.ofList (cs.map Char.toUpper)
  if name = "OFF" then some 0
  else ([Level.error, .warn, .info, .debug, .trace].find? (·.name = name)).map (·.rank)

/-- The rank that lets everything through. -/
def everything : Nat :=
  Level.trace.rank

/-- A directive, or the complaint about it. -/
def readDirective (cs : List Char) : Except String Directive :=
  match Text.split '=' cs with
  | [only] =>
    match rank? only with
    | some rank => .ok { origin := "", rank := rank }
    | none => .ok { origin := String.ofList only, rank := everything }
  | [origin, level] =>
    let level := Text.trimChars level
    if level.isEmpty then .ok { origin := String.ofList origin, rank := everything }
    else
      match rank? level with
      | some rank => .ok { origin := String.ofList origin, rank := rank }
      | none => .error ("invalid logging spec '" ++ String.ofList level ++ "'")
  | _ => .error ("invalid logging spec '" ++ String.ofList cs ++ "'")

/-- Directives with one more, which takes the place of one for the same origin. -/
def add (ds : List Directive) (d : Directive) : List Directive :=
  if ds.any (·.origin = d.origin) then ds.map fun e => if e.origin = d.origin then d else e
  else ds ++ [d]

/-- The directives between commas, and the complaints about those that are none. -/
def readDirectives (cs : List Char) : List Directive × List String :=
  let parts := ((Text.split ',' cs).map Text.trimChars).filter (!·.isEmpty)
  parts.foldl (fun (ds, complaints) part =>
    match readDirective part with
    | .ok d => (add ds d, complaints)
    | .error complaint => (ds, complaints ++ [complaint])) ([], [])

/-- The filter of a specification, and the complaints about it. -/
def ofSpec (spec : String) : LogFilter × List String :=
  match Text.split '/' spec.toList with
  | [] => ({ directives := [] }, [])
  | [ds] =>
    let (ds, complaints) := readDirectives ds
    ({ directives := ds }, complaints)
  | [ds, text] =>
    let (ds, complaints) := readDirectives ds
    ({ directives := ds, text := String.ofList text }, complaints)
  | _ => ({ directives := [] }, ["invalid logging spec '" ++ spec ++ "' (too many '/'s)"])

/-- The longest of two directives for an origin. -/
def longer (best : Option Directive) (d : Directive) : Option Directive :=
  match best with
  | none => some d
  | some b => if b.origin.utf8ByteSize ≤ d.origin.utf8ByteSize then some d else some b

/-- The rank up to which records of an origin are let through. -/
def rankFor (f : LogFilter) (origin : String) : Nat :=
  if f.directives.isEmpty then Level.error.rank
  else
    match (f.directives.filter fun d => d.origin.isPrefixOf origin).foldl longer none with
    | some d => d.rank
    | none => 0

/-- Whether a text holds another. -/
def holds (part : List Char) : List Char → Bool
  | [] => part.isEmpty
  | c :: cs => part.isPrefixOf (c :: cs) || holds part cs

/-- Whether an event is let through. -/
def admits (f : LogFilter) (e : Event) : Bool :=
  e.level.rank ≤ f.rankFor e.origin && holds f.text.toList e.message.toList

end LogFilter

/-- The line of an event: its level in five columns, its origin, its message. -/
def logLine (e : Event) : String :=
  let level := e.level.name
  let padding := String.ofList (List.replicate (5 - level.length) ' ')
  "[" ++ level ++ padding ++ " " ++ e.origin ++ "] " ++ e.message ++ "\n"

end QueryGuard.CommandLine
