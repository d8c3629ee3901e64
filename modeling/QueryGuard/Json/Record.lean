import QueryGuard.Json.Number
import QueryGuard.Json.Text

/-!
Decoders of strings, lists and records.

A record is an object whose fields may come in any order and among others, which are passed over;
or a list of its fields in order. A field that comes twice is a mismatch, and so is one that does
not come and has no value of its own for that case.
-/

namespace QueryGuard.Json.Decoder

/-! ## Passing over -/

/-- The brackets that can be open. -/
inductive Bracket where
  | square | brace
deriving DecidableEq, Repr

/-- The character that closes a bracket. -/
def Bracket.closer : Bracket → Char
  | square => ']'
  | brace => '\x7d'

/-- Passes over a value without parts, or opens one with parts. -/
def skipStart : Decoder (Option Bracket) := do
  match ← peekPart with
  | none => fail .unfinished
  | some c =>
    if c = 'n' then word ['n', 'u', 'l', 'l']; return none
    else if c = 't' then word ['t', 'r', 'u', 'e']; return none
    else if c = 'f' then word ['f', 'a', 'l', 's', 'e']; return none
    else if c = '-' || isDigit c then skipNumber; return none
    else if c = '"' then drop; skipText; return none
    else if c = '[' then drop; return some .square
    else if c = '\x7b' then drop; return some .brace
    else fail .malformed

/-- Closes what can be closed behind a value, or behind an opening bracket. What is left open takes
one more value; nothing is left when the outermost value is complete. -/
def skipClosers (behindValue : Bool) : List Bracket → Decoder (List Bracket)
  | [] => return []
  | b :: outer => do
    match ← peekPart with
    | none => fail .unfinished
    | some c =>
      if c = ',' && behindValue then
        drop
        return b :: outer
      else if c = b.closer then
        drop
        skipClosers true outer
      else if behindValue then fail .malformed
      else return b :: outer

/-- Takes the colon behind a key. -/
def colon : Decoder Unit := do
  match ← peekPart with
  | none => fail .unfinished
  | some c => if c = ':' then drop else fail .malformed

/-- Passes over a key and its colon. -/
def skipKey : Decoder Unit := do
  match ← peekPart with
  | none => fail .unfinished
  | some c =>
    if c = '"' then
      drop
      skipText
      colon
    else fail .malformed

/-- Passes over one value, or the start of one, inside the brackets that are open. -/
def skipTurn (enclosing : List Bracket) : Decoder (Turn (List Bracket) Unit) := do
  let opened ← skipStart
  let left ← skipClosers opened.isNone (opened.toList ++ enclosing)
  match left with
  | [] => return .done ()
  | .square :: outer => return .again (.square :: outer)
  | .brace :: outer =>
    skipKey
    return .again (.brace :: outer)

/-- Passes over any value, however deep. -/
def skipValue : Decoder Unit :=
  loop skipTurn []

/-! ## Values of a kind -/

/-- Fails since the next value is not of the kind wanted. A value without parts is read first, and
may have a fault of its own. -/
def mismatch (c : Char) : Decoder α := do
  if c = 'n' then word ['n', 'u', 'l', 'l']; fail .mismatch
  else if c = 't' then word ['t', 'r', 'u', 'e']; fail .mismatch
  else if c = 'f' then word ['f', 'a', 'l', 's', 'e']; fail .mismatch
  else if c = '-' || isDigit c then number; fail .mismatch
  else if c = '"' then
    drop
    let _ ← text
    fail .mismatch
  else if c = '[' || c = '\x7b' then fail .mismatch
  else fail .malformed

/-- A string. -/
def string : Decoder String := do
  match ← peekPart with
  | none => fail .unfinished
  | some c =>
    if c = '"' then
      drop
      text
    else mismatch c

/-- Whether another item follows in a list, whose comma is taken, and not the closing bracket. -/
def moreItems (first : Bool) : Decoder Bool := do
  match ← peekPart with
  | none => fail .unfinished
  | some c =>
    if c = ']' then return false
    else if first then return true
    else if c = ',' then
      drop
      match ← peekPart with
      | none => fail .unfinished
      | some ']' => fail .malformed
      | some _ => return true
    else fail .malformed

/-- One item of a list, behind those read so far, last one first. -/
def itemsTurn (item : Decoder α) (soFar : List α) : Decoder (Turn (List α) (List α)) := do
  if ← moreItems soFar.isEmpty then
    let a ← item
    return .again (a :: soFar)
  else
    drop
    return .done soFar.reverse

/-- A list. -/
def list (item : Decoder α) : Decoder (List α) := do
  match ← peekPart with
  | none => fail .unfinished
  | some c =>
    if c = '[' then
      drop
      loop (itemsTurn item) []
    else mismatch c

/-- A value that may be null. -/
def orNull (p : Decoder α) : Decoder (Option α) := do
  if (← peekPart) = some 'n' then
    word ['n', 'u', 'l', 'l']
    return none
  else
    let a ← p
    return some a

/-! ## Records -/

/-- A field of a record. -/
structure Field (α : Type) where
  name : String
  value : Decoder α
  /-- The value of a field that does not come; without one the field has to come. -/
  absent : Option α

/-- The value of a field that came or did not. -/
def Field.resolve (f : Field α) (found : Option α) : Decoder α :=
  match found, f.absent with
  | some a, _ => pure a
  | none, some a => pure a
  | none, none => fail .mismatch

/-- The key of the next field, whose opening quote is next; nothing at the closing brace. -/
def nextKey (first : Bool) : Decoder (Option String) := do
  match ← peekPart with
  | none => fail .unfinished
  | some c =>
    if c = '\x7d' then return none
    else if first then
      if c = '"' then
        drop
        let key ← text
        return some key
      else fail .malformed
    else if c = ',' then
      drop
      match ← peekPart with
      | none => fail .unfinished
      | some c =>
        if c = '"' then
          drop
          let key ← text
          return some key
        else fail .malformed
    else fail .malformed

/-- What has been read of an object. -/
structure Fields (α β : Type) where
  first : Bool := true
  left : Option α := none
  right : Option β := none

/-- One field of an object with two fields. -/
def fieldsTurn (f : Field α) (g : Field β) (soFar : Fields α β) :
    Decoder (Turn (Fields α β) (α × β)) := do
  match ← nextKey soFar.first with
  | none =>
    let a ← f.resolve soFar.left
    let b ← g.resolve soFar.right
    drop
    return .done (a, b)
  | some key =>
    if key = f.name then
      if soFar.left.isSome then fail .mismatch
      else
        colon
        let a ← f.value
        return .again { soFar with first := false, left := some a }
    else if key = g.name then
      if soFar.right.isSome then fail .mismatch
      else
        colon
        let b ← g.value
        return .again { soFar with first := false, right := some b }
    else
      colon
      skipValue
      return .again { soFar with first := false }

/-- The next item of a record written as a list. -/
def positional (f : Field α) (first : Bool) : Decoder (α × Bool) := do
  if ← moreItems first then
    let a ← f.value
    return (a, true)
  else
    let a ← f.resolve none
    return (a, false)

/-- The fields of a record in order, behind the opening bracket. -/
def positionals (f : Field α) (g : Field β) : Decoder (α × β) := do
  let (a, more) ← positional f true
  let (b, _) ← positional g (!more)
  match ← peekPart with
  | none => fail .unfinished
  | some c =>
    if c = ']' then
      drop
      return (a, b)
    else fail .malformed

/-- A record of two fields. -/
def record (f : Field α) (g : Field β) : Decoder (α × β) := do
  match ← peekPart with
  | none => fail .unfinished
  | some c =>
    if c = '\x7b' then
      drop
      loop (fieldsTurn f g) {}
    else if c = '[' then
      drop
      positionals f g
    else mismatch c

end QueryGuard.Json.Decoder
