/-!
Decoders of JSON text.

A decoder takes characters from the front of a text and gives a value or the first fault it meets.
It never builds a value of a kind that is not wanted: what is wanted decides how far a text is
looked at, and so which of two faults comes first.
-/

namespace QueryGuard.Json

/-- What can be wrong with a text. -/
inductive Fault where
  /-- It holds a value that is not the one wanted. -/
  | mismatch
  /-- It is no JSON. -/
  | malformed
  /-- It ends too early. -/
  | unfinished
deriving DecidableEq, Repr

/-- A decoder of values. -/
def Decoder (α : Type) : Type :=
  List Char → Except Fault (α × List Char)

/-- What a loop does after a turn. -/
inductive Turn (σ α : Type) where
  | again (state : σ)
  | done (result : α)

namespace Decoder

instance : Monad Decoder where
  pure a := fun cs => .ok (a, cs)
  bind p f := fun cs =>
    match p cs with
    | .ok (a, rest) => f a rest
    | .error e => .error e

/-- Fails with the given fault. -/
def fail (e : Fault) : Decoder α :=
  fun _ => .error e

/-- Repeats turns until one is the last. Every turn but the last has to take a character, so that
the length of the text bounds their number. -/
def loop (turn : σ → Decoder (Turn σ α)) (state : σ) : Decoder α := fun cs =>
  match turn state cs with
  | .error e => .error e
  | .ok (.done a, rest) => .ok (a, rest)
  | .ok (.again next, rest) =>
    if rest.length < cs.length then loop turn next rest else .error .malformed
termination_by cs => cs.length

/-- The next character, left where it is. -/
def peek : Decoder (Option Char) :=
  fun cs => .ok (cs.head?, cs)

/-- Takes the next character if there is one. -/
def drop : Decoder Unit :=
  fun cs => .ok ((), cs.tail)

/-- Takes the next character; the text must not end. -/
def next : Decoder Char :=
  fun
    | [] => .error .unfinished
    | c :: cs => .ok (c, cs)

/-- Takes the characters up to the first that is not of a class. -/
def takeWhile (p : Char → Bool) : Decoder (List Char) :=
  fun cs => .ok (cs.takeWhile p, cs.dropWhile p)

/-- The characters that may stand between the parts of a text. -/
def isBlank (c : Char) : Bool :=
  c = ' ' || c = '\n' || c = '\t' || c = '\r'

/-- The next character that is no blank, left where it is. -/
def peekPart : Decoder (Option Char) :=
  fun cs =>
    let rest := cs.dropWhile isBlank
    .ok (rest.head?, rest)

/-- Takes exactly the given characters. -/
def word : List Char → Decoder Unit
  | [] => pure ()
  | w :: ws => do
    if (← next) = w then word ws else fail .malformed

/-- A decoder of the whole text, blanks at its ends aside. -/
def run (p : Decoder α) (text : String) : Except Fault α :=
  match p text.toList with
  | .error e => .error e
  | .ok (a, rest) => if (rest.dropWhile isBlank).isEmpty then .ok a else .error .malformed

end Decoder

end QueryGuard.Json
