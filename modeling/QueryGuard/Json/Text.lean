import QueryGuard.Json.Decoder
import QueryGuard.Text.Quoted

/-!
JSON strings: how they are written, read, and passed over.

Only what has to be escaped is escaped when a string is written. When one is read, an escape by
code may take a pair to stand for one character; half a pair stands for nothing. A string that is
passed over is looked at less closely: the digits of its codes are checked, the pairs are not.
-/

namespace QueryGuard.Json

/-! ## Writing -/

/-- A code of four hexadecimal digits. -/
def hexCode (n : Nat) : List Char :=
  let digits := Text.hexDigits n
  List.replicate (4 - digits.length) '0' ++ digits

/-- A character as a string holds it. -/
def escaped (c : Char) : List Char :=
  if c = '"' then ['\\', '"']
  else if c = '\\' then ['\\', '\\']
  else if c.toNat = 8 then ['\\', 'b']
  else if c.toNat = 12 then ['\\', 'f']
  else if c = '\n' then ['\\', 'n']
  else if c = '\r' then ['\\', 'r']
  else if c = '\t' then ['\\', 't']
  else if c.toNat < 32 then ['\\', 'u'] ++ hexCode c.toNat
  else [c]

/-- A text as a string. -/
def string (s : String) : String :=
  String.ofList ('"' :: (s.toList.flatMap escaped ++ ['"']))

namespace Decoder

/-! ## Reading -/

/-- The value of a hexadecimal digit. -/
def hexValue? (c : Char) : Option Nat :=
  if '0' ≤ c && c ≤ '9' then some (c.toNat - '0'.toNat)
  else if 'a' ≤ c && c ≤ 'f' then some (c.toNat - 'a'.toNat + 10)
  else if 'A' ≤ c && c ≤ 'F' then some (c.toNat - 'A'.toNat + 10)
  else none

/-- The number that hexadecimal digits write. -/
def hexNumber? (cs : List Char) : Option Nat :=
  (cs.mapM hexValue?).map (·.foldl (fun n d => 16 * n + d) 0)

/-- The code of an escape: four hexadecimal digits. The text has ended if there are not even four
bytes left of it. -/
def code : Decoder Nat := fun cs =>
  if (cs.take 4).foldl (· + ·.utf8Size) 0 < 4 then .error .unfinished
  else
    match hexNumber? (cs.take 4) with
    | some n => .ok (n, cs.drop 4)
    | none => .error .malformed

/-- The first half of a pair. -/
def isLeading (n : Nat) : Bool :=
  0xD800 ≤ n && n ≤ 0xDBFF

/-- The second half of a pair. -/
def isTrailing (n : Nat) : Bool :=
  0xDC00 ≤ n && n ≤ 0xDFFF

/-- The character of an escape by code, of one code or a pair of them. -/
def codedChar : Decoder Char := do
  let n ← code
  if isTrailing n then fail .malformed
  else if isLeading n then
    word ['\\', 'u']
    let m ← code
    if isTrailing m then return Char.ofNat (0x10000 + (n - 0xD800) * 0x400 + (m - 0xDC00))
    else fail .malformed
  else return Char.ofNat n

/-- The character that an escape of one letter stands for. -/
def escapeLetter? (c : Char) : Option Char :=
  if c = '"' || c = '\\' || c = '/' then some c
  else if c = 'b' then some (Char.ofNat 8)
  else if c = 'f' then some (Char.ofNat 12)
  else if c = 'n' then some '\n'
  else if c = 'r' then some '\r'
  else if c = 't' then some '\t'
  else none

/-- The character of an escape, behind its backslash. -/
def escape : Decoder Char := do
  let c ← next
  if c = 'u' then codedChar
  else
    match escapeLetter? c with
    | some c => return c
    | none => fail .malformed

/-- The rest of a string behind the characters read so far, last one first. -/
def textTurn (soFar : List Char) : Decoder (Turn (List Char) String) := do
  let c ← next
  if c = '"' then return .done (String.ofList soFar.reverse)
  else if c = '\\' then return .again ((← escape) :: soFar)
  else if c.toNat < 32 then fail .malformed
  else return .again (c :: soFar)

/-- The text of a string, behind its opening quote. -/
def text : Decoder String :=
  loop textTurn []

/-! ## Passing over -/

/-- Passes over an escape, behind its backslash. -/
def skipEscape : Decoder Unit := do
  let c ← next
  if c = 'u' then let _ ← code
  else if (escapeLetter? c).isNone then fail .malformed

/-- Passes over one character of a string. -/
def skipTextTurn (_ : Unit) : Decoder (Turn Unit Unit) := do
  let c ← next
  if c = '"' then return .done ()
  else if c = '\\' then
    skipEscape
    return .again ()
  else if c.toNat < 32 then fail .malformed
  else return .again ()

/-- Passes over a string, behind its opening quote. -/
def skipText : Decoder Unit :=
  loop skipTextTurn ()

end Decoder

end QueryGuard.Json
