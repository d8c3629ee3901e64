import QueryGuard.Json.Decoder

/-!
JSON numbers, of which only the form and the size are looked at.

No setting and no report holds a number. One that stands where something else is wanted is read
to its end first, since it may be malformed, unfinished or too large for a double; one that is
passed over need only be well formed.

A number is read as a significand of 64 bits and a power of ten. Digits that no longer fit into the
significand count for the power if they stand before the point, and not at all behind it.
-/

namespace QueryGuard.Json.Decoder

/-- A decimal digit. -/
def isDigit (c : Char) : Bool :=
  '0' ≤ c && c ≤ '9'

/-- The value of a decimal digit. -/
def digitValue (c : Char) : Nat :=
  c.toNat - '0'.toNat

/-- The first number that does not fit into 64 bits. -/
def significandBound : Nat :=
  0x1_0000_0000_0000_0000

/-- The significand that digits add to, and how many of them fit. -/
def gather (significand : Nat) : List Char → Nat × Nat
  | [] => (significand, 0)
  | c :: cs =>
    let more := 10 * significand + digitValue c
    if more < significandBound then
      let (all, fitting) := gather more cs
      (all, fitting + 1)
    else (significand, 0)

/-- Whether a significand times a power of ten is too large for a double. -/
def isOutOfRange (significand : Nat) (exponent : Int) : Bool :=
  significand ≠ 0 && 0 ≤ exponent &&
    (308 < exponent ||
      (significand.toUInt64.toFloat * Float.ofScientific 1 false exponent.toNat).isInf)

/-- Fails if a number is too large. -/
def inRange (significand : Nat) (exponent : Int) : Decoder Unit :=
  if isOutOfRange significand exponent then fail .malformed else pure ()

/-- The largest exponent that is told from larger ones. -/
def exponentBound : Nat :=
  0x7FFF_FFFF

/-- Takes a sign of an exponent; whether it is a minus. -/
def exponentSign : Decoder Bool := do
  match ← peek with
  | some '+' => drop; return false
  | some '-' => drop; return true
  | _ => return false

/-- The exponent of a number behind its mark. -/
def exponent (significand : Nat) (start : Int) : Decoder Unit := do
  let negative ← exponentSign
  let first ← next
  if !isDigit first then fail .malformed
  else
    let digits := first :: (← takeWhile isDigit)
    let size := digits.foldl (fun n c => 10 * n + digitValue c) 0
    if size ≤ exponentBound then
      inRange significand (if negative then start - size else start + size)
    else if significand ≠ 0 && !negative then fail .malformed

/-- What may follow the digits of a number. -/
def exponentIfAny (significand : Nat) (start : Int) : Decoder Unit := do
  match ← peek with
  | some 'e' => drop; exponent significand start
  | some 'E' => drop; exponent significand start
  | _ => inRange significand start

/-- The digits behind the point of a number. -/
def fraction (significand : Nat) (start : Int) : Decoder Unit := do
  let digits ← takeWhile isDigit
  if digits.isEmpty then
    if (← peek).isSome then fail .malformed else fail .unfinished
  else
    let (all, fitting) := gather significand digits
    exponentIfAny all (start - fitting)

/-- What may follow the digits before the point. -/
def fractionIfAny (significand : Nat) (start : Int) : Decoder Unit := do
  if (← peek) = some '.' then
    drop
    fraction significand start
  else exponentIfAny significand start

/-- A number without its sign. -/
def unsigned : Decoder Unit := do
  let first ← next
  if first = '0' then
    match ← peek with
    | some c => if isDigit c then fail .malformed else fractionIfAny 0 0
    | none => fractionIfAny 0 0
  else if isDigit first then
    let digits ← takeWhile isDigit
    let (all, fitting) := gather (digitValue first) digits
    fractionIfAny all (digits.length - fitting : Nat)
  else fail .malformed

/-- A number. -/
def number : Decoder Unit := do
  if (← peek) = some '-' then drop
  unsigned

/-! ## Passing over -/

/-- Takes a digit and those that follow it. -/
def skipDigits : Decoder Unit := do
  if (← takeWhile isDigit).isEmpty then fail .malformed

/-- Passes over an exponent if there is one. -/
def skipExponent : Decoder Unit := do
  let c ← peek
  if c = some 'e' || c = some 'E' then
    drop
    let _ ← exponentSign
    skipDigits

/-- Passes over a number. -/
def skipNumber : Decoder Unit := do
  if (← peek) = some '-' then drop
  match ← peek with
  | some '0' =>
    drop
    if ((← peek).map isDigit).getD false then fail .malformed
  | _ => skipDigits
  if (← peek) = some '.' then
    drop
    skipDigits
  skipExponent

end QueryGuard.Json.Decoder
