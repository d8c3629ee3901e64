import QueryGuard.Dialect
import QueryGuard.Sql.SyntaxError

/-!
From a text to its tokens.

A text is read from left to right, one token at a time. Which characters begin a token and how far
it reaches depends on the dialect and, for a period and for numbers, on the token before it. The
whole text is read before the grammar sees any of it, so a text that falls into no tokens is
refused for that reason whatever its beginning says.
-/

namespace QueryGuard.Sql

/-- What is left of a text, and the place where it begins. -/
structure Cursor where
  rest : List Char
  place : Position

namespace Cursor

/-- The longest run of characters that satisfy `p`, and what is left. -/
def spanFrom (p : Char → Bool) : List Char → Position → List Char × Cursor
  | [], place => ([], ⟨[], place⟩)
  | c :: cs, place =>
    if p c then
      let (run, after) := spanFrom p cs (place.advance c)
      (c :: run, after)
    else ([], ⟨c :: cs, place⟩)

/-- The longest run of characters that satisfy `p`, and what is left. -/
def span (p : Char → Bool) (k : Cursor) : List Char × Cursor :=
  spanFrom p k.rest k.place

/-- What is left behind the first `n` characters. -/
def skip : Nat → Cursor → Cursor
  | 0, k => k
  | n + 1, k =>
    match k.rest with
    | [] => k
    | c :: cs => skip n ⟨cs, k.place.advance c⟩

/-- The place behind the whole text. -/
def endPlace (k : Cursor) : Position :=
  k.place.advanceAll k.rest

end Cursor

/-- Something read from a text, and what is left behind it. -/
abbrev Scanned (α : Type) := α × Cursor

namespace Lexer

/-! ## Quoted names -/

/-- The contents of a quoted name up to its closing quote; a doubled quote stands for one. -/
def quotedNameBody (quote : Char) : List Char → Position → Option (List Char × Cursor)
  | [], _ => none
  | c :: cs, place =>
    if c = quote then
      match cs with
      | d :: ds =>
        if d = quote then
          (quotedNameBody quote ds ((place.advance c).advance d)).map
            fun (body, after) => (c :: body, after)
        else some ([], ⟨d :: ds, place.advance c⟩)
      | [] => some ([], ⟨[], place.advance c⟩)
    else
      (quotedNameBody quote cs (place.advance c)).map fun (body, after) => (c :: body, after)

/-- The contents of a quoted name that opens here. -/
def quotedNameText (k : Cursor) : Except SyntaxError (Scanned (List Char)) :=
  match k.rest with
  | [] => .ok ([], k)
  | c :: cs =>
    let close := Dialect.closingQuote c
    match quotedNameBody close cs (k.place.advance c) with
    | some found => .ok found
    | none =>
      .error (.lexical ("Expected close delimiter '" ++ String.singleton close ++ "' before EOF.")
        k.place)

/-- A quoted name. -/
def quotedName (quote : Char) (k : Cursor) : Except SyntaxError (Scanned Token) := do
  let (text, after) ← quotedNameText k
  return (.quotedName (String.ofList text) quote, after)

/-- How a bracket opens a quoted name that may itself hold one: directly, or around a name in
double quotes. -/
def bracketQuote (d : Dialect) (afterBracket : List Char) : Option (Option Char) :=
  match afterBracket.dropWhile Text.isBlank with
  | c :: _ =>
    if c = '"' then some (some '"') else if d.startsName c then some none else none
  | [] => none

/-- A name in double quotes between brackets. -/
def bracketedName (k : Cursor) : Except SyntaxError (Scanned Token) := do
  let (_, inner) := (k.skip 1).span Text.isBlank
  let (text, after) ← quotedNameText inner
  let (_, closing) := after.span Text.isBlank
  match closing.rest with
  | ']' :: _ =>
    return (.quotedName ("\"" ++ String.ofList text ++ "\"") '[', closing.skip 1)
  | _ => .error (.lexical "Expected close delimiter ']' before EOF." k.place)

/-! ## String literals -/

/-- The character a backslash escape stands for. -/
def escapeOf (c : Char) : Char :=
  match c with
  | '0' => Char.ofNat 0
  | 'a' => Char.ofNat 7
  | 'b' => Char.ofNat 8
  | 'f' => Char.ofNat 12
  | 'n' => '\n'
  | 'r' => '\r'
  | 't' => '\t'
  | 'Z' => Char.ofNat 26
  | other => other

/-- The contents of a string literal up to its closing quote. -/
def stringBody (d : Dialect) (quote : Char) (escapes : Bool) :
    List Char → Position → Option (List Char × Cursor)
  | [], _ => none
  | c :: cs, place =>
    if c = quote then
      match cs with
      | e :: es =>
        if e = quote then
          (stringBody d quote escapes es ((place.advance c).advance e)).map
            fun (body, after) => (c :: body, after)
        else some ([], ⟨e :: es, place.advance c⟩)
      | [] => some ([], ⟨[], place.advance c⟩)
    else if c = '\\' && escapes then
      match cs with
      | e :: es =>
        let kept := if d.keepsWildcardEscapes && (e = '%' || e = '_') then [c, e] else [escapeOf e]
        (stringBody d quote escapes es ((place.advance c).advance e)).map
          fun (body, after) => (kept ++ body, after)
      | [] => none
    else
      (stringBody d quote escapes cs (place.advance c)).map fun (body, after) => (c :: body, after)

/-- The contents of a string literal between three quotes. `run` counts the quotes that stand
directly before. -/
def tripleBody (quote : Char) (escapes : Bool) :
    Nat → List Char → List Char → Position → Option (List Char × Cursor)
  | _, _, [], _ => none
  | run, soFar, c :: cs, place =>
    if c = quote then
      if run = 2 then some ((soFar.drop 2).reverse, ⟨cs, place.advance c⟩)
      else tripleBody quote escapes (run + 1) (c :: soFar) cs (place.advance c)
    else if c = '\\' && escapes then
      match cs with
      | e :: es =>
        tripleBody quote escapes 0 (escapeOf e :: soFar) es ((place.advance c).advance e)
      | [] => none
    else tripleBody quote escapes 0 (c :: soFar) cs (place.advance c)

/-- A string literal whose opening quote stands here. -/
def stringLiteral (d : Dialect) (kind : StringKind) (quote : Char) (escapes : Bool) (k : Cursor) :
    Except SyntaxError (Scanned Token) :=
  match stringBody d quote escapes (k.rest.drop 1) (k.skip 1).place with
  | some (text, after) => .ok (.string kind (String.ofList text), after)
  | none => .error (.lexical "Unterminated string literal" k.place)

/-- A string literal between one or three quotes. Two quotes alone are the empty literal. -/
def oneOrThreeQuotes (d : Dialect) (one three : StringKind) (quote : Char) (escapes : Bool)
    (k : Cursor) : Except SyntaxError (Scanned Token) :=
  let (quotes, _) := Cursor.span (fun c => decide (c = quote)) ⟨k.rest.take 3, k.place⟩
  match quotes.length with
  | 2 => .ok (.string one "", k.skip 2)
  | 3 =>
    let inner := k.skip 3
    match tripleBody quote escapes 0 [] inner.rest inner.place with
    | some (text, after) => .ok (.string three (String.ofList text), after)
    | none => .error (.lexical "Unterminated string literal" inner.place)
  | _ =>
    let inner := k.skip 1
    match stringBody d quote escapes inner.rest inner.place with
    | some (text, after) => .ok (.string one (String.ofList text), after)
    | none => .error (.lexical "Unterminated string literal" inner.place)

/-- A plain string literal in the dialect's rules for quotes and backslashes. -/
def plainString (d : Dialect) (one three : StringKind) (quote : Char) (k : Cursor) :
    Except SyntaxError (Scanned Token) :=
  if d.hasTripleQuotes then oneOrThreeQuotes d one three quote d.backslashEscapes k
  else stringLiteral d one quote d.backslashEscapes k

/-- A hexadecimal digit's value. -/
def hexValue? (c : Char) : Option Nat :=
  if c.isDigit then some (c.toNat - '0'.toNat)
  else if 'a' ≤ c && c ≤ 'f' then some (c.toNat - 'a'.toNat + 10)
  else if 'A' ≤ c && c ≤ 'F' then some (c.toNat - 'A'.toNat + 10)
  else none

/-- The value of a run of hexadecimal digits. -/
def hexNumber? (cs : List Char) : Option Nat :=
  if cs.isEmpty then none
  else cs.foldl (fun acc c => do return (← acc) * 16 + (← hexValue? c)) (some 0)

/-- The value of a run of hexadecimal digits that a plus sign may lead. -/
def signedHexNumber? : List Char → Option Nat
  | '+' :: cs => hexNumber? cs
  | cs => hexNumber? cs

/-- The character of a code point, none for surrogates and beyond the last one. -/
def charOfCode? (n : Nat) : Option Char :=
  if n < 0xD800 || (0xDFFF < n && n < 0x110000) then some (Char.ofNat n) else none

/-- The character of a byte written in an escape. -/
def charOfByte? (n : Nat) : Option Char :=
  let low := n % 256
  if low ≤ 127 && low ≠ 0 then some (Char.ofNat low) else none

/-- Digits of a base at the front of a text, at most `limit` of them. -/
def leadingDigits (p : Char → Bool) (limit : Nat) (cs : List Char) : List Char :=
  (cs.take limit).takeWhile p

/-- What an escape behind a backslash stands for, and how many characters it takes. -/
def escapeCode? : List Char → Option (Char × Nat)
  | [] => none
  | c :: cs =>
    if c = 'b' then some (Char.ofNat 8, 1)
    else if c = 'f' then some (Char.ofNat 12, 1)
    else if c = 'n' then some ('\n', 1)
    else if c = 'r' then some ('\r', 1)
    else if c = 't' then some ('\t', 1)
    else if c = 'u' || c = 'U' then
      let width := if c = 'u' then 4 else 8
      if cs.length < width then none
      else do
        let code ← signedHexNumber? (cs.take width)
        let ch ← charOfCode? code
        if ch.toNat = 0 then none else some (ch, width + 1)
    else if c = 'x' then
      let digits := leadingDigits (fun e => (hexValue? e).isSome) 2 cs
      if digits.isEmpty then some ('x', 1)
      else do
        let ch ← charOfByte? (← hexNumber? digits)
        some (ch, digits.length + 1)
    else if '0' ≤ c && c ≤ '7' then
      let digits := c :: leadingDigits (fun e => '0' ≤ e && e ≤ '7') 2 cs
      let value := digits.foldl (fun acc e => acc * 8 + (e.toNat - '0'.toNat)) 0
      (charOfByte? value).map fun ch => (ch, digits.length)
    else if c.toNat = 0 then none
    else some (c, 1)

/-- The contents of a literal with escapes. `fuel` bounds the number of characters. -/
def escapedBody : Nat → List Char → Cursor → Option (List Char × Cursor)
  | 0, _, _ => none
  | fuel + 1, soFar, k =>
    match k.rest with
    | [] => none
    | '\'' :: '\'' :: _ => escapedBody fuel ('\'' :: soFar) (k.skip 2)
    | '\'' :: _ => some (soFar.reverse, k.skip 1)
    | '\\' :: cs =>
      match escapeCode? cs with
      | some (ch, width) => escapedBody fuel (ch :: soFar) (k.skip (width + 1))
      | none => none
    | c :: _ => escapedBody fuel (c :: soFar) (k.skip 1)

/-- A literal with escapes whose letter stands here. -/
def escapedString (k : Cursor) : Except SyntaxError (Scanned Token) :=
  match escapedBody k.rest.length [] (k.skip 2) with
  | some (text, after) => .ok (.string .escaped (String.ofList text), after)
  | none => .error (.lexical "Unterminated encoded string literal" k.place)

/-- A character given by exactly `width` hexadecimal digits. -/
def codePoint (width : Nat) (k : Cursor) : Except SyntaxError (Scanned Char) :=
  let digits := k.rest.take width
  match digits.findIdx? (fun c => (hexValue? c).isNone) with
  | some i =>
    let bad := digits.getD i ' '
    .error (.lexical ("Invalid hex digit in escaped unicode string: " ++ String.singleton bad)
      (k.skip (i + 1)).place)
  | none =>
    if digits.length < width then
      .error (.lexical "Unexpected EOF while parsing hex digit in escaped unicode string."
        k.endPlace)
    else
      let code := (hexNumber? digits).getD 0
      match charOfCode? code with
      | some c => .ok (c, k.skip width)
      | none =>
        .error (.lexical ("Invalid unicode character: " ++ String.ofList (Text.hexDigits code))
          (k.skip width).place)

/-- The contents of a literal with code points. `fuel` bounds the number of characters. -/
def unicodeBody : Nat → List Char → Cursor → Except SyntaxError (Scanned (List Char))
  | 0, _, k => .error (.lexical "Unterminated unicode encoded string literal" k.endPlace)
  | fuel + 1, soFar, k =>
    match k.rest with
    | [] => .error (.lexical "Unterminated unicode encoded string literal" k.place)
    | '\'' :: '\'' :: _ => unicodeBody fuel ('\'' :: soFar) (k.skip 2)
    | '\'' :: _ => .ok (soFar.reverse, k.skip 1)
    | '\\' :: '\\' :: _ => unicodeBody fuel ('\\' :: soFar) (k.skip 2)
    | '\\' :: '+' :: _ => do
      let (c, after) ← codePoint 6 (k.skip 2)
      unicodeBody fuel (c :: soFar) after
    | '\\' :: _ => do
      let (c, after) ← codePoint 4 (k.skip 1)
      unicodeBody fuel (c :: soFar) after
    | c :: _ => unicodeBody fuel (c :: soFar) (k.skip 1)

/-- A literal with code points whose letter stands here. -/
def unicodeString (k : Cursor) : Except SyntaxError (Scanned Token) := do
  let (text, after) ← unicodeBody (k.rest.length + 1) [] (k.skip 3)
  return (.string .unicode (String.ofList text), after)

/-! ## Dollar signs -/

/-- The contents of a literal between doubled dollar signs. A single dollar sign and the character
behind it belong to the contents. -/
def dollarBody : Bool → List Char → Position → Option (List Char × Cursor)
  | _, [], _ => none
  | afterDollar, c :: cs, place =>
    if afterDollar then
      if c = '$' then some ([], ⟨cs, place.advance c⟩)
      else (dollarBody false cs (place.advance c)).map
        fun (body, after) => ('$' :: c :: body, after)
    else if c = '$' then dollarBody true cs (place.advance c)
    else (dollarBody false cs (place.advance c)).map fun (body, after) => (c :: body, after)

/-- The contents of a literal up to its closing tag, itself between dollar signs. -/
def taggedBody (close : List Char) : List Char → Position → Option (List Char × Cursor)
  | [], _ => none
  | c :: cs, place =>
    if close.isPrefixOf (c :: cs) then
      some ([], Cursor.skip close.length ⟨c :: cs, place⟩)
    else (taggedBody close cs (place.advance c)).map fun (body, after) => (c :: body, after)

/-- A placeholder or a literal that a dollar sign opens. -/
def dollar (d : Dialect) (k : Cursor) : Except SyntaxError (Scanned Token) :=
  let inner := k.skip 1
  match inner.rest, d.dollarIsPlaceholder with
  | '$' :: _, false =>
    let body := inner.skip 1
    match dollarBody false body.rest body.place with
    | some (text, after) => .ok (.dollarString (String.ofList text) none, after)
    | none => .error (.lexical "Unterminated dollar-quoted string" k.endPlace)
  | _, placeholderOnly =>
    let inTag := fun c => Text.isAlphanumeric c || c = '_' || (c = '$' && placeholderOnly)
    let (tag, after) := inner.span inTag
    match after.rest, placeholderOnly with
    | '$' :: _, false =>
      let body := after.skip 1
      match taggedBody ('$' :: (tag ++ ['$'])) body.rest body.place with
      | some (text, rest) => .ok (.dollarString (String.ofList text) (some (String.ofList tag)), rest)
      | none => .error (.lexical "Unterminated dollar-quoted, expected $" k.endPlace)
    | _, _ => .ok (.placeholder (String.ofList ('$' :: tag)), after)

/-! ## Comments -/

/-- A comment to the end of the line, opened by the given mark. -/
def lineComment (d : Dialect) (opening : String) (k : Cursor) :
    Except SyntaxError (Scanned Token) :=
  let (line, after) :=
    (k.skip opening.length).span (fun c => c != '\n' && !(d = .postgres && c = '\r'))
  .ok (.blank (opening ++ String.ofList (line ++ after.rest.take 1)), after.skip 1)

/-- The contents of a comment `depth` deep and what is left behind it; `none` if it does not
end. -/
def commentBody (nests : Bool) : Nat → List Char → Position → Option (List Char × Cursor)
  | _, [], _ => none
  | _, [_], _ => none
  | depth, c :: e :: rest, place =>
    if c = '/' && e = '*' && nests then
      (commentBody nests (depth + 1) rest ((place.advance c).advance e)).map
        fun (body, after) => (c :: e :: body, after)
    else if c = '*' && e = '/' then
      if depth ≤ 1 then some ([], ⟨rest, (place.advance c).advance e⟩)
      else
        (commentBody nests (depth - 1) rest ((place.advance c).advance e)).map
          fun (body, after) => (c :: e :: body, after)
    else
      (commentBody nests depth (e :: rest) (place.advance c)).map
        fun (body, after) => (c :: body, after)

/-- A comment whose opening stands here. -/
def comment (d : Dialect) (k : Cursor) : Except SyntaxError (Scanned Token) :=
  match commentBody d.nestsComments 1 (k.rest.drop 2) (k.skip 2).place with
  | some (body, after) => .ok (.blank ("/*" ++ String.ofList body ++ "*/"), after)
  | none => .error (.lexical "Unexpected EOF while in a multi-line comment" k.endPlace)

/-! ## Words, numbers and operators -/

/-- A word that begins with the first `n` characters. -/
def word (d : Dialect) (n : Nat) (k : Cursor) : Except SyntaxError (Scanned Token) :=
  let (more, after) := (k.skip n).span d.continuesName
  .ok (.bare (k.rest.take n ++ more), after)

/-- A word that begins with the first `n` characters; made of digits and periods alone it is a
number. -/
def nameOrNumber (d : Dialect) (n : Nat) (k : Cursor) : Except SyntaxError (Scanned Token) :=
  let (more, after) := (k.skip n).span d.continuesName
  let text := k.rest.take n ++ more
  let inNumber := fun c => c.isDigit || c = '.'
  if text.all inNumber then
    let (rest, behind) := after.span inNumber
    .ok (.number (String.ofList (text ++ rest)) false, behind)
  else .ok (.bare text, after)

/-- A run of digits; where the dialect allows it, single underscores may separate them. -/
def digitsFrom (separates : Bool) (isDigit : Char → Bool) :
    List Char → Position → List Char × Cursor
  | [], place => ([], ⟨[], place⟩)
  | c :: cs, place =>
    let separator := separates && c = '_' && match cs with
      | e :: _ => (hexValue? e).isSome
      | [] => false
    if isDigit c || separator then
      let (run, after) := digitsFrom separates isDigit cs (place.advance c)
      (c :: run, after)
    else ([], ⟨c :: cs, place⟩)

/-- A run of digits at the cursor. -/
def digits (d : Dialect) (isDigit : Char → Bool) (k : Cursor) : List Char × Cursor :=
  digitsFrom d.separatesDigits isDigit k.rest k.place

/-- Whether a letter that can open an exponent stands here. -/
def exponentOpens (k : Cursor) : Bool :=
  match k.rest with
  | e :: _ => e = 'e' || e = 'E'
  | [] => false

/-- The exponent of a number, if one stands here. -/
def exponent (k : Cursor) : List Char × Cursor :=
  match k.rest with
  | e :: cs =>
    if e = 'e' || e = 'E' then
      let sign := match cs with
        | s :: _ => if s = '+' || s = '-' then [s] else []
        | [] => []
      match cs.drop sign.length with
      | c :: _ =>
        if c.isDigit then
          let (run, after) := (k.skip (1 + sign.length)).span Char.isDigit
          (e :: (sign ++ run), after)
        else ([], k)
      | [] => ([], k)
    else ([], k)
  | [] => ([], k)

/-- A number, a period, or a name that begins with digits. A letter that can open an exponent ends
such a name whether an exponent follows or not; behind a period what stands before it is a name. -/
def number (d : Dialect) (previous : Option Token) (k : Cursor) : Except SyntaxError (Scanned Token) :=
  let afterWord := match previous with
    | some (.word _ _ _) => true
    | _ => false
  match k.rest with
  | '.' :: '_' :: _ =>
    if afterWord then .ok (.symbol ".", k.skip 1)
    else .error (.lexical "Unexpected character '_'" k.place)
  | _ =>
    let (whole, k1) := digits d Char.isDigit k
    match whole, k1.rest with
    | ['0'], 'x' :: _ =>
      let (hex, after) := digits d (fun c => (hexValue? c).isSome) (k1.skip 1)
      .ok (.string .hex (String.ofList hex), after)
    | _, _ =>
      let (point, k2) := match k1.rest with
        | '.' :: _ => (['.'], k1.skip 1)
        | _ => ([], k1)
      if whole.isEmpty && !point.isEmpty && d.namesMayStartWithDigits && afterWord then
        .ok (.symbol ".", k2)
      else
        let (fraction, k3) := digits d Char.isDigit k2
        let mantissa := whole ++ point ++ fraction
        if mantissa == ['.'] then .ok (.symbol ".", k3)
        else
          let (exp, k4) := exponent k3
          let text := mantissa ++ exp
          let (tail, k5) := if d.namesMayStartWithDigits && !exponentOpens k3
            then k4.span d.continuesName else ([], k4)
          if !tail.isEmpty then .ok (.bare (text ++ tail), k5)
          else if d.namesMayStartWithDigits && exponentOpens k3 && previous == some (.symbol ".") then
            .ok (.bare text, k4)
          else match k4.rest with
            | 'L' :: _ => .ok (.number (String.ofList text) true, k4.skip 1)
            | _ => .ok (.number (String.ofList text) false, k4)

/-- Exactly the operator that stands in the first characters. -/
def fixed (text : String) (k : Cursor) : Except SyntaxError (Scanned Token) :=
  .ok (.symbol text, k.skip text.length)

/-- Exactly the operator that stands in the first characters; the character behind it is lost. -/
def fixedAndOne (text : String) (k : Cursor) : Except SyntaxError (Scanned Token) :=
  .ok (.symbol text, k.skip (text.length + 1))

/-- An operator written in only `n` characters, or a longer one of the user's own. -/
def shortFor (d : Dialect) (text : String) (n : Nat) (k : Cursor) :
    Except SyntaxError (Scanned Token) :=
  let (more, after) := (k.skip n).span d.continuesOperator
  if more.isEmpty then .ok (.symbol text, after)
  else .ok (.customOperator (text ++ String.ofList more), after)

/-- The operator in the first characters, or a longer one of the user's own. -/
def extensible (d : Dialect) (text : String) (k : Cursor) : Except SyntaxError (Scanned Token) :=
  shortFor d text text.length k

/-- Characters that open operators without being one: only a longer operator can stand here. -/
def onlyLonger (d : Dialect) (text : String) (k : Cursor) : Except SyntaxError (Scanned Token) :=
  let (more, after) := (k.skip text.length).span d.continuesOperator
  if more.isEmpty then
    .error (.lexical ("Expected a valid binary operator after '" ++ text ++ "'") after.place)
  else .ok (.customOperator (text ++ String.ofList more), after)

/-- A comment or an operator that a dash opens. -/
def dash (d : Dialect) (k : Cursor) : Except SyntaxError (Scanned Token) :=
  match k.rest with
  | '-' :: '-' :: cs =>
    if !d.dashCommentNeedsBlank || cs.head? == some ' ' then lineComment d "--" k
    else extensible d "-" k
  | '-' :: '>' :: '>' :: _ => extensible d "->>" k
  | '-' :: '>' :: _ => extensible d "->" k
  | _ => extensible d "-" k

/-- A comment or an operator that a slash opens. -/
def slash (d : Dialect) (k : Cursor) : Except SyntaxError (Scanned Token) :=
  match k.rest with
  | '/' :: '*' :: _ => comment d k
  | '/' :: '/' :: _ =>
    if d = .snowflake then lineComment d "//" k
    else if d.isOneOf [.duckdb, .generic] then fixed "//" k
    else fixed "/" k
  | _ => fixed "/" k

/-- An operator that a bar opens. -/
def bar (d : Dialect) (k : Cursor) : Except SyntaxError (Scanned Token) :=
  match k.rest with
  | '|' :: '/' :: _ => extensible d "|/" k
  | '|' :: '|' :: '/' :: _ => extensible d "||/" k
  | '|' :: '|' :: _ => extensible d "||" k
  | '|' :: '&' :: cs =>
    if d.hasGeometry then
      if cs.head? == some '>' then extensible d "|&>" k else onlyLonger d "|&" k
    else extensible d "|" k
  | '|' :: '>' :: cs =>
    if d.hasGeometry then
      if cs.head? == some '>' then extensible d "|>>" k else onlyLonger d "|>" k
    else if d.hasPipes then extensible d "|>" k
    else extensible d "|" k
  | _ => extensible d "|" k

/-- An operator that a less-than sign opens. -/
def less (d : Dialect) (k : Cursor) : Except SyntaxError (Scanned Token) :=
  match k.rest with
  | '<' :: '=' :: '>' :: _ => extensible d "<=>" k
  | '<' :: '=' :: _ => extensible d "<=" k
  | '<' :: '|' :: _ =>
    if d.hasGeometry then shortFor d "<<|" 2 k else extensible d "<" k
  | '<' :: '>' :: _ => extensible d "<>" k
  | '<' :: '<' :: cs =>
    if d.hasGeometry && cs.head? == some '|' then extensible d "<<|" k else extensible d "<<" k
  | '<' :: '-' :: cs =>
    if d.hasGeometry then
      if cs.head? == some '>' then extensible d "<->" k else onlyLonger d "<-" k
    else extensible d "<" k
  | '<' :: '^' :: _ => if d.hasGeometry then extensible d "<^" k else extensible d "<" k
  | '<' :: '@' :: _ => extensible d "<@" k
  | _ => extensible d "<" k

/-- An operator that a greater-than sign opens. -/
def greater (d : Dialect) (k : Cursor) : Except SyntaxError (Scanned Token) :=
  match k.rest with
  | '>' :: '=' :: _ => extensible d ">=" k
  | '>' :: '>' :: _ => extensible d ">>" k
  | '>' :: '^' :: _ => if d.hasGeometry then extensible d ">^" k else extensible d ">" k
  | _ => extensible d ">" k

/-- An operator that an exclamation mark opens; both spellings of "not equal" are one operator. -/
def bang (k : Cursor) : Except SyntaxError (Scanned Token) :=
  match k.rest with
  | '!' :: '=' :: _ => .ok (.symbol "<>", k.skip 2)
  | '!' :: '!' :: _ => fixed "!!" k
  | '!' :: '~' :: '~' :: '*' :: _ => fixed "!~~*" k
  | '!' :: '~' :: '~' :: _ => fixed "!~~" k
  | '!' :: '~' :: '*' :: _ => fixed "!~*" k
  | '!' :: '~' :: _ => fixed "!~" k
  | _ => fixed "!" k

/-- An operator that an ampersand opens. -/
def ampersand (d : Dialect) (k : Cursor) : Except SyntaxError (Scanned Token) :=
  match k.rest with
  | '&' :: '>' :: _ => if d.hasGeometry then fixedAndOne "&>" k else extensible d "&" k
  | '&' :: '<' :: cs =>
    if d.hasGeometry then
      if cs.head? == some '|' then fixed "&<|" k else extensible d "&<" k
    else extensible d "&" k
  | '&' :: '&' :: _ => extensible d "&&" k
  | _ => extensible d "&" k

/-- An operator that a tilde opens. -/
def tilde (d : Dialect) (k : Cursor) : Except SyntaxError (Scanned Token) :=
  match k.rest with
  | '~' :: '*' :: _ => extensible d "~*" k
  | '~' :: '=' :: _ => if d.hasGeometry then extensible d "~=" k else extensible d "~" k
  | '~' :: '~' :: '*' :: _ => extensible d "~~*" k
  | '~' :: '~' :: _ => extensible d "~~" k
  | _ => extensible d "~" k

/-- A comment, an operator or a name that a hash sign opens. -/
def hash (d : Dialect) (k : Cursor) : Except SyntaxError (Scanned Token) :=
  if d.hasHashComments then lineComment d "#" k
  else match k.rest with
    | '#' :: '-' :: _ => extensible d "#-" k
    | '#' :: '>' :: '>' :: _ => extensible d "#>>" k
    | '#' :: '>' :: _ => extensible d "#>" k
    | '#' :: ' ' :: _ => fixed "#" k
    | '#' :: c :: _ =>
      if c = '#' && d.hasGeometry then extensible d "##" k
      else if d.startsName '#' then nameOrNumber d 2 k
      else extensible d "#" k
    | _ => extensible d "#" k

/-- An operator or a name that an at sign opens. -/
def atSign (d : Dialect) (k : Cursor) : Except SyntaxError (Scanned Token) :=
  match k.rest with
  | '@' :: '@' :: cs =>
    if d.hasGeometry then fixed "@@" k
    else match cs with
      | c :: _ =>
        if c != ' ' && d.startsName '@' then nameOrNumber d 3 k else fixed "@@" k
      | [] => fixed "@@" k
  | '@' :: '-' :: cs =>
    if d.hasGeometry then
      if cs.head? == some '@' then fixed "@-@" k else onlyLonger d "@-" k
    else if d.startsName '@' then nameOrNumber d 2 k
    else fixed "@" k
  | '@' :: '>' :: _ => fixed "@>" k
  | '@' :: '?' :: _ => fixed "@?" k
  | '@' :: c :: _ =>
    if c = ' ' || c = '\'' || c = '"' || c = '\x60' then fixed "@" k
    else if d.startsName '@' then nameOrNumber d 2 k
    else fixed "@" k
  | _ => fixed "@" k

/-- An operator or a placeholder that a question mark opens. -/
def question (d : Dialect) (k : Cursor) : Except SyntaxError (Scanned Token) :=
  if d.hasGeometry then
    match k.rest with
    | '?' :: '|' :: '|' :: _ => fixed "?||" k
    | '?' :: '|' :: _ => fixed "?|" k
    | '?' :: '&' :: _ => fixed "?&" k
    | '?' :: '-' :: '|' :: _ => fixed "?-|" k
    | '?' :: '-' :: _ => fixed "?-" k
    | '?' :: '#' :: _ => fixed "?#" k
    | _ => fixedAndOne "?" k
  else
    let (run, after) := (k.skip 1).span Text.isNumeric
    .ok (.placeholder (String.ofList ('?' :: run)), after)

/-- A byte or raw string literal, or a word with the same first letter. -/
def lettered (d : Dialect) (one three two threeTwo : StringKind) (k : Cursor) :
    Except SyntaxError (Scanned Token) :=
  let inner := k.skip 1
  match inner.rest with
  | '\'' :: _ =>
    if d.hasTripleQuotes || one = .rawSingle then oneOrThreeQuotes d one three '\'' false inner
    else stringLiteral d one '\'' false inner
  | '"' :: _ =>
    if d.hasTripleQuotes || one = .rawSingle then
      oneOrThreeQuotes d two threeTwo '"' false inner
    else stringLiteral d two '"' false inner
  | _ => word d 1 k

/-- The token that a letter opens: a marked string literal or a word. -/
def letter (d : Dialect) (c : Char) (k : Cursor) : Option (Except SyntaxError (Scanned Token)) :=
  if (c = 'b' || c = 'B') && d.hasByteStrings then
    some (lettered d .byteSingle .byteTripleSingle .byteDouble .byteTripleDouble k)
  else if (c = 'r' || c = 'R') && d.hasRawStrings then
    some (lettered d .rawSingle .rawTripleSingle .rawDouble .rawTripleDouble k)
  else if c = 'n' || c = 'N' then
    match k.rest with
    | _ :: '\'' :: _ =>
      some (stringLiteral d .national '\'' d.backslashEscapes (k.skip 1))
    | _ => some (word d 1 k)
  else if (c = 'e' || c = 'E') && d.hasEscapeStrings then
    match k.rest with
    | _ :: '\'' :: _ => some (escapedString k)
    | _ => some (word d 1 k)
  else if (c = 'u' || c = 'U') && d.hasUnicodeStrings then
    match k.rest with
    | _ :: '&' :: '\'' :: _ => some (unicodeString k)
    | _ => some (word d 1 k)
  else if c = 'x' || c = 'X' then
    match k.rest with
    | _ :: '\'' :: _ => some (stringLiteral d .hex '\'' true (k.skip 1))
    | _ => some (word d 1 k)
  else none

/-- The token that a quote opens, in the dialects where it opens one. -/
def quote (d : Dialect) (c : Char) (k : Cursor) : Option (Except SyntaxError (Scanned Token)) :=
  if c = '\'' then some (plainString d .single .tripleSingle '\'' k)
  else if c = '"' && !d.opensQuotedName c && !d.startsName c then
    some (plainString d .double .tripleDouble '"' k)
  else if d.opensQuotedName c then some (quotedName c k)
  else if c = '[' && d = .redshift then
    match bracketQuote d (k.rest.drop 1) with
    | some none => some (quotedName '[' k)
    | some (some _) => some (bracketedName k)
    | none => none
  else none

/-- The token that a mark of punctuation opens. -/
def mark (d : Dialect) (c : Char) (k : Cursor) : Option (Except SyntaxError (Scanned Token)) :=
  match c with
  | '(' | ')' | ',' | ';' | '\\' | '[' | ']' | '\x7b' | '\x7d' | '+' | '*' =>
    some (fixed (String.singleton c) k)
  | '-' => some (dash d k)
  | '/' => some (slash d k)
  | '%' =>
    match k.rest with
    | _ :: e :: _ => some (if Text.isBlank e then fixed "%" k else extensible d "%" k)
    | _ => some (extensible d "%" k)
  | '|' => some (bar d k)
  | '=' =>
    match k.rest with
    | _ :: '>' :: _ => some (fixed "=>" k)
    | _ :: '=' :: _ => some (fixed "==" k)
    | _ => some (fixed "=" k)
  | '!' => some (bang k)
  | '<' => some (less d k)
  | '>' => some (greater d k)
  | ':' =>
    match k.rest with
    | _ :: ':' :: _ => some (fixed "::" k)
    | _ :: '=' :: _ => some (fixed ":=" k)
    | _ => some (fixed ":" k)
  | '&' => some (ampersand d k)
  | '^' =>
    match k.rest with
    | _ :: '@' :: _ => some (fixed "^@" k)
    | _ => some (fixed "^" k)
  | '#' => some (hash d k)
  | '~' => some (tilde d k)
  | '@' => some (atSign d k)
  | '?' => some (question d k)
  | _ => none

/-- The token that begins at the cursor, given the one before it. -/
def token (d : Dialect) (previous : Option Token) (k : Cursor) : Except SyntaxError (Scanned Token) :=
  match k.rest with
  | [] => .ok (.eof, k)
  | c :: cs =>
    if c = ' ' || c = '\t' || c = '\n' then .ok (.blank (String.singleton c), k.skip 1)
    else if c = '\r' then .ok (.blank "\n", k.skip (if cs.head? == some '\n' then 2 else 1))
    else match letter d c k with
      | some found => found
      | none =>
        match quote d c k with
        | some found => found
        | none =>
          if c.isDigit || c = '.' then number d previous k
          else match mark d c k with
            | some found => found
            | none =>
              if d.startsName c then nameOrNumber d 1 k
              else if c = '$' then dollar d k
              else if Text.isBlank c then .ok (.blank " ", k.skip 1)
              else .ok (.char c, k.skip 1)

/-- All tokens from the cursor on, behind those already read. Every token takes at least one
character, so `fuel` need not exceed the length of the text. -/
def tokensFrom (d : Dialect) : Nat → Option Token → Cursor → Array Located →
    Except SyntaxError (Array Located)
  | 0, _, _, done => .ok done
  | fuel + 1, previous, k, done =>
    match k.rest with
    | [] => .ok done
    | _ :: _ => do
      let (t, after) ← token d previous k
      tokensFrom d fuel (some t) after (done.push ⟨t, some k.place⟩)

/-- The tokens of a text. -/
def tokens (d : Dialect) (text : String) : Except SyntaxError (Array Located) :=
  let cs := text.toList
  tokensFrom d cs.length none ⟨cs, .start⟩ #[]

end Lexer

end QueryGuard.Sql
