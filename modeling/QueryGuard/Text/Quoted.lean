import QueryGuard.Text.Visible

/-!
Quoted forms of texts and characters, as messages show them.

The first is for texts as such: the quote that encloses the text and the backslash are written with a backslash before them; tab,
carriage return, line feed and NUL have short forms; every other character that is not visible is
written by its code point in lower-case hexadecimal. The second is for names and literals of a
script, where a quote inside is doubled.
-/

namespace QueryGuard.Text

/-- The lower-case hexadecimal digits of a number. -/
def hexDigits (n : Nat) : List Char :=
  Nat.toDigits 16 n

/-- One character of a quoted form enclosed in `quote`. -/
def quoteChar (quote c : Char) : List Char :=
  if c = '\t' then ['\\', 't']
  else if c = '\r' then ['\\', 'r']
  else if c = '\n' then ['\\', 'n']
  else if c.toNat = 0 then ['\\', '0']
  else if c = '\\' || c = quote then ['\\', c]
  else if isVisible c then [c]
  else ['\\', 'u', '\x7b'] ++ hexDigits c.toNat ++ ['\x7d']

/-- A text between double quotes. -/
def quoted (s : String) : String :=
  String.ofList ('"' :: (s.toList.flatMap (quoteChar '"') ++ ['"']))

/-- A character between single quotes. -/
def quotedChar (c : Char) : String :=
  String.ofList ('\'' :: (quoteChar '\'' c ++ ['\'']))

/-- The characters of a text to stand between the given quotes. A quote among them that is doubled
or stands behind a backslash is left as it is, any other is doubled. `escaped` says that a
backslash stands before. -/
def enclosedChars (quote : Char) (escaped : Bool) : List Char → List Char
  | [] => []
  | c :: cs =>
    if c != quote then c :: enclosedChars quote (c = '\\') cs
    else if escaped then c :: enclosedChars quote true cs
    else match cs with
      | [] => [c, c]
      | e :: es =>
        if e = quote then c :: e :: enclosedChars quote false es
        else c :: c :: enclosedChars quote false (e :: es)

/-- A text between the given quotes. -/
def enclosed (quote : Char) (s : String) : String :=
  String.ofList (quote :: (enclosedChars quote false s.toList ++ [quote]))

/-- A list of texts in square brackets, each between double quotes. -/
def quotedList (xs : List String) : String :=
  "[" ++ ", ".intercalate (xs.map quoted) ++ "]"

end QueryGuard.Text
