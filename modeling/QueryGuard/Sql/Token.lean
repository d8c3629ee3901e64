import QueryGuard.Text.Quoted

/-!
Tokens of a script and the places they stand at.

A token remembers how it was written as far as a message can show it: a quoted name keeps its
quote, a string literal its kind. A word also carries its keyword form, by which the grammar
recognises it; a quoted name is never a keyword.
-/

namespace QueryGuard.Sql

/-- A place in the text: line and column, both counted from one in characters. -/
structure Position where
  line : Nat
  column : Nat
deriving DecidableEq, Repr

namespace Position

/-- The place where a text begins. -/
def start : Position := ⟨1, 1⟩

/-- The place behind one more character. -/
def advance (p : Position) (c : Char) : Position :=
  if c = '\n' then ⟨p.line + 1, 1⟩ else ⟨p.line, p.column + 1⟩

/-- The place behind a run of characters. -/
def advanceAll (p : Position) (cs : List Char) : Position :=
  cs.foldl advance p

/-- How a message names a place. -/
def suffix (p : Position) : String :=
  " at Line: " ++ toString p.line ++ ", Column: " ++ toString p.column

end Position

/-- The kinds of string literals. -/
inductive StringKind where
  | single | double | tripleSingle | tripleDouble
  | byteSingle | byteDouble | byteTripleSingle | byteTripleDouble
  | rawSingle | rawDouble | rawTripleSingle | rawTripleDouble
  | national | escaped | unicode | hex
deriving DecidableEq, Repr

namespace StringKind

/-- What stands before and behind the contents of a literal. -/
def delimiters : StringKind → String × String
  | single => ("'", "'")
  | double => ("\"", "\"")
  | tripleSingle => ("'''", "'''")
  | tripleDouble => ("\"\"\"", "\"\"\"")
  | byteSingle => ("B'", "'")
  | byteDouble => ("B\"", "\"")
  | byteTripleSingle => ("B'''", "'''")
  | byteTripleDouble => ("B\"\"\"", "\"\"\"")
  | rawSingle => ("R'", "'")
  | rawDouble => ("R\"", "\"")
  | rawTripleSingle => ("R'''", "'''")
  | rawTripleDouble => ("R\"\"\"", "\"\"\"")
  | national => ("N'", "'")
  | escaped => ("E'", "'")
  | unicode => ("U&'", "'")
  | hex => ("X'", "'")

end StringKind

/-- The tokens of a script. -/
inductive Token where
  /-- The end of the text. -/
  | eof
  /-- A name or keyword, with the quote it was written in and its keyword form. -/
  | word (text : String) (quote : Option Char) (keyword : String)
  /-- A number, with or without the suffix of a long one. -/
  | number (text : String) (long : Bool)
  /-- A string literal. -/
  | string (kind : StringKind) (text : String)
  /-- A string literal between dollar signs and an optional tag. -/
  | dollarString (text : String) (tag : Option String)
  /-- Punctuation or an operator of the language. -/
  | symbol (text : String)
  /-- An operator of the user's own. -/
  | customOperator (text : String)
  /-- A place for a parameter. -/
  | placeholder (text : String)
  /-- A blank or a comment, as a message shows it. -/
  | blank (text : String)
  /-- A character that begins no token. -/
  | char (c : Char)
deriving DecidableEq, Repr

namespace Token

/-- Whether a token is a blank or a comment. -/
def isBlank : Token → Bool
  | .blank _ => true
  | _ => false

/-- The upper-case form of a character, as far as it is made of ASCII letters. -/
def upperChar (c : Char) : List Char :=
  if c.toNat < 128 then [c.toUpper]
  else match c.toNat with
    | 0xDF => ['S', 'S']
    | 0x131 => ['I']
    | 0x17F => ['S']
    | 0xFB00 => ['F', 'F']
    | 0xFB01 => ['F', 'I']
    | 0xFB02 => ['F', 'L']
    | 0xFB03 => ['F', 'F', 'I']
    | 0xFB04 => ['F', 'F', 'L']
    | 0xFB05 => ['S', 'T']
    | 0xFB06 => ['S', 'T']
    | _ => [c]

/-- The keyword form of an unquoted word. -/
def keywordForm (cs : List Char) : String :=
  String.ofList (cs.flatMap upperChar)

/-- An unquoted word. -/
def bare (cs : List Char) : Token :=
  .word (String.ofList cs) none (keywordForm cs)

/-- A quoted name. -/
def quotedName (text : String) (quote : Char) : Token :=
  .word text (some quote) ""

/-- The keyword form of a token, empty for all but unquoted words. -/
def keyword : Token → String
  | .word _ _ k => k
  | _ => ""

/-- How a message shows a token. -/
def render : Token → String
  | .eof => "EOF"
  | .word text none _ => text
  | .word text (some q) _ =>
    String.singleton q ++ text ++ String.singleton (if q = '[' then ']' else q)
  | .number text long => if long then text ++ "L" else text
  | .string kind text => kind.delimiters.1 ++ text ++ kind.delimiters.2
  | .dollarString text none => "$$" ++ text ++ "$$"
  | .dollarString text (some tag) => "$" ++ tag ++ "$" ++ text ++ "$" ++ tag ++ "$"
  | .symbol text => text
  | .customOperator text => text
  | .placeholder text => text
  | .blank text => text
  | .char c => String.singleton c

end Token

/-- A token and the place where it begins; the end of the text has no place. -/
structure Located where
  token : Token
  place : Option Position
deriving DecidableEq, Repr

/-- What stands behind the last token. -/
def Located.eof : Located := ⟨.eof, none⟩

end QueryGuard.Sql
