import QueryGuard.Sql.Grammar.Names

/-!
How tightly operators bind.

Precedences are numbers; an operator is taken into an expression while its number exceeds the one
the expression was asked for. One dialect has an order of its own.
-/

namespace QueryGuard.Sql.Grammar

open Sql.Parser

/-- The levels at which operators bind. -/
inductive Binding where
  | or | and | not | otherOperator | is | like | eq | between | pipe | caret | ampersand | xor
  | plusMinus | timesDivide | atTimeZone | cast | period
deriving DecidableEq, Repr

/-- The precedence of a level in a dialect. -/
def Binding.precedence (b : Binding) (d : Dialect) : Nat :=
  if d = .postgres then
    match b with
    | or => 10 | and => 20 | not => 30 | is => 40 | eq => 50 | between => 60 | like => 60
    | otherOperator => 70 | pipe => 70 | ampersand => 70 | xor => 75 | plusMinus => 80
    | timesDivide => 90 | caret => 100 | atTimeZone => 110 | cast => 140 | period => 200
  else
    match b with
    | or => 5 | and => 10 | not => 15 | otherOperator => 16 | is => 17 | like => 19 | eq => 20
    | between => 20 | pipe => 21 | caret => 22 | ampersand => 23 | xor => 24 | plusMinus => 30
    | timesDivide => 40 | atTimeZone => 41 | cast => 50 | period => 100

/-- The level of a symbol between two expressions. -/
def symbolBinding (s : String) : Option Binding :=
  if s == "." then some .period
  else if [":=", "=", "<", "<=", "<>", ">", ">=", "==", "~", "~*", "!~", "!~*", "~~", "~~*", "!~~",
    "!~~*", "<=>"].contains s then some .eq
  else if ["|", "?-", "##", "&&", "&<", "&>", "?-|", "&<|", "|&>", "<->", "<^", ">^", "?#", "?||",
    "?|", "~=", "@", "<<|", "|>>"].contains s then some .pipe
  else if ["^", "#", ">>", "<<"].contains s then some .caret
  else if s == "&" then some .ampersand
  else if s == "+" || s == "-" then some .plusMinus
  else if ["*", "/", "//", "%", "||"].contains s then some .timesDivide
  else if ["::", "!", "[", "^@"].contains s then some .cast
  else if ["->", "->>", "#>", "#>>", "@>", "<@", "#-", "@?", "@@", "?", "?&"].contains s then
    some .otherOperator
  else none

/-- The level of a keyword between two expressions. -/
def keywordBinding (k : String) : Option Binding :=
  match k with
  | "OR" => some .or
  | "AND" => some .and
  | "XOR" => some .xor
  | "IS" => some .is
  | "IN" | "BETWEEN" | "OVERLAPS" | "OPERATOR" => some .between
  | "LIKE" | "ILIKE" | "RLIKE" | "REGEXP" | "MATCH" | "SIMILAR" | "MEMBER" => some .like
  | "DIV" => some .timesDivide
  | _ => none

/-- Symbols that bind like any other operator in the dialect with an order of its own. -/
def otherOperators : List String :=
  ["->", "->>", "#>", "#>>", "@>", "<@", "#-", "@?", "@@", "?", "?&", "?|", "!", "&&", "^@", "||",
   "#", ">>", "<<"]

/-- The precedence of the next token as an operator, zero if it is none. -/
def nextPrecedence : Parser Nat := do
  let c ← context
  let d := c.dialect
  let level := fun (b : Option Binding) => match b with
    | some b => b.precedence d
    | none => 0
  match ← peek with
  | .symbol s =>
    if d = .postgres && s == "[" then return 130
    else if d = .postgres && otherOperators.contains s then
      return Binding.otherOperator.precedence d
    else if d = .snowflake && s == ":" then return Binding.cast.precedence d
    else return level (symbolBinding s)
  | .customOperator _ => return Binding.otherOperator.precedence d
  | .word _ _ k =>
    match k with
    | "" => return 0
    | "COLLATE" => return if d = .postgres && c.setting != .columnOptions then 120 else 0
    | "AT" =>
      if (← peekNthWord 1 "TIME") && (← peekNthWord 2 "ZONE") then
        return Binding.atTimeZone.precedence d
      else return 0
    | "NOT" =>
      match (← peekNth 1).keyword with
      | "IN" | "BETWEEN" => return Binding.between.precedence d
      | "LIKE" | "ILIKE" | "RLIKE" | "REGEXP" | "MATCH" | "SIMILAR" | "MEMBER" =>
        return Binding.like.precedence d
      | "NULL" => return if c.setting == .columnOptions then 0 else Binding.is.precedence d
      | _ => return 0
    | "NOTNULL" => return if d.notNullTest then Binding.is.precedence d else 0
    | k => return level (keywordBinding k)
  | _ => return 0

end QueryGuard.Sql.Grammar
