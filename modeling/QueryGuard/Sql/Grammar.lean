import QueryGuard.Sql.Grammar.Statement

/-!
The grammar as a whole: from a text to the statements of its script.

Statements, queries, expressions and columns nest in each other. The rules are written against the
rules one level further in, and the whole is tied together by counting the levels down: at the last
one every rule that nests fails.

The grammar stands for a parser that belongs to a library, as far as a guard can tell: which texts
are scripts, what a reader of a script meets and in which order, and the wording of a refusal. Left
out are

* the records that the library makes on its own while it reads, which have an origin of their own
  and of which no result depends;
* its breaking off where DIV (in MySQL), REGEXP or MATCH (in SQLite) has no operand on its right,
  which is a syntax error here as it is for the other operators;
* the parts of the argument of IDENTIFIER in a name (in Snowflake), of which only the text is kept;
* the place of the types in the column list of a common table expression: what is met in them is
  kept with the other clauses of the query, behind its body.

What nothing reads is not kept at all: the names of columns and aliases of expressions, literals,
operators, and the options and modifiers of statements beyond what is met in them.
-/

namespace QueryGuard.Sql

/-- The rules that nest, with so many levels of nesting left. -/
def grammar : Nat → Grammar.Nested
  | 0 =>
    { statement := .fail .tooDeep
      query := .fail .tooDeep
      subexpr := fun _ => .fail .tooDeep
      columnDef := .fail .tooDeep }
  | depth + 1 =>
    { statement := Grammar.statement (grammar depth)
      query := Grammar.query (grammar depth)
      subexpr := Grammar.subexpression (grammar depth)
      columnDef := Grammar.columnDef (grammar depth) }

/-- How deeply statements, queries and expressions may nest. -/
def maxDepth : Nat :=
  50

open Sql.Parser in
/-- The statements of a script, with semicolons between them. The word END behind a statement ends
the script. -/
def statements : Parser (List Statement) :=
  loop ([], false) fun ((soFar, begun) : List Statement × Bool) => do
    let closed ← loop false fun any => do
      if ← symbol ";" then return .again true else return .done any
    let needsEnd := begun && !closed
    let t ← peekLocated
    if t.token == .eof then return .done soFar.reverse
    else if needsEnd && t.token.keyword == "END" then return .done soFar.reverse
    else if needsEnd then unexpected "end of statement" t
    else
      let s ← (grammar maxDepth).statement
      return .again (s :: soFar, true)

/-- The statements of a text in a dialect. -/
def parse (d : Dialect) (text : String) : Except SyntaxError (List Statement) := do
  let tokens ← Lexer.tokens d text
  let (script, _) ← statements { dialect := d, tokens := tokens } 0
  return script

end QueryGuard.Sql
