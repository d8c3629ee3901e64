import QueryGuard.Sql.Grammar.Query

/-!
Statements made of statements: lists of them, branches, loops and blocks with handlers.
-/

namespace QueryGuard.Sql.Grammar

open Sql.Parser

/-- Statements, each closed by a semicolon, up to one of the given keywords or the end. -/
def statementList (g : Nested) (ends : List String) : Parser (List Part) :=
  loop [] fun (soFar : List Part) => do
    let t ← peek
    if t == .eof || ends.contains t.keyword then return .done soFar
    else
      let s ← g.statementParts
      expectSymbol ";"
      return .again (soFar ++ s)

/-- Statements up to one of the given keywords, between BEGIN and END if BEGIN comes next. -/
def branch (g : Nested) (ends : List String) : Parser (List Part) := do
  if ← word "BEGIN" then
    let ss ← statementList g ends
    expectWord "END"
    return ss
  else statementList g ends

/-- A condition, THEN, and the statements of its branch. -/
def conditionalBranch (g : Nested) (ends : List String) : Parser (List Part) := do
  let condition ← g.exprParts
  expectWord "THEN"
  let ss ← branch g ends
  return condition ++ ss

/-- Branches behind a keyword that has been read, separated by the same keyword. -/
def branches (g : Nested) (k : String) (ends : List String) : Parser (List Part) :=
  loop [] fun (soFar : List Part) => do
    let b ← conditionalBranch g ends
    if ← word k then return .again (soFar ++ b) else return .done (soFar ++ b)

/-- CASE as a statement, behind its keyword. -/
def caseStatement (g : Nested) : Parser Statement := do
  let subject ← if ← peekWord "WHEN" then pure [] else g.exprParts
  expectWord "WHEN"
  let cases ← branches g "WHEN" ["WHEN", "ELSE", "END"]
  let otherwise ← partsAfter "ELSE" (branch g ["END"])
  expectWord "END"
  let _ ← word "CASE"
  return .plain (.other "CASE") (subject ++ cases ++ otherwise)

/-- IF as a statement, behind its keyword. -/
def ifStatement (g : Nested) : Parser Statement := do
  let first ← conditionalBranch g ["ELSE", "ELSEIF", "END"]
  let more ← partsAfter "ELSEIF" (branches g "ELSEIF" ["ELSEIF", "ELSE", "END"])
  let otherwise ← partsAfter "ELSE" (branch g ["END"])
  expectWord "END"
  expectWord "IF"
  return .plain (.other "IF") (first ++ more ++ otherwise)

/-- WHILE as a statement, behind its keyword. -/
def whileStatement (g : Nested) : Parser Statement := do
  let condition ← g.exprParts
  let ss ← branch g ["END"]
  return .plain (.other "WHILE") (condition ++ ss)

/-- RAISE behind its keyword. -/
def raiseStatement (g : Nested) : Parser Statement := do
  let parts ← if ← words ["USING", "MESSAGE"] then do
      expectSymbol "="
      g.exprParts
    else do pure ((← attempt g.exprParts).getD [])
  return .plain (.other "RAISE") parts

/-- The statements of a block and of its handlers, behind BEGIN. -/
def blockWithHandlers (g : Nested) : Parser Statement := do
  let ss ← statementList g ["EXCEPTION", "END"]
  let handlers ← if ← word "EXCEPTION" then
      loop [] fun (soFar : List Part) => do
        if ← peekWord "END" then return .done soFar
        else
          expectWord "WHEN"
          whileTrue do
            if ← word "THEN" then return false
            else
              someIdentifier
              let _ ← word "OR"
              return true
          let handler ← statementList g ["WHEN", "END"]
          return .again (soFar ++ handler)
    else pure []
  expectWord "END"
  return .plain .transaction (ss ++ handlers)

/-! ## Branches without THEN -/

/-- Statements with any number of semicolons between them, up to END. -/
def looseStatementList (g : Nested) : Parser (List Part) :=
  loop [] fun (soFar : List Part) => do
    if (← peek) == .eof || (← peekWord "END") then return .done soFar
    else
      let s ← g.statementParts
      whileTrue (symbol ";")
      return .again (soFar ++ s)

/-- A single statement, or several between BEGIN and END. -/
def looseBranch (g : Nested) : Parser (List Part) := do
  if ← word "BEGIN" then
    let ss ← looseStatementList g
    expectWord "END"
    return ss
  else g.statementParts

/-- IF without THEN, behind its keyword. A semicolon that ELSE does not follow is given back. -/
def looseIf (g : Nested) : Parser Statement := do
  let condition ← g.exprParts
  let ss ← looseBranch g
  let closed ← loop false fun closed => do
    if ← symbol ";" then return .again true else return .done closed
  let otherwise ← if ← word "ELSE" then looseBranch g
    else do
      if closed then back
      pure []
  return .plain (.other "IF") (condition ++ ss ++ otherwise)

end QueryGuard.Sql.Grammar
