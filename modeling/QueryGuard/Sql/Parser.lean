import QueryGuard.Sql.Lexer

/-!
Parsers: what a rule of the grammar is made of.

A parser looks at the tokens from a position on and either fails or gives a result and the
position behind what it has read. Blanks are tokens too and are passed over by nearly every step.
A parser that fails changes nothing, so going back is starting again from an earlier position.
-/

namespace QueryGuard.Sql

/-- Where an expression stands, as far as it changes what its words mean. -/
inductive Setting where
  | ordinary
  /-- Among the relationships of a hierarchical query, where PRIOR is an operator. -/
  | hierarchy
  /-- Among the options of a column, where NOT NULL and COLLATE belong to the column. -/
  | columnOptions
deriving DecidableEq, Repr

/-- What stays the same while a stretch of tokens is read. -/
structure Context where
  dialect : Dialect
  tokens : Array Located
  setting : Setting := .ordinary

namespace Context

/-- The token at a position, blanks included. -/
def tokenAt (c : Context) (i : Nat) : Located :=
  c.tokens.getD i .eof

/-- Whether a blank stands at a position. -/
def isBlankAt (c : Context) (i : Nat) : Bool :=
  (c.tokenAt i).token.isBlank

end Context

/-- A rule of the grammar. -/
def Parser (α : Type) : Type :=
  Context → Nat → Except SyntaxError (α × Nat)

namespace Parser

instance : Monad Parser where
  pure a := fun _ i => .ok (a, i)
  bind p f := fun c i =>
    match p c i with
    | .ok (a, j) => f a c j
    | .error e => .error e

/-- Fails for the given reason. -/
def fail (e : SyntaxError) : Parser α :=
  fun _ _ => .error e

/-- The surroundings. -/
def context : Parser Context :=
  fun c i => .ok (c, i)

/-- The dialect of the script. -/
def dialect : Parser Dialect :=
  fun c i => .ok (c.dialect, i)

/-- A property of the dialect. -/
def feature (p : Dialect → Bool) : Parser Bool :=
  fun c i => .ok (p c.dialect, i)

/-- Whether the dialect is one of those given. -/
def dialectIn (ds : List Dialect) : Parser Bool :=
  feature (·.isOneOf ds)

/-- The current position. -/
def position : Parser Nat :=
  fun _ i => .ok (i, i)

/-- Goes on from the given position. -/
def moveTo (i : Nat) : Parser Unit :=
  fun _ _ => .ok ((), i)

/-- Runs a parser in another setting. -/
def within (setting : Setting) (p : Parser α) : Parser α :=
  fun c i => p { c with setting := setting } i

/-- Whether the current setting is the given one. -/
def settingIs (setting : Setting) : Parser Bool :=
  fun c i => .ok (c.setting == setting, i)

/-! ## Looking at tokens -/

/-- The first position from `i` on that holds no blank. `fuel` bounds the blanks passed over. -/
def skipBlanks (c : Context) : Nat → Nat → Nat
  | 0, i => i
  | fuel + 1, i => if c.isBlankAt i then skipBlanks c fuel (i + 1) else i

/-- The position of the next token that is no blank. -/
def nextIndex (c : Context) (i : Nat) : Nat :=
  skipBlanks c (c.tokens.size - i) i

/-- The position of the `n`-th token from here on, blanks not counted. -/
def nthIndex (c : Context) : Nat → Nat → Nat
  | 0, i => nextIndex c i
  | n + 1, i => nthIndex c n (nextIndex c i + 1)

/-- The `n`-th token from here on with its place, left where it is. -/
def peekNthLocated (n : Nat) : Parser Located :=
  fun c i => .ok (c.tokenAt (nthIndex c n i), i)

/-- The next token with its place, left where it is. -/
def peekLocated : Parser Located :=
  peekNthLocated 0

/-- The next token, left where it is. -/
def peek : Parser Token :=
  fun c i => .ok ((c.tokenAt (nextIndex c i)).token, i)

/-- The `n`-th token from here on, left where it is. -/
def peekNth (n : Nat) : Parser Token :=
  fun c i => .ok ((c.tokenAt (nthIndex c n i)).token, i)

/-- The very next token, blanks included, left where it is. -/
def peekRaw : Parser Token :=
  fun c i => .ok ((c.tokenAt i).token, i)

/-- Takes the next token, with its place. -/
def nextLocated : Parser Located :=
  fun c i =>
    let j := nextIndex c i
    .ok (c.tokenAt j, j + 1)

/-- Takes the next token. -/
def next : Parser Token := do
  return (← nextLocated).token

/-- Takes the very next token, blanks included. -/
def nextRaw : Parser Located :=
  fun c i => .ok (c.tokenAt i, i + 1)

/-- Takes the next token and gives nothing. -/
def skip : Parser Unit :=
  fun c i => .ok ((), nextIndex c i + 1)

/-- The last position before `i` that holds no blank. -/
def lastIndex (c : Context) : Nat → Nat
  | 0 => 0
  | i + 1 => if c.isBlankAt i then lastIndex c i else i

/-- The last token taken, with its place. -/
def lastLocated : Parser Located :=
  fun c i => .ok (c.tokenAt (lastIndex c i), i)

/-- Gives the last token back. -/
def back : Parser Unit :=
  fun c i => .ok ((), lastIndex c i)

/-- Fails because something else was needed where a given token stands. -/
def unexpected (what : String) (found : Located) : Parser α :=
  fail (.expected what found)

/-- Fails because something else was needed where the next token stands. -/
def needed (what : String) : Parser α := do
  unexpected what (← peekLocated)

/-- Fails with a message about no place. -/
def refuse (message : String) : Parser α :=
  fail (.refused message none)

/-- Fails with a message about the place of the next token. -/
def refuseHere (message : String) : Parser α := do
  fail (.refused message (← peekLocated).place)

/-! ## Symbols and keywords -/

/-- Whether the next token is the given symbol. -/
def peekSymbol (s : String) : Parser Bool := do
  return (← peek) == .symbol s

/-- Takes the next token if it is the given symbol. -/
def symbol (s : String) : Parser Bool :=
  fun c i =>
    let j := nextIndex c i
    if (c.tokenAt j).token == .symbol s then .ok (true, j + 1) else .ok (false, i)

/-- Takes the given symbols if all of them come next. -/
def symbols (ss : List String) : Parser Bool :=
  fun c i =>
    let step := fun (acc : Option Nat) s => do
      let i ← acc
      let j := nextIndex c i
      if (c.tokenAt j).token == .symbol s then some (j + 1) else none
    match ss.foldl step (some i) with
    | some j => .ok (true, j)
    | none => .ok (false, i)

/-- Takes the given symbol or fails. -/
def expectSymbol (s : String) : Parser Unit := do
  unless ← symbol s do needed s

/-- Whether the next token is the given keyword. -/
def peekWord (k : String) : Parser Bool := do
  return (← peek).keyword == k

/-- Whether the `n`-th token from here on is the given keyword. -/
def peekNthWord (n : Nat) (k : String) : Parser Bool := do
  return (← peekNth n).keyword == k

/-- Whether the next token is one of the given keywords. -/
def peekAnyWord (ks : List String) : Parser Bool := do
  return ks.contains (← peek).keyword

/-- Takes the next token if it is the given keyword. -/
def word (k : String) : Parser Bool :=
  fun c i =>
    let j := nextIndex c i
    if (c.tokenAt j).token.keyword == k then .ok (true, j + 1) else .ok (false, i)

/-- Takes the given keywords if all of them come next. -/
def words (ks : List String) : Parser Bool :=
  fun c i =>
    let step := fun (acc : Option Nat) k => do
      let i ← acc
      let j := nextIndex c i
      if (c.tokenAt j).token.keyword == k then some (j + 1) else none
    match ks.foldl step (some i) with
    | some j => .ok (true, j)
    | none => .ok (false, i)

/-- Whether the given keywords come next. -/
def peekWords (ks : List String) : Parser Bool := do
  let i ← position
  let found ← words ks
  moveTo i
  return found

/-- Takes the next token if it is one of the given keywords. -/
def anyWord (ks : List String) : Parser (Option String) :=
  fun c i =>
    let j := nextIndex c i
    let k := (c.tokenAt j).token.keyword
    if k != "" && ks.contains k then .ok (some k, j + 1) else .ok (none, i)

/-- Takes one of the given keywords if it comes next, and forgets which. -/
def hasWord (ks : List String) : Parser Bool := do
  return (← anyWord ks).isSome

/-- Takes the given keyword or fails. -/
def expectWord (k : String) : Parser Unit := do
  unless ← word k do needed k

/-- Takes the given keywords one after the other or fails at the first that does not come. -/
def expectWords : List String → Parser Unit
  | [] => pure ()
  | k :: ks => do
    expectWord k
    expectWords ks

/-- Takes one of the given keywords or fails. -/
def expectAnyWord (ks : List String) : Parser String := do
  match ← anyWord ks with
  | some k => return k
  | none => needed ("one of " ++ " or ".intercalate ks)

/-- Takes the given keyword only if the given symbol stands behind it. -/
def wordBefore (k s : String) : Parser Bool := do
  if (← peekWord k) && (← peekNth 1) == .symbol s then
    skip
    return true
  else return false

/-! ## Choice and repetition -/

/-- Tries a parser; a failure gives nothing and takes nothing, but nesting too deep is a failure
of the whole. -/
def attempt (p : Parser α) : Parser (Option α) :=
  fun c i =>
    match p c i with
    | .ok (a, j) => .ok (some a, j)
    | .error .tooDeep => .error .tooDeep
    | .error _ => .ok (none, i)

/-- Where a parser that has failed stopped reading: behind a token that opens nothing, before any
other token it found amiss. -/
def stoppedAt (c : Context) (i : Nat) : SyntaxError → Nat
  | .expected what found =>
    match (List.range' i (c.tokens.size - i)).find? fun j => c.tokenAt j == found with
    | some j => if what == "an expression" || what == "identifier" then j + 1 else j
    | none => c.tokens.size
  | _ => nextIndex c i + 1

/-- Tries a parser; a failure gives nothing, and what was read before it stays taken. -/
def attemptTaking (p : Parser α) : Parser (Option α) :=
  fun c i =>
    match p c i with
    | .ok (a, j) => .ok (some a, j)
    | .error .tooDeep => .error .tooDeep
    | .error e => .ok (none, stoppedAt c i e)

/-- The outcome of a parser; a failure takes nothing. -/
def outcome (p : Parser α) : Parser (Except SyntaxError α) :=
  fun c i =>
    match p c i with
    | .ok (a, j) => .ok (.ok a, j)
    | .error e => .ok (.error e, i)

/-- Runs a parser where the condition holds. -/
def optional (condition : Parser Bool) (p : Parser α) : Parser (Option α) := do
  if ← condition then return some (← p) else return none

/-- A test made only where the condition holds. -/
def provided (condition : Bool) (test : Parser Bool) : Parser Bool :=
  if condition then test else pure false

/-- A test that fails where the condition does not hold; what it has taken stays taken. -/
def restrictedTo (condition : Bool) (test : Parser Bool) : Parser Bool := do
  return (← test) && condition

/-- Makes tests in order until one of them holds. -/
def firstOf : List (Parser Bool) → Parser Bool
  | [] => pure false
  | p :: ps => do
    if ← p then return true else firstOf ps

/-- Takes the first of the given runs of keywords that comes next. -/
def anyWords (kss : List (List String)) : Parser Bool :=
  firstOf (kss.map words)

/-- What a loop does next. -/
inductive Step (σ α : Type) where
  | again (state : σ)
  | done (result : α)

/-- Repeats a step until it is done. `fuel` bounds the repetitions. -/
def iterate (step : σ → Parser (Step σ α)) : Nat → σ → Parser α
  | 0, _ => fail .tooDeep
  | fuel + 1, s => do
    match ← step s with
    | .again s' => iterate step fuel s'
    | .done a => return a

/-- A bound on the repetitions of a step that takes at least one token each time. -/
def bound : Parser Nat :=
  fun c i => .ok (c.tokens.size - i + 2, i)

/-- Repeats a step that takes at least one token each time. -/
def loop (start : σ) (step : σ → Parser (Step σ α)) : Parser α := do
  iterate step (← bound) start

/-- Repeats a parser as long as it gives something. -/
def many (p : Parser (Option α)) : Parser (List α) :=
  loop [] fun soFar => do
    match ← p with
    | some a => return .again (a :: soFar)
    | none => return .done soFar.reverse

/-- Repeats a parser as long as it says so. -/
def whileTrue (p : Parser Bool) : Parser Unit :=
  loop () fun _ => do
    if ← p then return .again () else return .done ()

/-- A parser in parentheses. -/
def parens (p : Parser α) : Parser α := do
  expectSymbol "("
  let a ← p
  expectSymbol ")"
  return a

end Parser

end QueryGuard.Sql
