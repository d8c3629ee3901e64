import Mathlib.Data.List.Basic
import Mathlib.Logic.Relation
import QueryGuard.Sql.Grammar.ObjectName

/-!
# Loops — a loop ends by its steps, never by its bound

The grammar repeats steps in loops. A loop counts its steps down from a bound, a little more than
the tokens that are left, and fails as too deep where the count runs out. The bound only has to be
large enough: what a loop gives must not depend on it.

It is large enough where every step that is to be followed by another takes a token. Then the count
never runs out, a loop is the same as its first step and the loop from there, and it fails only as
one of its steps does.

Which parsers take tokens is told by `Takes`: a parser never goes back, and it has taken a token
wherever its result is of a wanted sort. The rules for it follow the way parsers are put together.

Main results:

* `iterate_eq_of_lt` — with fuel enough, more fuel changes nothing.
* `loop_eq` / `loop_eq_iff` — a loop without its bound, as an equation and as a run.
* `loop_eq_error_iff` — **a loop fails only as one of its steps does.**
* `loop_map` — what each step does to an accumulator, the loop does.
* `whileTrue_eq` / `many_eq` / `itemsWith_eq` — the repetitions of the grammar without their bounds.
-/

namespace QueryGuard.Sql.Parser

variable {α β σ : Type}

-- ---------------------------------------------------------------------------
-- Chains of parsers
-- ---------------------------------------------------------------------------

theorem bind_of_ok {p : Parser α} {f : α → Parser β} {c : Context} {i j : Nat} {a : α}
    (h : p c i = .ok (a, j)) : (p >>= f) c i = f a c j := by
  simp only [bind, h]

theorem bind_of_error {p : Parser α} {f : α → Parser β} {c : Context} {i : Nat} {e : SyntaxError}
    (h : p c i = .error e) : (p >>= f) c i = .error e := by
  simp only [bind, h]

/-- A chain gives something exactly if its parts do, the second from where the first has ended. -/
theorem bind_eq_ok {p : Parser α} {f : α → Parser β} {c : Context} {i k : Nat} {b : β} :
    (p >>= f) c i = .ok (b, k) ↔ ∃ a j, p c i = .ok (a, j) ∧ f a c j = .ok (b, k) := by
  constructor
  · intro h
    -- a first part that fails gives nothing
    cases hp : p c i with
    | error e =>
      rw [bind_of_error hp] at h
      cases h
    | ok result =>
      obtain ⟨a, j⟩ := result
      rw [bind_of_ok hp] at h
      exact ⟨a, j, rfl, h⟩
  · rintro ⟨a, j, hp, hf⟩
    rw [bind_of_ok hp, hf]

/-- Giving a value takes nothing. -/
theorem pure_eq_ok {a b : α} {c : Context} {i j : Nat} :
    (pure a : Parser α) c i = .ok (b, j) ↔ a = b ∧ i = j := by
  constructor
  · intro h
    cases h
    exact ⟨rfl, rfl⟩
  · rintro ⟨rfl, rfl⟩
    rfl

/-- Chains may be bracketed as one likes: what is taken and what is given pass from left to right,
and the first failure is that of the chain. -/
instance : LawfulMonad Parser := by
  refine LawfulMonad.mk' Parser ?_ (fun _ _ => rfl) ?_
  · intro α p
    funext c i
    change (match p c i with | .ok (a, j) => .ok (a, j) | .error e => .error e) = p c i
    cases p c i <;> rfl
  · intro α β γ p f g
    funext c i
    cases hp : p c i with
    | error e => rw [bind_of_error (bind_of_error hp), bind_of_error hp]
    | ok result =>
      obtain ⟨a, j⟩ := result
      rw [bind_of_ok hp]
      simp only [bind, hp]

-- ---------------------------------------------------------------------------
-- Steps of a loop
-- ---------------------------------------------------------------------------

/-- How many tokens are left from a position on. -/
def left (c : Context) (i : Nat) : Nat :=
  c.tokens.size - i

/-- Every step that is to be followed by another takes a token. -/
def Progresses (step : σ → Parser (Step σ α)) : Prop :=
  ∀ ⦃s s' c i j⦄, step s c i = .ok (.again s', j) → left c j < left c i

section Steps

variable {step : σ → Parser (Step σ α)} {c : Context} {s s' : σ} {i j : Nat}

/-- A step to be followed by another spends one of the fuel. -/
theorem iterate_of_again (h : step s c i = .ok (.again s', j)) (fuel : Nat) :
    iterate step (fuel + 1) s c i = iterate step fuel s' c j := by
  rw [iterate, bind_of_ok h]

/-- The last step gives what it gives, however much fuel is left. -/
theorem iterate_of_done {a : α} (h : step s c i = .ok (.done a, j)) (fuel : Nat) :
    iterate step (fuel + 1) s c i = .ok (a, j) := by
  rw [iterate, bind_of_ok h]
  rfl

theorem iterate_of_error {e : SyntaxError} (h : step s c i = .error e) (fuel : Nat) :
    iterate step (fuel + 1) s c i = .error e := by
  rw [iterate, bind_of_error h]

/-- **More fuel changes nothing.** With more fuel than there are tokens left, how much there is
does not matter: each step that spends fuel takes a token, so the tokens are over before the fuel
is. -/
theorem iterate_eq_of_lt (h : Progresses step) {m n : Nat} (hm : left c i < m) (hn : left c i < n) :
    iterate step m s c i = iterate step n s c i := by
  -- Both counts go down by one with each step, and the tokens left by one at least.
  induction m generalizing n s i with
  | zero => omega
  | succ m ih =>
    obtain ⟨n, rfl⟩ : ∃ n', n = n' + 1 := ⟨n - 1, by omega⟩
    cases hStep : step s c i with
    | error e => rw [iterate_of_error hStep, iterate_of_error hStep]
    | ok result =>
      obtain ⟨next, j⟩ := result
      cases next with
      | done a => rw [iterate_of_done hStep, iterate_of_done hStep]
      | again s' =>
        have hLess : left c j < left c i := h hStep
        rw [iterate_of_again hStep, iterate_of_again hStep]
        exact ih (by omega) (by omega)

/-- A loop starts with two more than the tokens that are left. -/
theorem loop_apply (step : σ → Parser (Step σ α)) (s : σ) (c : Context) (i : Nat) :
    loop s step c i = iterate step (left c i + 2) s c i := rfl

theorem loop_of_error {e : SyntaxError} (h : step s c i = .error e) :
    loop s step c i = .error e :=
  iterate_of_error h _

theorem loop_of_done {a : α} (h : step s c i = .ok (.done a, j)) :
    loop s step c i = .ok (a, j) :=
  iterate_of_done h _

/-- Behind a step that is not the last, a loop has fewer tokens left and less fuel; what it started
with from there would have been more, but not more than is needed. -/
theorem loop_of_again (h : Progresses step) (hStep : step s c i = .ok (.again s', j)) :
    loop s step c i = loop s' step c j := by
  have hLess : left c j < left c i := h hStep
  -- one of the fuel is spent and a token taken, so what is left is enough, as a new start would be
  have hSpent : left c j < left c i + 1 := by omega
  have hBound : left c j < left c j + 2 := by omega
  rw [loop_apply, iterate_of_again hStep, iterate_eq_of_lt h hSpent hBound, loop_apply]

/-- **A loop without its bound.** A loop is its first step, and the loop again from there unless
the step is the last one. The bound of the second loop is smaller, as it starts later; by
`iterate_eq_of_lt` both are as good as any. -/
theorem loop_eq (h : Progresses step) (s : σ) :
    loop s step = do
      match ← step s with
      | .again s' => loop s' step
      | .done a => return a := by
  funext c i
  cases hStep : step s c i with
  | error e => rw [bind_of_error hStep, loop_of_error hStep]
  | ok result =>
    obtain ⟨next, j⟩ := result
    rw [bind_of_ok hStep]
    cases next with
    | done a => exact loop_of_done hStep
    | again s' => exact loop_of_again h hStep

-- ---------------------------------------------------------------------------
-- Runs of a loop
-- ---------------------------------------------------------------------------

/-- One step leads from a state and a position to others, and is not the last. -/
def Follows (step : σ → Parser (Step σ α)) (c : Context) (x y : σ × Nat) : Prop :=
  step x.1 c x.2 = .ok (.again y.1, y.2)

/-- Some steps of a loop, none of which is the last, lead from a state and a position to others. -/
def Reaches (step : σ → Parser (Step σ α)) (c : Context) : σ × Nat → σ × Nat → Prop :=
  Relation.ReflTransGen (Follows step c)

/-- A step is the last one of a loop and gives what the loop gives. -/
inductive Ends (step : σ → Parser (Step σ α)) (c : Context) (x : σ × Nat) :
    Except SyntaxError (α × Nat) → Prop where
  | done {a : α} {j : Nat} : step x.1 c x.2 = .ok (.done a, j) → Ends step c x (.ok (a, j))
  | failed {e : SyntaxError} : step x.1 c x.2 = .error e → Ends step c x (.error e)

/-- From every state and position a run of steps comes to a last one, which gives what the loop
gives. -/
theorem exists_reaches_ends (h : Progresses step) (s : σ) (c : Context) (i : Nat) :
    ∃ y, Reaches step c (s, i) y ∧ Ends step c y (loop s step c i) := by
  -- The induction is on the tokens that are left.
  induction hLeft : left c i using Nat.strongRecOn generalizing s i with
  | _ n ih =>
    cases hStep : step s c i with
    | error e =>
      refine ⟨(s, i), .refl, ?_⟩
      rw [loop_of_error hStep]
      exact .failed hStep
    | ok result =>
      obtain ⟨next, j⟩ := result
      -- a last step is reached at once; any other is followed by a run with fewer tokens left
      cases next with
      | done a =>
        refine ⟨(s, i), .refl, ?_⟩
        rw [loop_of_done hStep]
        exact .done hStep
      | again s' =>
        obtain ⟨y, hReaches, hEnds⟩ := ih _ (hLeft ▸ h hStep) s' j rfl
        rw [loop_of_again h hStep]
        have hFollows : Follows step c (s, i) (s', j) := hStep
        exact ⟨y, .head hFollows hReaches, hEnds⟩

/-- A loop gives the same from every state that its run comes by. -/
theorem loop_eq_of_reaches (h : Progresses step) {x y : σ × Nat} (hReaches : Reaches step c x y) :
    loop x.1 step c x.2 = loop y.1 step c y.2 := by
  induction hReaches with
  | refl => rfl
  | tail _ hStep ih => rw [ih, loop_of_again h hStep]

/-- **A loop is a run of its steps.** It gives a result or a failure exactly if some steps lead to
a last one that does. No other end is possible; in particular the bound is none, which no run
speaks of. -/
theorem loop_eq_iff (h : Progresses step) {r : Except SyntaxError (α × Nat)} :
    loop s step c i = r ↔ ∃ y, Reaches step c (s, i) y ∧ Ends step c y r := by
  constructor
  · rintro rfl
    exact exists_reaches_ends h s c i
  · rintro ⟨y, hReaches, hEnds⟩
    have hSame : loop s step c i = loop y.1 step c y.2 := loop_eq_of_reaches h hReaches
    rw [hSame]
    cases hEnds with
    | done hStep => exact loop_of_done hStep
    | failed hStep => exact loop_of_error hStep

/-- **A loop fails only as one of its steps does.** In particular one that is too deep holds a step
that is, and a loop whose steps are not is never too deep, however long the text. -/
theorem loop_eq_error_iff (h : Progresses step) {e : SyntaxError} :
    loop s step c i = .error e ↔
      ∃ y, Reaches step c (s, i) y ∧ step y.1 c y.2 = .error e := by
  rw [loop_eq_iff h]
  constructor
  · rintro ⟨y, hReaches, hEnds⟩
    cases hEnds with
    | failed hStep => exact ⟨y, hReaches, hStep⟩
  · rintro ⟨y, hReaches, hStep⟩
    exact ⟨y, hReaches, .failed hStep⟩

/-- A change of states that each step carries over to its result is carried over by the loop. The
grammar uses loops that gather what they read; this is how the gathered part is told from the way
it is gathered. -/
theorem loop_map (h : Progresses step) {f : σ → σ} {g : α → α}
    (hStep : ∀ s, step (f s) = do
      match ← step s with
      | .again s' => return .again (f s')
      | .done a => return .done (g a)) (s : σ) :
    loop (f s) step = do return g (← loop s step) := by
  funext c i
  induction hLeft : left c i using Nat.strongRecOn generalizing s i with
  | _ n ih =>
    -- the same three ends of a first step for both loops
    cases hFirst : step s c i with
    | error e =>
      have hChanged : step (f s) c i = .error e := by rw [hStep, bind_of_error hFirst]
      rw [loop_of_error hChanged, bind_of_error (loop_of_error hFirst)]
    | ok result =>
      obtain ⟨next, j⟩ := result
      cases next with
      | done a =>
        have hChanged : step (f s) c i = .ok (.done (g a), j) := by
          rw [hStep, bind_of_ok hFirst]
          rfl
        rw [loop_of_done hChanged, bind_of_ok (loop_of_done hFirst)]
        rfl
      | again s' =>
        have hChanged : step (f s) c i = .ok (.again (f s'), j) := by
          rw [hStep, bind_of_ok hFirst]
          rfl
        -- from here on both loops go on from states that belong together
        have hRest := ih _ (hLeft ▸ h hFirst) s' j rfl
        rw [loop_of_again h hChanged, hRest]
        simp only [bind, loop_of_again h hFirst]

end Steps

-- ---------------------------------------------------------------------------
-- Parsers that take tokens
-- ---------------------------------------------------------------------------

/-- A parser never goes back, and has taken a token wherever its result is of a wanted sort. -/
def Takes (p : Parser α) (wanted : α → Prop) : Prop :=
  ∀ ⦃c i a j⦄, p c i = .ok (a, j) → i ≤ j ∧ (wanted a → left c j < left c i)

/-- A parser never goes back. -/
def Forward (p : Parser α) : Prop :=
  Takes p fun _ => False

theorem Takes.forward {p : Parser α} {wanted : α → Prop} (h : Takes p wanted) : Forward p :=
  fun _ _ _ _ hp => ⟨(h hp).1, False.elim⟩

/-- Giving a value takes no token, so the value must not be a wanted one. -/
theorem takes_pure {wanted : α → Prop} {a : α} (h : ¬ wanted a) : Takes (pure a) wanted := by
  intro c i b j hp
  obtain ⟨rfl, rfl⟩ := pure_eq_ok.mp hp
  exact ⟨Nat.le_refl i, fun hWanted => absurd hWanted h⟩

theorem forward_pure (a : α) : Forward (pure a) :=
  takes_pure id

theorem takes_fail {wanted : α → Prop} (e : SyntaxError) : Takes (fail e) wanted := by
  intro c i a j hp
  cases hp

/-- A chain has taken a token where its first part has and the second goes on from there, or where
the second part has. -/
theorem Takes.bind {p : Parser α} {f : α → Parser β} {wanted : α → Prop} {wanted' : β → Prop}
    (hp : Takes p wanted) (hTaken : ∀ a, wanted a → Forward (f a))
    (hNot : ∀ a, ¬ wanted a → Takes (f a) wanted') : Takes (p >>= f) wanted' := by
  intro c i b k h
  obtain ⟨a, j, ha, hb⟩ := bind_eq_ok.mp h
  obtain ⟨hij, hLess⟩ := hp ha
  by_cases hWanted : wanted a
  · -- the first part has taken a token, and the second keeps it taken
    obtain ⟨hjk, -⟩ := hTaken a hWanted hb
    have hFirst : left c j < left c i := hLess hWanted
    refine ⟨Nat.le_trans hij hjk, fun _ => ?_⟩
    unfold left at hFirst ⊢
    omega
  · -- the first has gone forward, and the second takes the token
    obtain ⟨hjk, hSecond⟩ := hNot a hWanted hb
    refine ⟨Nat.le_trans hij hjk, fun hb => ?_⟩
    have hRest : left c k < left c j := hSecond hb
    unfold left at hRest ⊢
    omega

/-- A chain goes forward if its parts do. -/
theorem Forward.bind {p : Parser α} {f : α → Parser β} (hp : Forward p)
    (hf : ∀ a, Forward (f a)) : Forward (p >>= f) :=
  Takes.bind hp (fun _ h => h.elim) fun a _ => hf a

-- ---------------------------------------------------------------------------
-- Single tokens
-- ---------------------------------------------------------------------------

/-- Passing over blanks does not go back. -/
theorem le_skipBlanks (c : Context) (fuel i : Nat) : i ≤ skipBlanks c fuel i := by
  induction fuel generalizing i with
  | zero => exact Nat.le_refl i
  | succ fuel ih =>
    rw [skipBlanks]
    split
    · exact Nat.le_trans (Nat.le_succ i) (ih (i + 1))
    · exact Nat.le_refl i

theorem le_nextIndex (c : Context) (i : Nat) : i ≤ nextIndex c i :=
  le_skipBlanks c _ i

/-- Behind the last token there is only the end. -/
theorem lt_size_of_tokenAt {c : Context} {i : Nat} (h : (c.tokenAt i).token ≠ .eof) :
    i < c.tokens.size := by
  by_contra hSize
  apply h
  rw [Context.tokenAt, Array.getD, dif_neg hSize]
  rfl

/-- Going on behind the next token takes a token, unless that is the end. -/
theorem left_nextIndex_succ {c : Context} {i : Nat}
    (h : (c.tokenAt (nextIndex c i)).token ≠ .eof) : left c (nextIndex c i + 1) < left c i := by
  -- the token stands before the end of the array, and not before the start
  have hSize : nextIndex c i < c.tokens.size := lt_size_of_tokenAt h
  have hStart : i ≤ nextIndex c i := le_nextIndex c i
  unfold left
  omega

/-- A symbol that is found is a token, since the end is no symbol. Where it is not found nothing
has been taken, and the parser has not moved. -/
theorem takes_symbol (s : String) : Takes (symbol s) (· = true) := by
  intro c i b j h
  rw [symbol] at h
  split at h
  case isTrue hToken =>
    cases h
    have hStart := le_nextIndex c i
    refine ⟨by omega, fun _ => left_nextIndex_succ ?_⟩
    rw [eq_of_beq hToken]
    exact Token.noConfusion
  case isFalse =>
    cases h
    exact ⟨Nat.le_refl i, by simp⟩

/-- The end is no keyword, so taking a keyword takes a token. (The end has the empty text for a
keyword, which is why `k` must not be empty.) -/
theorem takes_word {k : String} (hk : k ≠ "") : Takes (word k) (· = true) := by
  intro c i b j h
  rw [word] at h
  split at h
  case isTrue hToken =>
    cases h
    have hStart := le_nextIndex c i
    refine ⟨by omega, fun _ => left_nextIndex_succ ?_⟩
    -- the end has the empty keyword
    intro hEnd
    rw [hEnd] at hToken
    exact hk (eq_of_beq hToken).symm
  case isFalse =>
    cases h
    exact ⟨Nat.le_refl i, by simp⟩

/-- Taking the next token takes one unless it is the end, behind which nothing is. -/
theorem takes_nextLocated : Takes nextLocated (·.token ≠ .eof) := by
  intro c i t j h
  rw [nextLocated] at h
  cases h
  have hStart := le_nextIndex c i
  exact ⟨by omega, left_nextIndex_succ⟩

-- ---------------------------------------------------------------------------
-- Repetitions
-- ---------------------------------------------------------------------------

/-- A step takes a token where it is to be followed by another. -/
theorem progresses_of_takes {step : σ → Parser (Step σ α)}
    (h : ∀ s, Takes (step s) fun next => ∃ s', next = .again s') : Progresses step :=
  fun s s' _ _ _ hStep => (h s hStep).2 ⟨s', rfl⟩

/-- One step of repeating as long as a test says so. -/
def whileStep (p : Parser Bool) (_ : Unit) : Parser (Step Unit Unit) := do
  if ← p then return .again () else return .done ()

theorem whileTrue_eq_loop (p : Parser Bool) : whileTrue p = loop () (whileStep p) := rfl

/-- A test that takes a token whenever it holds cannot hold forever. A test that looks without
taking is not covered, and would not end. -/
theorem progresses_whileStep {p : Parser Bool} (h : Takes p (· = true)) :
    Progresses (whileStep p) := by
  apply progresses_of_takes
  intro _
  apply h.bind
  · rintro _ rfl
    exact forward_pure _
  · intro more hMore
    rw [if_neg hMore]
    exact takes_pure (by simp)

/-- **Repeating as long as a test says so** is making the test, and repeating if it does. This
holds for tests that take a token where they say so. -/
theorem whileTrue_eq {p : Parser Bool} (h : Takes p (· = true)) :
    whileTrue p = do if ← p then whileTrue p else return () := by
  conv_lhs => rw [whileTrue_eq_loop, loop_eq (progresses_whileStep h), whileStep, bind_assoc]
  apply bind_congr
  intro more
  cases more with
  | false => rfl
  | true => rfl

/-- One step of repeating as long as there is something, which gathers what there is. -/
def gatherStep (p : Parser (Option α)) (soFar : List α) : Parser (Step (List α) (List α)) := do
  match ← p with
  | some a => return .again (a :: soFar)
  | none => return .done soFar.reverse

theorem many_eq_loop (p : Parser (Option α)) : many p = loop [] (gatherStep p) := rfl

/-- A parser that takes a token whenever it gives something cannot give something forever. Where it
gives nothing it may have taken what it likes, as the loop is over. -/
theorem progresses_gatherStep {p : Parser (Option α)} (h : Takes p (·.isSome)) :
    Progresses (gatherStep p) := by
  apply progresses_of_takes
  intro soFar
  apply h.bind
  · intro found hFound
    cases found with
    | none => cases hFound
    | some a => exact forward_pure _
  · intro found hFound
    cases found with
    | none => exact takes_pure (by simp)
    | some a => exact absurd rfl hFound

/-- What has been gathered before stays before what is gathered. The loop starts with nothing in
the grammar; after its first step it does not, so both starts are needed. -/
theorem loop_gatherStep {p : Parser (Option α)} (h : Takes p (·.isSome)) (a : α) :
    loop [a] (gatherStep p) = do return a :: (← loop [] (gatherStep p)) := by
  refine loop_map (progresses_gatherStep h) (f := (· ++ [a])) (g := (a :: ·)) (fun soFar => ?_) []
  -- what is gathered behind an item that is there already
  rw [gatherStep, gatherStep, bind_assoc]
  apply bind_congr
  intro found
  cases found with
  | none =>
    rw [List.reverse_append]
    rfl
  | some b => rfl

/-- **Repeating as long as there is something** is one more as long as there is one. The list comes
in the order it is read, although the loop gathers it the other way round. -/
theorem many_eq {p : Parser (Option α)} (h : Takes p (·.isSome)) :
    many p = do
      match ← p with
      | some a => return a :: (← many p)
      | none => return [] := by
  conv_lhs => rw [many_eq_loop, loop_eq (progresses_gatherStep h), gatherStep, bind_assoc]
  apply bind_congr
  intro found
  cases found with
  | none => rfl
  | some a => exact loop_gatherStep h a

/-- What is looked at before moving back is given back. -/
theorem eq_of_moveTo {p : Parser α} {c : Context} {start j k : Nat} {a : α}
    (h : (do let b ← p; moveTo start; return b : Parser α) c j = .ok (a, k)) : k = start := by
  obtain ⟨b, _, -, h⟩ := bind_eq_ok.mp h
  obtain ⟨_, _, hMove, h⟩ := bind_eq_ok.mp h
  obtain ⟨-, rfl⟩ := pure_eq_ok.mp h
  cases hMove
  rfl

/-- A list goes on only behind a comma, whatever would close it. Looking for what closes it moves
back to where it started, so only the comma has been taken. -/
theorem takes_listIsOver (trailing : Bool) (closes : String → Parser Bool) :
    Takes (Grammar.listIsOver trailing closes) (· = false) := by
  apply (takes_symbol ",").bind
  · -- behind a comma: whatever is looked at is given back
    rintro _ rfl
    intro c i ended k h
    cases trailing with
    | false =>
      obtain ⟨-, rfl⟩ := pure_eq_ok.mp h
      exact ⟨Nat.le_refl i, False.elim⟩
    | true =>
      obtain ⟨start, _, hStart, h⟩ := bind_eq_ok.mp h
      obtain ⟨t, _, -, h⟩ := bind_eq_ok.mp h
      cases hStart
      have hBack : k = i := by
        cases t with
        | word text quote key => exact eq_of_moveTo h
        | symbol s => exact eq_of_moveTo h
        | eof => exact eq_of_moveTo h
        | _ => exact eq_of_moveTo h
      exact ⟨hBack ▸ Nat.le_refl k, False.elim⟩
  · -- no comma: the list is over
    intro comma hComma
    rw [Bool.not_eq_true] at hComma
    subst hComma
    exact takes_pure (by simp)

/-- One step of a list between commas, which gathers its items. -/
def itemStep (trailing : Bool) (closes : String → Parser Bool) (p : Parser α) (soFar : List α) :
    Parser (Step (List α) (List α)) := do
  let a ← p
  if ← Grammar.listIsOver trailing closes then return .done (a :: soFar).reverse
  else return .again (a :: soFar)

section Items

variable {trailing : Bool} {closes : String → Parser Bool} {p : Parser α}

theorem itemsWith_eq_loop (trailing : Bool) (closes : String → Parser Bool) (p : Parser α) :
    Grammar.itemsWith trailing closes p = loop [] (itemStep trailing closes p) := rfl

/-- Items need not take tokens for a list to end, since the commas do. All that is asked of an item
is not to go back. -/
theorem progresses_itemStep (h : Forward p) : Progresses (itemStep trailing closes p) := by
  apply progresses_of_takes
  intro soFar
  apply Takes.bind h
  · intro _ hNever
    exact hNever.elim
  · -- an item may take nothing, the comma behind it does
    intro a _
    apply (takes_listIsOver trailing closes).bind
    · rintro _ rfl
      exact forward_pure _
    · intro ended hEnded
      rw [Bool.not_eq_false] at hEnded
      subst hEnded
      exact takes_pure (by simp)

/-- Items that have been gathered before stay before those of the loop, whether the list is over
behind the next item or goes on. -/
theorem loop_itemStep (h : Forward p) (a : α) :
    loop [a] (itemStep trailing closes p) = do
      return a :: (← loop [] (itemStep trailing closes p)) := by
  refine loop_map (progresses_itemStep h) (f := (· ++ [a])) (g := (a :: ·)) (fun soFar => ?_) []
  rw [itemStep, itemStep, bind_assoc]
  apply bind_congr
  intro b
  rw [bind_assoc]
  apply bind_congr
  intro ended
  cases ended with
  | true =>
    rw [List.reverse_cons, List.reverse_cons, List.reverse_append]
    rfl
  | false => rfl

/-- **A list between commas** is an item, and the list again if it is not over. This is so of every
list whose items do not go back, even of items that may take nothing: the comma is the token that
each round takes. -/
theorem itemsWith_eq (h : Forward p) :
    Grammar.itemsWith trailing closes p = do
      let a ← p
      if ← Grammar.listIsOver trailing closes then return [a]
      else return a :: (← Grammar.itemsWith trailing closes p) := by
  conv_lhs => rw [itemsWith_eq_loop, loop_eq (progresses_itemStep h), itemStep, bind_assoc]
  apply bind_congr
  intro a
  rw [bind_assoc]
  apply bind_congr
  intro ended
  cases ended with
  | true => rfl
  | false => exact loop_itemStep h a

end Items

-- ---------------------------------------------------------------------------
-- Parsers that are never too deep
-- ---------------------------------------------------------------------------

/-- A parser never fails as too deep. -/
def Shallow (p : Parser α) : Prop :=
  ∀ c i, p c i ≠ .error .tooDeep

theorem shallow_pure (a : α) : Shallow (pure a) := by
  intro c i h
  cases h

/-- A chain is never too deep if none of its parts is, whatever the first part gives to the
second. -/
theorem Shallow.bind {p : Parser α} {f : α → Parser β} (hp : Shallow p)
    (hf : ∀ a, Shallow (f a)) : Shallow (p >>= f) := by
  intro c i h
  cases hFirst : p c i with
  | error e =>
    rw [bind_of_error hFirst] at h
    cases h
    exact hp c i hFirst
  | ok result =>
    obtain ⟨a, j⟩ := result
    rw [bind_of_ok hFirst] at h
    exact hf a c j h

/-- A loop whose steps are never too deep never is, however many steps it takes. -/
theorem Shallow.loop {step : σ → Parser (Step σ α)} (hProgress : Progresses step)
    (h : ∀ s, Shallow (step s)) (s : σ) : Shallow (loop s step) := by
  intro c i hLoop
  -- a loop that is too deep would hold a step that is
  obtain ⟨y, -, hStep⟩ := (loop_eq_error_iff hProgress).mp hLoop
  exact h y.1 c y.2 hStep

/-- Repeating a test is never too deep if making it is not, provided it takes a token whenever it
holds. -/
theorem Shallow.whileTrue {p : Parser Bool} (hTakes : Takes p (· = true)) (h : Shallow p) :
    Shallow (whileTrue p) := by
  apply Shallow.loop (progresses_whileStep hTakes)
  intro _
  apply h.bind
  intro more
  cases more with
  | false => exact shallow_pure _
  | true => exact shallow_pure _

/-- Nor is repeating a parser, provided it takes a token whenever it gives something. -/
theorem Shallow.many {p : Parser (Option α)} (hTakes : Takes p (·.isSome)) (h : Shallow p) :
    Shallow (many p) := by
  rw [many_eq_loop]
  apply Shallow.loop (progresses_gatherStep hTakes)
  intro soFar
  apply h.bind
  intro found
  cases found with
  | none => exact shallow_pure _
  | some a => exact shallow_pure _

theorem shallow_symbol (s : String) : Shallow (symbol s) := by
  intro c i h
  rw [symbol] at h
  split at h <;> cases h

theorem shallow_dialect : Shallow dialect := by
  intro c i h
  cases h

theorem shallow_peek : Shallow peek := by
  intro c i h
  cases h

theorem shallow_next : Shallow next := by
  intro c i h
  cases h

theorem shallow_nextLocated : Shallow nextLocated := by
  intro c i h
  cases h

theorem shallow_unexpected (what : String) (found : Located) :
    Shallow (unexpected what found : Parser α) := by
  intro c i h
  cases h

/-- The end of a list is told by looking at what closes it, so it is never too deep if no test for
that is. The moves back and forth cannot fail. -/
theorem Shallow.listIsOver {trailing : Bool} {closes : String → Parser Bool}
    (h : ∀ k, Shallow (closes k)) : Shallow (Grammar.listIsOver trailing closes) := by
  apply (shallow_symbol ",").bind
  intro comma
  cases comma with
  | false => exact shallow_pure _
  | true =>
    cases trailing with
    | false => exact shallow_pure _
    | true =>
      have hBack : ∀ (i : Nat) (ended : Bool), Shallow (do moveTo i; return ended) := by
        intro i ended c j hMove
        cases hMove
      apply Shallow.bind (fun c i hPlace => by cases hPlace)
      intro i
      apply shallow_next.bind
      intro t
      cases t with
      | word text quote k => exact (h k).bind (hBack i)
      | symbol s => exact (shallow_pure _).bind (hBack i)
      | eof => exact (shallow_pure _).bind (hBack i)
      | _ => exact (shallow_pure _).bind (hBack i)

/-- A list between commas is never too deep if its items and the test for its end are not. It may
be as long as it likes. -/
theorem Shallow.itemsWith {trailing : Bool} {closes : String → Parser Bool} {p : Parser α}
    (hForward : Forward p) (h : Shallow p) (hCloses : ∀ k, Shallow (closes k)) :
    Shallow (Grammar.itemsWith trailing closes p) := by
  rw [itemsWith_eq_loop]
  apply Shallow.loop (progresses_itemStep hForward)
  intro soFar
  apply h.bind
  intro a
  apply (Shallow.listIsOver hCloses).bind
  intro ended
  cases ended with
  | false => exact shallow_pure _
  | true => exact shallow_pure _

-- ---------------------------------------------------------------------------
-- Loops of the grammar
-- ---------------------------------------------------------------------------

/-- **Clauses that open with a keyword**, as they stand behind MERGE or in a table: one clause for
each time the keyword comes next. The keyword is the token that each round takes, whatever the
clause does behind it. -/
theorem many_optional_eq {k : String} (hk : k ≠ "") {p : Parser α} (h : Forward p) :
    many (optional (word k) p) = do
      if ← word k then return (← p) :: (← many (optional (word k) p)) else return [] := by
  -- a clause is read only behind its keyword, which is a token
  have hTakes : Takes (optional (word k) p) (·.isSome) := by
    apply (takes_word hk).bind
    · rintro _ rfl
      exact Forward.bind h fun _ => forward_pure _
    · intro here hHere
      rw [if_neg hHere]
      exact takes_pure (by simp)
  conv_lhs => rw [many_eq hTakes, optional, bind_assoc]
  apply bind_congr
  intro here
  cases here with
  | false => rfl
  | true =>
    -- the keyword stands there, so the clause has to follow
    exact bind_assoc p _ _

/-- Passing over everything up to the end of some names is never too deep: the end stops it, and
everything before the end is a token that is taken. -/
theorem shallow_restOfNames : Shallow Grammar.restOfNames := by
  apply Shallow.whileTrue
  · -- a token is taken only where it is not the end
    intro c i more j h
    obtain ⟨t, l, hPeek, h⟩ := bind_eq_ok.mp h
    obtain ⟨rfl, hToken⟩ : i = l ∧ (c.tokenAt (nextIndex c i)).token = t := by
      cases hPeek
      exact ⟨rfl, rfl⟩
    split at h
    · obtain ⟨rfl, rfl⟩ := pure_eq_ok.mp h
      exact ⟨Nat.le_refl i, by simp⟩
    · obtain ⟨rfl, rfl⟩ := pure_eq_ok.mp h
      exact ⟨Nat.le_refl i, by simp⟩
    · obtain ⟨rfl, rfl⟩ := pure_eq_ok.mp h
      exact ⟨Nat.le_refl i, by simp⟩
    · obtain ⟨rfl, rfl⟩ := pure_eq_ok.mp h
      exact ⟨Nat.le_refl i, by simp⟩
    · rename_i hEnd _ _ _
      obtain ⟨_, _, hSkip, h⟩ := bind_eq_ok.mp h
      cases hSkip
      obtain ⟨rfl, rfl⟩ := pure_eq_ok.mp h
      have hStart := le_nextIndex c i
      exact ⟨by omega, fun _ => left_nextIndex_succ (hToken ▸ hEnd)⟩
  · apply shallow_peek.bind
    intro t
    split
    · exact shallow_pure _
    · exact shallow_pure _
    · exact shallow_pure _
    · exact shallow_pure _
    · intro c i h
      cases h

/-- The names behind the first of a qualified star are never too deep: each stands behind a
period. -/
theorem shallow_wildcardTail : Shallow Grammar.wildcardTail := by
  apply Shallow.loop
  · apply progresses_of_takes
    intro _
    apply (takes_symbol ".").bind
    · rintro _ rfl
      apply takes_nextLocated.forward.bind
      intro t
      split
      · exact forward_pure _
      · exact forward_pure _
      · exact forward_pure _
      · exact takes_fail _
    · intro here hHere
      rw [if_neg hHere]
      exact takes_pure (by simp)
  · intro _
    apply (shallow_symbol ".").bind
    intro here
    split
    · apply shallow_nextLocated.bind
      intro t
      split
      · exact shallow_pure _
      · exact shallow_pure _
      · exact shallow_pure _
      · exact shallow_unexpected _ _
    · exact shallow_pure _

theorem shallow_limitOptionNext : Shallow Grammar.limitOptionNext := by
  apply shallow_peek.bind
  intro t
  split <;> exact shallow_pure _

theorem shallow_peekAnyWord (ks : List String) : Shallow (peekAnyWord ks) :=
  shallow_peek.bind fun _ => shallow_pure _

/-- Whether a keyword may be an alias is told by looking, so it is never too deep. The rules differ
from dialect to dialect; none of them nests. -/
theorem shallow_mayAliasColumn (k : String) : Shallow (Grammar.mayAliasColumn k) := by
  have hNot : ∀ p : Parser Bool, Shallow p → Shallow (do return !(← p)) :=
    fun p hp => hp.bind fun _ => shallow_pure _
  apply shallow_dialect.bind
  intro d
  -- Only in one dialect does it depend on what stands next.
  split
  · apply shallow_peek.bind
    intro t
    dsimp only
    split
    · exact shallow_pure _
    · exact shallow_pure _
    · exact hNot _ shallow_limitOptionNext
    · exact hNot _ shallow_limitOptionNext
    · apply (shallow_peekAnyWord _).bind
      intro _
      exact shallow_limitOptionNext.bind fun _ => shallow_pure _
    · exact shallow_pure _
  · exact shallow_pure _
  · exact shallow_pure _
  · exact shallow_pure _

/-- Reading a name takes a token: a name is a word or a quoted text, and anything else, the end
included, fails. -/
theorem takes_identifier : Takes Grammar.identifier fun _ => True := by
  apply takes_nextLocated.bind
  · intro t _
    split
    · exact forward_pure _
    · exact forward_pure _
    · exact forward_pure _
    · exact takes_fail _
  · intro t hEnd
    rw [not_not.mp hEnd]
    exact takes_fail _

theorem shallow_identifier : Shallow Grammar.identifier := by
  apply shallow_nextLocated.bind
  intro t
  split
  · exact shallow_pure _
  · exact shallow_pure _
  · exact shallow_pure _
  · exact shallow_unexpected _ _

/-- **A list of names is never too deep**, however many names it has. Names do not nest, so depth
is no matter there, and length is none by `loop_eq_error_iff`. -/
theorem shallow_identifiers : Shallow Grammar.identifiers :=
  shallow_dialect.bind fun _ =>
    Shallow.itemsWith takes_identifier.forward shallow_identifier fun k =>
      (shallow_mayAliasColumn k).bind fun _ => shallow_pure _

end QueryGuard.Sql.Parser
