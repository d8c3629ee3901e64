import Mathlib.Data.List.Basic
import QueryGuard.Text.Quoted

/-!
# Quoted forms — what is quoted can be told from how it is shown

Messages show names between quotes and lists of names in brackets. Were two lists shown alike, a
message would not say which names it is about. They are not: the form of a character says where it
ends and which character it is (`quoteChar_append_inj`), no form begins with the quote that closes
the text (`shown_append_inj`), and behind that quote stands a comma or the closing bracket.

The same is shown of numbers among other words, which end at the first character that is no digit.

Main results:

* `quoted_of_plain` — a text of visible characters is shown as it is.
* `quotedList_inj` — **a list of texts can be told from its quoted form.**
* `toString_append_inj` — a number can be told from a text it begins.
-/

namespace QueryGuard.Text

-- ---------------------------------------------------------------------------
-- Runs of characters that end at another
-- ---------------------------------------------------------------------------

/-- Two runs in which the next character does not occur are equal, and so is what stands behind.
Were one run longer, it would hold the character that the other stops at. -/
theorem append_cons_inj {stop : Char} {xs ys x y : List Char} (hxs : stop ∉ xs) (hys : stop ∉ ys)
    (h : xs ++ stop :: x = ys ++ stop :: y) : xs = ys ∧ x = y := by
  induction xs generalizing ys with
  | nil =>
    cases ys with
    | nil => exact ⟨rfl, (List.cons.inj h).2⟩
    | cons b ys =>
      -- one side stops where the other goes on, so the other would hold the stop
      obtain ⟨rfl, -⟩ := List.cons.inj h
      exact absurd List.mem_cons_self hys
  | cons a xs ih =>
    cases ys with
    | nil =>
      obtain ⟨rfl, -⟩ := List.cons.inj h
      exact absurd List.mem_cons_self hxs
    | cons b ys =>
      obtain ⟨rfl, hRest⟩ := List.cons.inj h
      obtain ⟨rfl, hBehind⟩ :=
        ih (fun hMem => hxs (List.mem_cons_of_mem _ hMem))
          (fun hMem => hys (List.mem_cons_of_mem _ hMem)) hRest
      exact ⟨rfl, hBehind⟩

-- ---------------------------------------------------------------------------
-- Numbers
-- ---------------------------------------------------------------------------

/-- A number can be told from a text that begins with it and goes on with no digit. The digits of a
number hold nothing but digits, so the first other character ends it. -/
theorem toString_append_inj {stop : Char} (hStop : stop.isDigit = false) {m n : Nat}
    {s t : String} (h : toString m ++ (String.singleton stop ++ s) =
      toString n ++ (String.singleton stop ++ t)) : m = n ∧ s = t := by
  have hDigits : ∀ k : Nat, stop ∉ Nat.toDigits 10 k := by
    intro k hMem
    have hDigit := Nat.isDigit_of_mem_toDigits (by decide) (by decide) hMem
    rw [hStop] at hDigit
    cases hDigit
  have hChars := congrArg String.toList h
  simp only [String.toList_append, Nat.toString_eq_ofList_toDigits, String.toList_ofList,
    String.toList_singleton, List.singleton_append] at hChars
  obtain ⟨hNumber, hBehind⟩ := append_cons_inj (hDigits m) (hDigits n) hChars
  -- the digits are read back
  have hRead := congrArg (Nat.ofDigitChars 10 · 0) hNumber
  simp only [Nat.ofDigitChars_ten_toDigits] at hRead
  exact ⟨hRead, String.toList_inj.mp hBehind⟩

/-- The digits of base sixteen are sixteen characters, none of them a brace. -/
theorem digitChar_of_lt : ∀ d < 16, Nat.digitChar d ≠ '\x7d' ∧
    ∀ e < 16, Nat.digitChar d = Nat.digitChar e → d = e := by
  decide

/-- No digit is a closing brace, so the brace behind the digits of a code ends them. The induction
is on the number, which loses its last digit with each step. -/
theorem not_mem_hexDigits (n : Nat) : '\x7d' ∉ hexDigits n := by
  induction n using Nat.strongRecOn with
  | ind n ih =>
    rw [hexDigits, Nat.toDigits_eq_if (by decide)]
    split
    · rename_i hSmall
      rw [List.mem_singleton]
      exact (digitChar_of_lt n hSmall).1.symm
    · rename_i hLarge
      rw [List.mem_append, List.mem_singleton, not_or]
      exact ⟨ih (n / 16) (by omega), (digitChar_of_lt (n % 16) (by omega)).1.symm⟩

/-- A number can be told from its hexadecimal digits: the last is its remainder, and those before it
are the digits of its quotient. -/
theorem hexDigits_inj {m n : Nat} (h : hexDigits m = hexDigits n) : m = n := by
  induction m using Nat.strongRecOn generalizing n with
  | ind m ih =>
    -- a number is its last digit behind the digits of the rest, or a single digit
    have hShape : ∀ k : Nat, hexDigits k = if k < 16 then [Nat.digitChar k] else
        hexDigits (k / 16) ++ [Nat.digitChar (k % 16)] := fun k =>
      Nat.toDigits_eq_if (by decide)
    have hSome : ∀ k : Nat, hexDigits k ≠ [] := fun k => Nat.toDigits_ne_nil
    rw [hShape m, hShape n] at h
    by_cases hm : m < 16
    · rw [if_pos hm, ← List.nil_append [_]] at h
      by_cases hn : n < 16
      · rw [if_pos hn] at h
        exact (digitChar_of_lt m hm).2 n hn (List.singleton_inj.mp h)
      · rw [if_neg hn] at h
        -- one digit against more than one
        exact absurd (List.append_inj' h rfl).1.symm (hSome _)
    · rw [if_neg hm] at h
      by_cases hn : n < 16
      · rw [if_pos hn, ← List.nil_append [Nat.digitChar n]] at h
        exact absurd (List.append_inj' h rfl).1 (hSome _)
      · rw [if_neg hn] at h
        -- more than one on both sides: the last digits agree, and the rest by induction
        obtain ⟨hQuotient, hRemainder⟩ := List.append_inj' h rfl
        have hDiv := ih (m / 16) (by omega) hQuotient
        have hMod := (digitChar_of_lt (m % 16) (by omega)).2 (n % 16) (by omega)
          (List.singleton_inj.mp hRemainder)
        omega

-- ---------------------------------------------------------------------------
-- Characters
-- ---------------------------------------------------------------------------

/-- The forms in which a character is shown between double quotes. -/
inductive Shown : Char → List Char → Prop where
  | tab : Shown '\t' ['\\', 't']
  | carriageReturn : Shown '\r' ['\\', 'r']
  | lineFeed : Shown '\n' ['\\', 'n']
  | nul : Shown '\x00' ['\\', '0']
  | backslash : Shown '\\' ['\\', '\\']
  | quote : Shown '"' ['\\', '"']
  /-- As it is. -/
  | plain {c : Char} (hBackslash : c ≠ '\\') (hQuote : c ≠ '"') : Shown c [c]
  /-- By its code point. -/
  | coded (c : Char) :
    Shown c ('\\' :: 'u' :: '\x7b' :: (hexDigits c.toNat ++ ['\x7d']))

/-- What a character is shown as is one of these forms. From here on forms are told apart by their
constructors, and the order of the tests in `quoteChar` does not matter. -/
theorem shown_quoteChar (c : Char) : Shown c (quoteChar '"' c) := by
  -- one branch of the definition after the other, each of them a form
  unfold quoteChar
  split
  · rename_i h
    exact h ▸ .tab
  split
  · rename_i h
    exact h ▸ .carriageReturn
  split
  · rename_i h
    exact h ▸ .lineFeed
  split
  · rename_i h
    obtain rfl : c = '\x00' := Char.toNat_inj.mp h
    exact .nul
  split
  · rename_i h
    rw [Bool.or_eq_true, decide_eq_true_eq, decide_eq_true_eq] at h
    rcases h with rfl | rfl
    · exact .backslash
    · exact .quote
  rename_i hEscaped
  split
  · rw [Bool.or_eq_true, decide_eq_true_eq, decide_eq_true_eq, not_or] at hEscaped
    exact .plain hEscaped.1 hEscaped.2
  · exact .coded c

/-- **A character ends where its form ends.** With anything behind them, equal forms are those of
one character. A form is the character itself, a backslash with one more character, or a code point
in braces, and its first two characters say which. -/
theorem Shown.append_inj {c d : Char} {cs ds x y : List Char} (hc : Shown c cs) (hd : Shown d ds)
    (h : cs ++ x = ds ++ y) : c = d ∧ x = y := by
  cases hc with
  | plain hBackslash hQuote =>
    cases hd with
    | plain _ _ => simpa using h
    | _ => exact absurd (List.cons.inj h).1 hBackslash
  | coded c =>
    cases hd with
    | plain hBackslash hQuote => exact absurd (List.cons.inj h).1.symm hBackslash
    | coded d =>
      simp only [List.cons_append, List.append_assoc, List.nil_append, List.cons.injEq,
        true_and] at h
      obtain ⟨hCode, hBehind⟩ :=
        append_cons_inj (not_mem_hexDigits c.toNat) (not_mem_hexDigits d.toNat) h
      exact ⟨Char.toNat_inj.mp (hexDigits_inj hCode), hBehind⟩
    | _ => simp at h
  -- the others are told apart by the character behind the backslash
  | _ =>
    cases hd with
    | plain hBackslash hQuote => exact absurd (List.cons.inj h).1.symm hBackslash
    | _ => simp_all

/-- The form of a character does not begin with the quote that closes a text. -/
theorem Shown.ne_quote {c : Char} {cs x y : List Char} (hc : Shown c cs) :
    cs ++ x ≠ '"' :: y := by
  intro h
  cases hc with
  | plain hBackslash hQuote => exact absurd (List.cons.inj h).1 hQuote
  | _ => simp at h

-- ---------------------------------------------------------------------------
-- Texts and lists
-- ---------------------------------------------------------------------------

/-- A text can be told from its characters' forms with the closing quote and anything behind. A
quote within the text is shown with a backslash before it, so the first bare quote is the closing
one. -/
theorem shown_append_inj {xs ys x y : List Char}
    (h : xs.flatMap (quoteChar '"') ++ '"' :: x = ys.flatMap (quoteChar '"') ++ '"' :: y) :
    xs = ys ∧ x = y := by
  induction xs generalizing ys with
  | nil =>
    cases ys with
    | nil => exact ⟨rfl, (List.cons.inj h).2⟩
    | cons b ys =>
      rw [List.flatMap_cons, List.append_assoc] at h
      -- the first text has ended at its quote, and no form of a character begins with one
      exact absurd h.symm (shown_quoteChar b).ne_quote
  | cons a xs ih =>
    cases ys with
    | nil =>
      rw [List.flatMap_cons, List.append_assoc] at h
      exact absurd h (shown_quoteChar a).ne_quote
    | cons b ys =>
      rw [List.flatMap_cons, List.flatMap_cons, List.append_assoc, List.append_assoc] at h
      -- the first characters are told by their forms, the others by induction
      obtain ⟨rfl, hRest⟩ := (shown_quoteChar a).append_inj (shown_quoteChar b) h
      obtain ⟨rfl, hBehind⟩ := ih hRest
      exact ⟨rfl, hBehind⟩

/-- A text of visible characters, none of them a quote or a backslash, is shown as it is between
quotes. Nearly all names are such texts. -/
theorem quoted_of_plain {s : String}
    (h : ∀ c ∈ s.toList, isVisible c = true ∧ c ≠ '"' ∧ c ≠ '\\') :
    quoted s = "\"" ++ s ++ "\"" := by
  have hChar : ∀ c ∈ s.toList, quoteChar '"' c = [c] := by
    intro c hc
    obtain ⟨hVisible, hQuote, hBackslash⟩ := h c hc
    -- a visible character is none of those shown by a letter
    have hGlyph : ∀ d : Char, isVisible d = false → c ≠ d := by
      rintro d hd rfl
      rw [hVisible] at hd
      cases hd
    have hNul : c.toNat ≠ 0 := fun hZero =>
      hGlyph '\x00' (by decide) (Char.toNat_inj.mp hZero)
    simp [quoteChar, hGlyph '\t' (by decide), hGlyph '\r' (by decide), hGlyph '\n' (by decide),
      hNul, hQuote, hBackslash, hVisible]
  have hText : s.toList.flatMap (quoteChar '"') = s.toList := by
    rw [List.flatMap_congr hChar, List.flatMap_singleton']
  rw [quoted, hText, ← String.toList_inj]
  simp

/-- The other texts of a list as they are shown, each behind a comma. -/
def shownBehind (ts : List String) : List Char :=
  ts.flatMap fun t => ',' :: ' ' :: '"' :: (t.toList.flatMap (quoteChar '"') ++ ['"'])

/-- A list is shown as its first text, and the others each behind a comma. In this form every text
is followed by its closing quote and something more, which is what `shown_append_inj` is about. -/
theorem toList_quotedList_cons (t : String) (ts : List String) :
    (quotedList (t :: ts)).toList =
      '[' :: '"' :: (t.toList.flatMap (quoteChar '"') ++ '"' :: (shownBehind ts ++ [']'])) := by
  have hParts : ∀ (part : String) (parts : List String),
      (", ".intercalate (part :: parts)).toList =
        part.toList ++ parts.flatMap fun p => ',' :: ' ' :: p.toList := by
    intro part parts
    induction parts generalizing part with
    | nil => simp
    | cons other parts ih =>
      rw [String.intercalate_cons_cons, String.toList_append, String.toList_append, ih]
      simp
  rw [quotedList, List.map_cons, String.toList_append, String.toList_append, hParts,
    List.flatMap_map]
  simp [quoted, shownBehind]

/-- What is shown behind the first text tells the other texts: up to the closing bracket every text
is behind a comma and between quotes, and none of them can hold a quote that is not escaped. -/
theorem shownBehind_inj {ts us : List String}
    (h : shownBehind ts ++ [']'] = shownBehind us ++ [']']) : ts = us := by
  induction ts generalizing us with
  | nil =>
    cases us with
    | nil => rfl
    | cons u us => simp [shownBehind] at h
  | cons t ts ih =>
    cases us with
    | nil => simp [shownBehind] at h
    | cons u us =>
      simp only [shownBehind, List.flatMap_cons, List.cons_append, List.append_assoc,
        List.nil_append, List.cons.injEq, true_and] at h
      obtain ⟨hText, hRest⟩ := shown_append_inj h
      rw [String.toList_inj.mp hText, ih hRest]

/-- **A list of texts can be told from its quoted form.** So records that show two lists alike are
about one list: its names, their order and their number. -/
theorem quotedList_inj {ts us : List String} : quotedList ts = quotedList us ↔ ts = us := by
  constructor
  · intro h
    have hEmpty : (quotedList []).toList = ['[', ']'] := by decide
    have hChars := congrArg String.toList h
    cases ts with
    | nil =>
      cases us with
      | nil => rfl
      | cons u us =>
        rw [hEmpty, toList_quotedList_cons] at hChars
        -- behind the bracket of the empty list there is no quote
        simp at hChars
    | cons t ts =>
      cases us with
      | nil =>
        rw [hEmpty, toList_quotedList_cons] at hChars
        simp at hChars
      | cons u us =>
        rw [toList_quotedList_cons, toList_quotedList_cons, List.cons.injEq,
          List.cons.injEq] at hChars
        -- the first texts are told up to their quote, the others behind it
        obtain ⟨hText, hRest⟩ := shown_append_inj hChars.2.2
        rw [String.toList_inj.mp hText, shownBehind_inj hRest]
  · rintro rfl
    rfl

example : quotedList ["a", "b\"c\n"] = "[\"a\", \"b\\\"c\\n\"]" := by decide

end QueryGuard.Text
