import QueryGuard.CommandLine.Run

/-!
# Round trip — a printed report is read back

A report is printed over several lines, with blanks to set them in, and a decoder takes characters
from the front of a text and looks ahead past blanks. What is shown of each decoder is what it does
to the written form of a value with anything behind it: it gives the value and leaves the rest. So
the forms can be put together as the decoders are, strings first, then lists of strings, then the
record of two fields. Loops are followed turn by turn, on what has been read so far.

Characters are written one by one, each by itself or by an escape, and each turn of the decoder
takes one of them, whatever the character is.

Main results:

* `Decoder.textTurn_escaped` — a written character is one turn of the decoder of strings.
* `Decoder.string_string` / `Decoder.list_listChars` / `Decoder.record_recordChars` — strings, lists
  and records are read back, with any blanks between their parts.
* `Report.decode_render` — reports are read back, with any blanks behind them.
* `Report.printed_reads_back` — **what is printed of a report is read back.**
-/

namespace QueryGuard.Json.Decoder

variable {α β σ : Type}

-- ---------------------------------------------------------------------------
-- Chains, loops and blanks
-- ---------------------------------------------------------------------------

theorem bind_of_ok {p : Decoder α} {cs rest : List Char} {a : α} (h : p cs = .ok (a, rest))
    (f : α → Decoder β) : (p >>= f) cs = f a rest := by
  simp only [bind, h]

theorem loop_of_again {turn : σ → Decoder (Turn σ α)} {state next : σ} {cs rest : List Char}
    (h : turn state cs = .ok (.again next, rest)) (hLess : rest.length < cs.length) :
    loop turn state cs = loop turn next rest := by
  rw [loop, h]
  exact if_pos hLess

theorem loop_of_done {turn : σ → Decoder (Turn σ α)} {state : σ} {cs rest : List Char} {a : α}
    (h : turn state cs = .ok (.done a, rest)) : loop turn state cs = .ok (a, rest) := by
  rw [loop, h]

theorem next_cons (c : Char) (rest : List Char) : next (c :: rest) = .ok (c, rest) := rfl

theorem drop_cons (c : Char) (rest : List Char) : drop (c :: rest) = .ok ((), rest) := rfl

/-- Characters that may stand between the parts of a text. -/
def Blanks (cs : List Char) : Prop :=
  ∀ c ∈ cs, isBlank c = true

theorem blanks_nil : Blanks [] := by simp [Blanks]

/-- Looking past blanks finds the first character that is none, and leaves it there. -/
theorem peekPart_blanks {ws : List Char} (hws : Blanks ws) {c : Char} (hc : isBlank c = false)
    (rest : List Char) : peekPart (ws ++ c :: rest) = .ok (some c, c :: rest) := by
  have hDrop : (ws ++ c :: rest).dropWhile isBlank = c :: rest := by
    rw [List.dropWhile_append_of_pos hws, List.dropWhile_cons_of_neg (by simp [hc])]
  rw [peekPart, hDrop]
  rfl

theorem peekPart_cons {c : Char} (hc : isBlank c = false) (rest : List Char) :
    peekPart (c :: rest) = .ok (some c, c :: rest) :=
  peekPart_blanks blanks_nil hc rest

-- ---------------------------------------------------------------------------
-- Strings
-- ---------------------------------------------------------------------------

/-- The code of a control character has four digits, each of one byte, and is its number. -/
theorem hexCode_control : ∀ n < 32,
    (hexCode n).length = 4 ∧ (hexCode n).foldl (· + ·.utf8Size) 0 = 4 ∧
      hexNumber? (hexCode n) = some n := by
  decide

/-- The four digits that a control character is written as are read back as its code. -/
theorem code_hexCode {n : Nat} (h : n < 32) (rest : List Char) :
    code (hexCode n ++ rest) = .ok (n, rest) := by
  obtain ⟨hLength, hSize, hNumber⟩ := hexCode_control n h
  have hTake : (hexCode n ++ rest).take 4 = hexCode n := by rw [← hLength, List.take_left]
  have hDrop : (hexCode n ++ rest).drop 4 = rest := by rw [← hLength, List.drop_left]
  rw [code, hTake, hDrop, hSize, hNumber]
  rfl

/-- And the code is that of the character, as it is no half of a pair. -/
theorem codedChar_hexCode {n : Nat} (h : n < 32) (rest : List Char) :
    codedChar (hexCode n ++ rest) = .ok (Char.ofNat n, rest) := by
  have hTrailing : isTrailing n = false := by simp [isTrailing]; omega
  have hLeading : isLeading n = false := by simp [isLeading]; omega
  rw [codedChar, bind_of_ok (code_hexCode h rest), hTrailing, hLeading]
  rfl

/-- The forms of a written character: an escape of one letter, an escape by code, the character. -/
inductive Form (c : Char) : List Char → Prop where
  | letter {l : Char} (hLetter : l ≠ 'u') (h : escapeLetter? l = some c) : Form c ['\\', l]
  | coded (h : c.toNat < 32) : Form c ('\\' :: 'u' :: hexCode c.toNat)
  | plain (hQuote : c ≠ '"') (hBackslash : c ≠ '\\') (h : ¬ c.toNat < 32) : Form c [c]

/-- Every character is written in one of these forms: a few by a letter, the other control
characters by code, and the rest as they are. -/
theorem form_escaped (c : Char) : Form c (escaped c) := by
  have hOfNat : ∀ {n}, c.toNat = n → Char.ofNat n = c := by
    rintro n rfl
    exact Char.ofNat_toNat c
  -- the characters with a letter of their own in the order of the definition, then those by code
  unfold escaped
  split
  · exact .letter (by decide) (by simp [escapeLetter?, *])
  split
  · exact .letter (by decide) (by simp [escapeLetter?, *])
  split
  · -- these two have no literal of their own and are told by their codes
    exact .letter (by decide) (congrArg some (hOfNat ‹_›))
  split
  · exact .letter (by decide) (congrArg some (hOfNat ‹_›))
  split
  · exact .letter (by decide) (by simp [escapeLetter?, *])
  split
  · exact .letter (by decide) (by simp [escapeLetter?, *])
  split
  · exact .letter (by decide) (by simp [escapeLetter?, *])
  split
  · exact .coded ‹_›
  · exact .plain ‹_› ‹_› ‹_›

/-- Behind a backslash a turn takes what the escape stands for. -/
theorem textTurn_of_escape {c : Char} {cs rest : List Char} (h : escape cs = .ok (c, rest))
    (soFar : List Char) : textTurn soFar ('\\' :: cs) = .ok (.again (c :: soFar), rest) := by
  rw [textTurn, bind_of_ok (next_cons _ cs), if_neg (by decide), if_pos rfl, bind_of_ok h]
  rfl

/-- A turn takes one character in whichever form it is written, and leaves what is behind it. So a
text is read back turn by turn, however it is escaped. -/
theorem textTurn_of_form {c : Char} {cs : List Char} (h : Form c cs) (soFar rest : List Char) :
    textTurn soFar (cs ++ rest) = .ok (.again (c :: soFar), rest) := by
  cases h with
  | @letter l hLetter h =>
    have hEscape : escape (l :: rest) = .ok (c, rest) := by
      rw [escape, bind_of_ok (next_cons l rest), if_neg hLetter, h]
      rfl
    exact textTurn_of_escape hEscape soFar
  | coded h =>
    have hEscape : escape ('u' :: (hexCode c.toNat ++ rest)) = .ok (c, rest) := by
      rw [escape, bind_of_ok (next_cons _ _), if_pos rfl, codedChar_hexCode h, Char.ofNat_toNat]
    exact textTurn_of_escape hEscape soFar
  | plain hQuote hBackslash h =>
    rw [List.singleton_append, textTurn, bind_of_ok (next_cons c rest), if_neg hQuote,
      if_neg hBackslash, if_neg h]
    rfl

/-- No form is empty, so every turn takes something. -/
theorem Form.length_pos {c : Char} {cs : List Char} (h : Form c cs) : 0 < cs.length := by
  cases h <;> simp

/-- A written character is one turn. -/
theorem textTurn_escaped (soFar : List Char) (c : Char) (rest : List Char) :
    textTurn soFar (escaped c ++ rest) = .ok (.again (c :: soFar), rest) :=
  textTurn_of_form (form_escaped c) soFar rest

/-- The loop over the contents of a string takes them up to the closing quote. The quote cannot be
mistaken for a part of them, as one in the contents is escaped. -/
theorem loop_textTurn (cs soFar rest : List Char) :
    loop textTurn soFar (cs.flatMap escaped ++ '"' :: rest) =
      .ok (String.ofList (soFar.reverse ++ cs), rest) := by
  induction cs generalizing soFar with
  | nil =>
    rw [List.append_nil]
    exact loop_of_done rfl
  | cons c cs ih =>
    have hLess : (cs.flatMap escaped ++ '"' :: rest).length <
        (escaped c ++ (cs.flatMap escaped ++ '"' :: rest)).length := by
      have hSome := (form_escaped c).length_pos
      simp only [List.length_append]
      omega
    rw [List.flatMap_cons, List.append_assoc,
      loop_of_again (textTurn_escaped soFar c _) hLess, ih, List.reverse_cons, List.append_assoc]
    rfl

/-- A string is written with quotes around the forms of its characters. -/
theorem toList_string (s : String) :
    (Json.string s).toList = '"' :: (s.toList.flatMap escaped ++ ['"']) :=
  String.toList_ofList

theorem string_append (s : String) (rest : List Char) :
    (Json.string s).toList ++ rest = '"' :: (s.toList.flatMap escaped ++ '"' :: rest) := by
  simp [toList_string]

/-- The contents of a string are read back with the quote behind them. -/
theorem text_string (s : String) (rest : List Char) :
    text (s.toList.flatMap escaped ++ '"' :: rest) = .ok (s, rest) := by
  rw [text, loop_textTurn, List.reverse_nil, List.nil_append, String.ofList_toList]

/-- A written string is read back. -/
theorem string_string {ws : List Char} (hws : Blanks ws) (s : String) (rest : List Char) :
    string (ws ++ (Json.string s).toList ++ rest) = .ok (s, rest) := by
  rw [List.append_assoc, string_append, string, bind_of_ok (peekPart_blanks hws (by decide) _)]
  exact text_string s rest

-- ---------------------------------------------------------------------------
-- Lists
-- ---------------------------------------------------------------------------

/-- A decoder reads a form of its values, and no form begins with a blank or like the end of a
list. -/
structure ReadsForm (item : Decoder α) (form : α → List Char) : Prop where
  reads : ∀ a rest, item (form a ++ rest) = .ok (a, rest)
  opens : ∀ a, ∃ c cs, form a = c :: cs ∧ isBlank c = false ∧ c ≠ ']'

/-- Strings are items of a list: they are read back, and begin with a quote. -/
theorem readsForm_string : ReadsForm string fun s => (Json.string s).toList where
  reads s rest := by
    have hRead := string_string blanks_nil s rest
    rwa [List.nil_append] at hRead
  opens s := ⟨'"', _, toList_string s, by decide, by decide⟩

/-- What follows the first item of a list. -/
def itemsChars (form : α → List Char) (inner : List Char) (items : List α) : List Char :=
  items.flatMap fun a => ',' :: (inner ++ form a)

/-- A list with the given blanks before its items and behind the last one. -/
def listChars (form : α → List Char) (inner outer : List Char) : List α → List Char
  | [] => ['[', ']']
  | a :: items => '[' :: (inner ++ form a ++ itemsChars form inner items ++ outer ++ [']'])

section Lists

variable {ws inner outer rest : List Char}

/-- Before the first item there is no comma. -/
theorem moreItems_first (hws : Blanks ws) {c : Char} (hc : isBlank c = false) (hEnd : c ≠ ']') :
    moreItems true (ws ++ c :: rest) = .ok (true, c :: rest) := by
  rw [moreItems, bind_of_ok (peekPart_blanks hws hc rest)]
  dsimp only
  rw [if_neg hEnd]
  rfl

theorem moreItems_comma (hws : Blanks ws) {c : Char} (hc : isBlank c = false) (hEnd : c ≠ ']') :
    moreItems false (',' :: (ws ++ c :: rest)) = .ok (true, c :: rest) := by
  rw [moreItems, bind_of_ok (peekPart_cons (by decide) _)]
  dsimp only
  rw [if_neg (by decide), if_neg (by decide), if_pos rfl, bind_of_ok (drop_cons _ _),
    bind_of_ok (peekPart_blanks hws hc rest)]
  -- of the two cases left, the closing bracket is excluded by `hEnd`
  simp only
  rfl

/-- The closing bracket ends a list, also behind blanks. -/
theorem moreItems_end (first : Bool) (hws : Blanks ws) :
    moreItems first (ws ++ ']' :: rest) = .ok (false, ']' :: rest) := by
  rw [moreItems, bind_of_ok (peekPart_blanks hws (by decide) rest)]
  rfl

variable {item : Decoder α} {form : α → List Char}

/-- A turn takes an item where there is one more. -/
theorem itemsTurn_of_more (h : ReadsForm item form) {soFar : List α} {cs : List Char} {a : α}
    (hMore : moreItems soFar.isEmpty cs = .ok (true, form a ++ rest)) :
    itemsTurn item soFar cs = .ok (.again (a :: soFar), rest) := by
  rw [itemsTurn, bind_of_ok hMore, if_pos rfl, bind_of_ok (h.reads a rest)]
  rfl

/-- Where there is none, the turn is the last, and the items are put in order. -/
theorem itemsTurn_of_end {soFar : List α} {cs : List Char}
    (hEnd : moreItems soFar.isEmpty cs = .ok (false, ']' :: rest)) :
    itemsTurn item soFar cs = .ok (.done soFar.reverse, rest) := by
  rw [itemsTurn, bind_of_ok hEnd, if_neg (by decide)]
  rfl

/-- The turn for the first item of a list, with blanks before it. -/
theorem itemsTurn_first (h : ReadsForm item form) (hInner : Blanks inner) (a : α) :
    itemsTurn item [] (inner ++ (form a ++ rest)) = .ok (.again [a], rest) := by
  apply itemsTurn_of_more h
  obtain ⟨c, cs, hOpens, hc, hEnd⟩ := h.opens a
  rw [hOpens]
  exact moreItems_first hInner hc hEnd

theorem itemsTurn_comma (h : ReadsForm item form) (hInner : Blanks inner) (a last : α)
    (soFar : List α) :
    itemsTurn item (last :: soFar) (',' :: (inner ++ (form a ++ rest))) =
      .ok (.again (a :: last :: soFar), rest) := by
  apply itemsTurn_of_more h
  obtain ⟨c, cs, hOpens, hc, hEnd⟩ := h.opens a
  rw [hOpens]
  exact moreItems_comma hInner hc hEnd

/-- The loop over the items behind the first takes them all, by induction on the items. -/
theorem loop_itemsTurn (h : ReadsForm item form) (hInner : Blanks inner) (hOuter : Blanks outer)
    (items : List α) (last : α) (soFar : List α) :
    loop (itemsTurn item) (last :: soFar) (itemsChars form inner items ++ (outer ++ ']' :: rest)) =
      .ok ((last :: soFar).reverse ++ items, rest) := by
  induction items generalizing last soFar with
  | nil =>
    rw [List.append_nil]
    exact loop_of_done (itemsTurn_of_end (moreItems_end _ hOuter))
  | cons a items ih =>
    have hForm : itemsChars form inner (a :: items) ++ (outer ++ ']' :: rest) =
        ',' :: (inner ++ (form a ++ (itemsChars form inner items ++ (outer ++ ']' :: rest)))) := by
      simp [itemsChars]
    rw [hForm, loop_of_again (itemsTurn_comma h hInner a last soFar)
      (by simp only [List.length_cons, List.length_append]; omega), ih]
    simp

/-- A written list is read back, with any blanks before it and between its parts, and what stands
behind its bracket is left. -/
theorem list_listChars (h : ReadsForm item form) (hws : Blanks ws) (hInner : Blanks inner)
    (hOuter : Blanks outer) (items : List α) :
    list item (ws ++ listChars form inner outer items ++ rest) = .ok (items, rest) := by
  cases items with
  | nil =>
    rw [listChars, List.append_assoc, List.cons_append, list,
      bind_of_ok (peekPart_blanks hws (by decide) _)]
    exact loop_of_done (itemsTurn_of_end (moreItems_end true blanks_nil))
  | cons a items =>
    -- a list with a first item: the bracket, the item, the others each behind a comma
    have hForm : ws ++ listChars form inner outer (a :: items) ++ rest =
        ws ++ '[' :: (inner ++ (form a ++
          (itemsChars form inner items ++ (outer ++ ']' :: rest)))) := by
      simp [listChars]
    -- every item takes a character, so the loop goes on
    have hLength : 0 < (form a).length := by
      obtain ⟨c, cs, hOpens, -, -⟩ := h.opens a
      simp [hOpens]
    rw [hForm, list, bind_of_ok (peekPart_blanks hws (by decide) _)]
    dsimp only
    rw [if_pos rfl, bind_of_ok (drop_cons _ _), loop_of_again (itemsTurn_first h hInner a)
      (by simp only [List.length_append]; omega), loop_itemsTurn h hInner hOuter]
    rfl

end Lists

-- ---------------------------------------------------------------------------
-- Records
-- ---------------------------------------------------------------------------

/-- A field: its name and its value. -/
def fieldChars (name : String) (value : List Char) : List Char :=
  (Json.string name).toList ++ ':' :: value

/-- A record of two fields with the given blanks before its fields and behind the last one. -/
def recordChars (inner outer first second : List Char) : List Char :=
  '\x7b' :: (inner ++ first ++ ',' :: (inner ++ second ++ outer ++ ['\x7d']))

section Records

variable {ws inner outer rest : List Char}

/-- Before the first field there is no comma. -/
theorem nextKey_first (hws : Blanks ws) (key : String) :
    nextKey true (ws ++ ((Json.string key).toList ++ rest)) = .ok (some key, rest) := by
  rw [string_append, nextKey, bind_of_ok (peekPart_blanks hws (by decide) _)]
  dsimp only
  rw [if_neg (by decide), if_pos rfl, if_pos rfl, bind_of_ok (drop_cons _ _),
    bind_of_ok (text_string key rest)]
  rfl

theorem nextKey_comma (hws : Blanks ws) (key : String) :
    nextKey false (',' :: (ws ++ ((Json.string key).toList ++ rest))) = .ok (some key, rest) := by
  rw [string_append, nextKey, bind_of_ok (peekPart_cons (by decide) _)]
  dsimp only
  rw [if_neg (by decide), if_neg (by decide), if_pos rfl, bind_of_ok (drop_cons _ _),
    bind_of_ok (peekPart_blanks hws (by decide) _)]
  dsimp only
  rw [if_pos rfl, bind_of_ok (drop_cons _ _), bind_of_ok (text_string key rest)]
  rfl

/-- The closing brace ends a record, also behind blanks. -/
theorem nextKey_end (first : Bool) (hws : Blanks ws) :
    nextKey first (ws ++ '\x7d' :: rest) = .ok (none, '\x7d' :: rest) := by
  rw [nextKey, bind_of_ok (peekPart_blanks hws (by decide) rest)]
  rfl

theorem colon_cons (rest : List Char) : colon (':' :: rest) = .ok ((), rest) := rfl

variable {f : Field α} {g : Field β} {soFar : Fields α β} {cs value : List Char}

/-- A turn takes the first field if it has not been there yet. In what order fields come does not
matter to the decoder; here they come in the order they are written. -/
theorem fieldsTurn_left {a : α} (hKey : nextKey soFar.first cs = .ok (some f.name, ':' :: value))
    (hNone : soFar.left = none) (hValue : f.value value = .ok (a, rest)) :
    fieldsTurn f g soFar cs =
      .ok (.again { soFar with first := false, left := some a }, rest) := by
  rw [fieldsTurn, bind_of_ok hKey]
  dsimp only
  rw [if_pos rfl, if_neg (by simp [hNone]), bind_of_ok (colon_cons value), bind_of_ok hValue]
  rfl

/-- The same for the second. Its name has to be another, or it would be taken for the first. -/
theorem fieldsTurn_right {b : β} (hNames : g.name ≠ f.name)
    (hKey : nextKey soFar.first cs = .ok (some g.name, ':' :: value))
    (hNone : soFar.right = none) (hValue : g.value value = .ok (b, rest)) :
    fieldsTurn f g soFar cs =
      .ok (.again { soFar with first := false, right := some b }, rest) := by
  rw [fieldsTurn, bind_of_ok hKey]
  dsimp only
  rw [if_neg hNames, if_pos rfl, if_neg (by simp [hNone]), bind_of_ok (colon_cons value),
    bind_of_ok hValue]
  rfl

/-- Behind both fields the record is complete. -/
theorem fieldsTurn_end {a : α} {b : β} {first : Bool}
    (hKey : nextKey first cs = .ok (none, '\x7d' :: rest)) :
    fieldsTurn f g ⟨first, some a, some b⟩ cs = .ok (.done (a, b), rest) := by
  rw [fieldsTurn, bind_of_ok hKey]
  rfl

/-- A written record is read back, with what stands behind its brace left. There are three turns:
one for each field, and one that finds the brace. -/
theorem record_recordChars {a : α} {b : β} {left right : List Char} (hNames : g.name ≠ f.name)
    (hInner : Blanks inner) (hOuter : Blanks outer)
    (hLeft : ∀ rest, f.value (left ++ rest) = .ok (a, rest))
    (hRight : ∀ rest, g.value (right ++ rest) = .ok (b, rest)) :
    record f g
        (recordChars inner outer (fieldChars f.name left) (fieldChars g.name right) ++ rest) =
      .ok ((a, b), rest) := by
  -- the record taken apart into what the turns of the decoder take one after the other
  have hForm : recordChars inner outer (fieldChars f.name left) (fieldChars g.name right) ++ rest =
      '\x7b' :: (inner ++ ((Json.string f.name).toList ++ ':' :: (left ++
        ',' :: (inner ++ ((Json.string g.name).toList ++ ':' :: (right ++
          (outer ++ '\x7d' :: rest))))))) := by
    simp [recordChars, fieldChars]
  -- the first turn, the second, and the one that finds the brace
  have hFirst : ∀ tail, fieldsTurn f g {}
      (inner ++ ((Json.string f.name).toList ++ ':' :: (left ++ tail))) =
        .ok (.again ⟨false, some a, none⟩, tail) :=
    fun tail => fieldsTurn_left (nextKey_first hInner f.name) rfl (hLeft tail)
  have hSecond : ∀ tail, fieldsTurn f g ⟨false, some a, none⟩
      (',' :: (inner ++ ((Json.string g.name).toList ++ ':' :: (right ++ tail)))) =
        .ok (.again ⟨false, some a, some b⟩, tail) :=
    fun tail => fieldsTurn_right hNames (nextKey_comma hInner g.name) rfl (hRight tail)
  rw [hForm, record, bind_of_ok (peekPart_cons (by decide) _)]
  dsimp only
  rw [if_pos rfl, bind_of_ok (drop_cons _ _),
    loop_of_again (hFirst _) (by simp only [List.length_append, List.length_cons]; omega),
    loop_of_again (hSecond _) (by simp only [List.length_append, List.length_cons]; omega)]
  exact loop_of_done (fieldsTurn_end (nextKey_end false hOuter))

end Records

end QueryGuard.Json.Decoder

-- ---------------------------------------------------------------------------
-- Values as they are rendered
-- ---------------------------------------------------------------------------

namespace QueryGuard.Json.Value

open Decoder

/-- What a line begins with is blank, however far in it is. -/
theorem blanks_newLine (level : Nat) : Blanks (newLine level).toList := by
  have hForm : (newLine level).toList = '\n' :: List.replicate (2 * level) ' ' := by
    simp [newLine]
  rw [hForm]
  refine List.forall_mem_cons.mpr ⟨rfl, fun c hc => ?_⟩
  rw [List.eq_of_mem_replicate hc]
  rfl

/-- Parts with separators between them: the first, and each other one behind a separator. -/
theorem intercalate_cons_eq {sep part : List Char} {parts : List (List Char)} :
    sep.intercalate (part :: parts) = part ++ parts.flatMap (sep ++ ·) := by
  induction parts generalizing part with
  | nil => simp
  | cons other parts ih =>
    rw [List.intercalate_cons_cons, ih, List.flatMap_cons, List.append_assoc, List.append_assoc]

/-- What stands between brackets: the first part, and the others each behind a comma, all on lines
of their own. -/
theorem toList_bracketed (opening closing : String) (level : Nat) (part : String)
    (parts : List String) :
    (bracketed opening closing level (part :: parts)).toList =
      opening.toList ++ ((newLine (level + 1)).toList ++ part.toList ++
        (parts.flatMap fun p => ',' :: ((newLine (level + 1)).toList ++ p.toList)) ++
          (newLine level).toList ++ closing.toList) := by
  have hParts : (("," ++ newLine (level + 1)).intercalate (part :: parts)).toList =
      part.toList ++ parts.flatMap fun p => ',' :: ((newLine (level + 1)).toList ++ p.toList) := by
    rw [String.toList_intercalate, List.map_cons, intercalate_cons_eq, List.flatMap_map,
      String.toList_append]
    rfl
  rw [bracketed, if_neg (by simp)]
  simp only [String.toList_append, hParts, List.append_assoc]

/-- The items of a list of strings are the strings, however far in. -/
theorem renderItems_map_string (level : Nat) (texts : List String) :
    renderItems level (texts.map .string) = texts.map Json.string := by
  induction texts with
  | nil => rfl
  | cons t texts ih => rw [List.map_cons, renderItems, ih, renderAt, List.map_cons]

/-- A list of strings as it is rendered. -/
theorem toList_renderAt_array (level : Nat) (texts : List String) :
    (renderAt level (.array (texts.map .string))).toList =
      listChars (fun s => (Json.string s).toList) (newLine (level + 1)).toList
        (newLine level).toList texts := by
  rw [renderAt, renderItems_map_string]
  cases texts with
  | nil => simp [bracketed, listChars]
  | cons t texts =>
    rw [List.map_cons, toList_bracketed, List.flatMap_map]
    rfl

end QueryGuard.Json.Value

-- ---------------------------------------------------------------------------
-- Reports
-- ---------------------------------------------------------------------------

namespace QueryGuard.Report

open Json Json.Decoder Json.Value

/-- A report as it is rendered is a written record of two fields, with the blanks that the
rendering puts between its parts. -/
theorem toList_render (r : Report) :
    r.render.toList =
      recordChars (newLine 1).toList (newLine 0).toList
        (fieldChars dialectField.name ([' '] ++ (Json.string r.dialect).toList))
        (fieldChars tablesField.name ([' '] ++
          listChars (fun s => (Json.string s).toList) (newLine 2).toList (newLine 1).toList
            r.tables)) := by
  have hColon : ": ".toList = [':', ' '] := rfl
  have hBraces : "\x7b".toList = ['\x7b'] ∧ "\x7d".toList = ['\x7d'] := ⟨rfl, rfl⟩
  rw [render, Value.render, toJson, renderAt, renderFields, renderFields, renderFields,
    toList_bracketed, ← toList_renderAt_array 1]
  simp only [recordChars, fieldChars, renderAt.eq_2, hBraces, hColon, String.toList_append,
    List.flatMap_cons, List.flatMap_nil, List.append_assoc, List.cons_append, List.nil_append,
    dialectField, tablesField]

/-- A rendered report is read back, with any blanks behind it. It is a record of two fields, each
of which is read back by its own decoder. -/
theorem decode_render (r : Report) {text : String} {ws : List Char} (hws : Blanks ws)
    (hText : text.toList = r.render.toList ++ ws) : decode text = .ok r := by
  have hBlank : Blanks [' '] := by simp [Blanks, Decoder.isBlank]
  have hDialect : dialectField.value = Decoder.string := rfl
  have hTables : tablesField.value = Decoder.list Decoder.string := rfl
  -- a report is a record of two fields, each read back by its own decoder
  have hRecord : record dialectField tablesField (r.render.toList ++ ws) =
      .ok ((r.dialect, r.tables), ws) := by
    rw [toList_render]
    apply record_recordChars (by decide) (blanks_newLine 1) (blanks_newLine 0)
    · intro rest
      rw [hDialect, string_string hBlank]
    · intro rest
      rw [hTables, list_listChars readsForm_string hBlank (blanks_newLine 2) (blanks_newLine 1)]
  -- nothing but blanks is left
  have hEnd : (ws.dropWhile Decoder.isBlank).isEmpty = true := by
    rw [← List.append_nil ws, List.dropWhile_append_of_pos hws]
    rfl
  rw [decode, run, hText, hRecord]
  dsimp only
  rw [if_pos hEnd]
  rfl

/-- The newline that is printed behind a report does not matter. -/
theorem decode_printed (r : Report) : decode (r.render ++ "\n") = .ok r :=
  decode_render r (blanks_newLine 0) String.toList_append

/-- **What is printed of a report is read back.** Whatever the dialect and the tables are, the
output of a check that ends with their report is a text that holds a report with this dialect and
with these tables in this order. This is so of every report, whatever its list of tables; so reports
that differ are not printed alike. -/
theorem printed_reads_back :
    (∀ (filter : CommandLine.LogFilter) (events : List Event) (dialect : String) (tables : NameSet),
      decode (CommandLine.outcome filter ⟨events, .ok (ofTables dialect tables)⟩).output =
        .ok ⟨dialect, tables.toList⟩) ∧
    (∀ r : Report, decode (r.render ++ "\n") = .ok r) ∧
    ∀ r r' : Report, r.render ++ "\n" = r'.render ++ "\n" ↔ r = r' := by
  refine ⟨fun _ _ dialect tables => decode_printed (ofTables dialect tables), decode_printed, ?_⟩
  intro r r'
  constructor
  · intro hSame
    have hDecoded := congrArg decode hSame
    rw [decode_printed, decode_printed] at hDecoded
    exact Except.ok.inj hDecoded
  · rintro rfl
    rfl

example : render ⟨"\"", ["\x01", "é"]⟩ =
    "\x7b\n  \"dialect\": \"\\\"\",\n  \"tables\": [\n    \"\\u0001\",\n    \"é\"\n  ]\n\x7d" := by
  decide +kernel

end QueryGuard.Report
