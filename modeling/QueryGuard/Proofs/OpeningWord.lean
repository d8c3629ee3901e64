import Mathlib.Data.List.TakeWhile
import QueryGuard.Sql.Opening

/-!
# Opening words — a statement is judged by the whole of its first word

A statement of a form that has no kind of its own is judged by its text: by the word behind the
blanks that it may begin with. `Opening` says which word that is without reading the text from the
left. The text falls into blanks, a word of letters and underscores, and a rest that does not go on
with the word. There is one such division at most, since blanks are not letters and the rest begins
with none. A longer word is another word: `CREATED` opens no statement that creates.

Main results:

* `opening_iff` — how a text is divided, if it is.
* `kindOfWord_eq_lookup` — the kinds of words as a table.
* `isDisallowed_kindOfWord` — the words that stand for disallowed kinds.
* `kind_by_whole_word` — **only the opening word counts, and the whole of it.**
-/

namespace QueryGuard.Sql

-- ---------------------------------------------------------------------------
-- Blanks, word, rest
-- ---------------------------------------------------------------------------

/-- An ASCII letter or an underscore. -/
def WordChar (c : Char) : Prop :=
  ('A' ≤ c ∧ c ≤ 'Z') ∨ ('a' ≤ c ∧ c ≤ 'z') ∨ c = '_'

/-- A text that opens with a word. -/
structure Opening (text : String) (blanks word rest : List Char) : Prop where
  parts : text.toList = blanks ++ word ++ rest
  blank : ∀ c ∈ blanks, Text.isBlank c = true
  inhabited : word ≠ []
  letters : ∀ c ∈ word, WordChar c
  ended : ∀ c ∈ rest.head?, ¬ WordChar c

/-- The test for a character of a word is the class that is written out here. -/
theorem isWordChar_iff {c : Char} : isWordChar c = true ↔ WordChar c := by
  have hAlpha : c.isAlpha =
      (decide ('A' ≤ c ∧ c ≤ 'Z') || decide ('a' ≤ c) && decide (c ≤ 'z')) := rfl
  rw [isWordChar, hAlpha]
  simp [WordChar, or_assoc]

/-- The class by codes, on which the other facts about it rest. -/
theorem toNat_of_wordChar {c : Char} (h : WordChar c) :
    (65 ≤ c.toNat ∧ c.toNat ≤ 90) ∨ (97 ≤ c.toNat ∧ c.toNat ≤ 122) ∨ c.toNat = 95 := by
  rcases h with hUpper | hLower | rfl
  · exact Or.inl hUpper
  · exact Or.inr (Or.inl hLower)
  · exact Or.inr (Or.inr rfl)

/-- No blank stands in a word, so a word ends the blanks before it. -/
theorem isBlank_of_wordChar {c : Char} (h : WordChar c) : Text.isBlank c = false := by
  have hCode := toNat_of_wordChar h
  simp only [Text.isBlank, Bool.or_eq_false_iff, Bool.and_eq_false_iff, decide_eq_false_iff_not,
    beq_eq_false_iff_ne]
  omega

/-- A run of characters of a class ends before the first that is not of it. So a division of a text
is the greedy one if each part stops for a reason. -/
theorem takeWhile_dropWhile_of_run {p : Char → Bool} {run rest : List Char}
    (hRun : ∀ c ∈ run, p c = true) (hRest : ∀ c ∈ rest.head?, p c = false) :
    (run ++ rest).takeWhile p = run ∧ (run ++ rest).dropWhile p = rest := by
  rw [List.takeWhile_append_of_pos hRun, List.dropWhile_append_of_pos hRun]
  cases rest with
  | nil => simp
  | cons c rest =>
    have hc : p c = false := hRest c rfl
    simp [hc]

/-- **One division.** A text that opens with a word does so with the word that is read: blanks as
far as they go, then word characters as far as they go. So a keyword that goes on with word
characters is another word. -/
theorem opening_iff {text : String} {blanks word rest : List Char} :
    Opening text blanks word rest ↔
      blanks = text.toList.takeWhile Text.isBlank ∧
        word = (text.toList.dropWhile Text.isBlank).takeWhile isWordChar ∧
          rest = (text.toList.dropWhile Text.isBlank).dropWhile isWordChar ∧ word ≠ [] := by
  constructor
  · intro h
    have hLetters : ∀ c ∈ word, isWordChar c = true := fun c hc =>
      isWordChar_iff.mpr (h.letters c hc)
    have hEnded : ∀ c ∈ rest.head?, isWordChar c = false := fun c hc =>
      Bool.eq_false_iff.mpr fun hChar => h.ended c hc (isWordChar_iff.mp hChar)
    -- what follows the blanks begins with a letter of the word, so with no blank
    have hBehind : ∀ c ∈ (word ++ rest).head?, Text.isBlank c = false := by
      obtain ⟨first, others, rfl⟩ := List.exists_cons_of_ne_nil h.inhabited
      rintro _ ⟨⟩
      exact isBlank_of_wordChar (h.letters first List.mem_cons_self)
    obtain ⟨hBlanks, hFound⟩ := takeWhile_dropWhile_of_run h.blank hBehind
    obtain ⟨hWord, hRest⟩ := takeWhile_dropWhile_of_run hLetters hEnded
    rw [h.parts, List.append_assoc, hBlanks, hFound, hWord, hRest]
    exact ⟨rfl, rfl, rfl, h.inhabited⟩
  · -- and what is taken off step by step is such a division
    rintro ⟨rfl, rfl, rfl, hInhabited⟩
    refine ⟨?_, ?_, hInhabited, ?_, ?_⟩
    · rw [List.append_assoc, List.takeWhile_append_dropWhile, List.takeWhile_append_dropWhile]
    · exact fun c hc => List.mem_takeWhile_imp hc
    · exact fun c hc => isWordChar_iff.mp (List.mem_takeWhile_imp hc)
    · intro c hc hChar
      have hNot := List.head?_dropWhile_not isWordChar (text.toList.dropWhile Text.isBlank)
      rw [hc] at hNot
      exact absurd (isWordChar_iff.mpr hChar) (Bool.eq_false_iff.mp hNot)

/-- Where a text opens with a word, that is found, in capitals. Blanks before it and whatever
follows do not matter. -/
theorem openingWord_of_opening {text : String} {blanks word rest : List Char}
    (h : Opening text blanks word rest) : openingWord text.toList = word.map Char.toUpper := by
  obtain ⟨-, hWord, -, -⟩ := opening_iff.mp h
  rw [openingWord, ← hWord]

/-- No word is found exactly where a text opens with none: behind its blanks it is over, or goes on
with a character that no word has. -/
theorem openingWord_eq_nil_iff {text : String} :
    openingWord text.toList = [] ↔ ¬ ∃ blanks word rest, Opening text blanks word rest := by
  rw [openingWord, List.map_eq_nil_iff]
  constructor
  · rintro hEmpty ⟨blanks, word, rest, h⟩
    obtain ⟨-, hWord, -, hInhabited⟩ := opening_iff.mp h
    exact hInhabited (hWord.trans hEmpty)
  · intro h
    by_contra hInhabited
    exact h ⟨_, _, _, opening_iff.mpr ⟨rfl, rfl, rfl, hInhabited⟩⟩

instance (text : String) (blanks word rest : List Char) :
    Decidable (Opening text blanks word rest) :=
  decidable_of_iff _ opening_iff.symm

-- ---------------------------------------------------------------------------
-- Words and kinds
-- ---------------------------------------------------------------------------

/-- The words that stand for a kind, in upper case. -/
def openingKinds : List (String × NodeKind) :=
  [("CREATE", .create), ("ALTER", .alter), ("RENAME", .alter), ("DROP", .drop),
   ("INSERT", .insert), ("REPLACE", .insert), ("UPSERT", .insert), ("UPDATE", .update),
   ("DELETE", .delete), ("MERGE", .merge), ("GRANT", .grant), ("SET", .set),
   ("REVOKE", .revoke), ("TRUNCATE", .truncate), ("COPY", .copy), ("UNLOAD", .copy),
   ("EXPLAIN", .explain), ("DESCRIBE", .explain), ("DESC", .explain), ("SHOW", .showing),
   ("BEGIN", .transaction), ("START", .transaction), ("COMMIT", .transaction),
   ("ROLLBACK", .transaction), ("SAVEPOINT", .transaction), ("RELEASE", .transaction)]

/-- The words that stand for a disallowed kind. -/
def disallowedWords : List String :=
  ["CREATE", "ALTER", "RENAME", "DROP", "INSERT", "REPLACE", "UPSERT", "UPDATE", "DELETE", "MERGE",
   "GRANT", "SET"]

/-- The kind of a word is that of the table, or a mere command if the word is not in it. The table
is a list, so it can be searched and gone through, which the match of the definition cannot. -/
theorem kindOfWord_eq_lookup (word : String) :
    kindOfWord word = (openingKinds.lookup word).getD .command := by
  unfold kindOfWord
  split
  any_goals rfl
  -- no word of the table, so it is not found there
  have hNone : openingKinds.lookup word = none := by
    rw [List.lookup_eq_none_iff]
    simp_all [openingKinds]
  rw [hNone]
  rfl

/-- The words that stand for a disallowed kind, written out as a list, are those that do. No word
outside the list does, since a mere command is not disallowed. -/
theorem isDisallowed_kindOfWord {word : String} :
    (kindOfWord word).isDisallowed = true ↔ word ∈ disallowedWords := by
  rw [kindOfWord_eq_lookup]
  cases hFound : openingKinds.lookup word with
  | none =>
    -- the table has all the disallowed words
    have hListed : ∀ w ∈ disallowedWords, openingKinds.lookup w ≠ none := by decide
    constructor
    · intro hDisallowed
      cases hDisallowed
    · intro hMem
      exact absurd hFound (hListed word hMem)
  | some kind =>
    have hTable : ∀ entry ∈ openingKinds,
        entry.2.isDisallowed = true ↔ entry.1 ∈ disallowedWords := by decide
    obtain ⟨before, after, hKeywords, -⟩ := List.lookup_eq_some_iff.mp hFound
    exact hTable (word, kind) (hKeywords ▸ List.mem_append_right before List.mem_cons_self)

/-- **Only the opening word counts, and the whole of it.** A text that opens with a word, behind
any blanks and before anything that does not go on with the word, is of the kind that the table has
for the word in upper case, and a mere command if the table does not have it. A text that opens with
no word is a mere command. So a statement that is judged by its text is disallowed exactly if the
whole of its opening word is one of the disallowed ones, in whatever case. -/
theorem kind_by_whole_word (text : String) :
    (∀ blanks word rest, Opening text blanks word rest →
      kindOfOpening text =
        (openingKinds.lookup (String.ofList (word.map Char.toUpper))).getD .command) ∧
    ((¬ ∃ blanks word rest, Opening text blanks word rest) → kindOfOpening text = .command) ∧
    ((StatementForm.other text).kind.isDisallowed = true ↔
      ∃ blanks word rest, Opening text blanks word rest ∧
        String.ofList (word.map Char.toUpper) ∈ disallowedWords) := by
  -- a text that opens with a word is of the kind of that word, and any other of a command
  have hWord : ∀ blanks word rest, Opening text blanks word rest →
      kindOfOpening text = kindOfWord (String.ofList (word.map Char.toUpper)) := by
    intro blanks word rest h
    rw [kindOfOpening, openingWord_of_opening h]
  have hNone : (¬ ∃ blanks word rest, Opening text blanks word rest) →
      kindOfOpening text = .command := by
    intro h
    rw [kindOfOpening, openingWord_eq_nil_iff.mpr h]
    rfl
  refine ⟨?_, hNone, ?_⟩
  · intro blanks word rest h
    rw [hWord blanks word rest h, kindOfWord_eq_lookup]
  · show (kindOfOpening text).isDisallowed = true ↔ _
    constructor
    · intro hDisallowed
      -- without a word it would be a command, which is not disallowed
      by_cases h : ∃ blanks word rest, Opening text blanks word rest
      · obtain ⟨blanks, word, rest, hOpening⟩ := h
        rw [hWord blanks word rest hOpening, isDisallowed_kindOfWord] at hDisallowed
        exact ⟨blanks, word, rest, hOpening, hDisallowed⟩
      · rw [hNone h] at hDisallowed
        cases hDisallowed
    · rintro ⟨blanks, word, rest, hOpening, hMem⟩
      rw [hWord blanks word rest hOpening]
      exact isDisallowed_kindOfWord.mpr hMem

/-- A word in mixed case behind blanks of two kinds, and one that is not at the opening. -/
theorem kind_by_whole_word_mixed :
    Opening "\u00a0\ncReAtE(x" ['\u00a0', '\n'] ['c', 'R', 'e', 'A', 't', 'E'] ['(', 'x'] ∧
    kindOfOpening "\u00a0\ncReAtE(x" = .create ∧
    (¬ ∃ blanks word rest, Opening "(CREATE" blanks word rest) ∧
    kindOfOpening "(CREATE" = .command := by
  have hOpening : Opening "\u00a0\ncReAtE(x" ['\u00a0', '\n'] ['c', 'R', 'e', 'A', 't', 'E']
      ['(', 'x'] := by decide +kernel
  have hNone : ¬ ∃ blanks word rest, Opening "(CREATE" blanks word rest :=
    openingWord_eq_nil_iff.mp (by decide +kernel)
  obtain ⟨hKind, -, -⟩ := kind_by_whole_word "\u00a0\ncReAtE(x"
  obtain ⟨-, hCommand, -⟩ := kind_by_whole_word "(CREATE"
  exact ⟨hOpening, (hKind _ _ _ hOpening).trans (by decide +kernel), hNone, hCommand hNone⟩

/-- A longer word is another word. -/
example : kindOfOpening "CREATED x" = .command ∧ kindOfOpening "SET_x" = .command := by
  decide +kernel

end QueryGuard.Sql
