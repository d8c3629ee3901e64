import QueryGuard.Proofs.Listable

/-!
# The grammar of table lists — what is accepted, and what is reported otherwise

A list is a text. Its entries are what stands between its commas, without the blanks around it,
wherever something is left. `Lists` says so without a scan: stretches that give the text when commas
are put between them, and the core of each stretch, with nothing but blanks around it and none at
its ends.

Being what they are, entries are not empty, have no blanks at their ends and hold no commas. So of
all that can be wrong with a name only one thing can be wrong with an entry, a control character
inside it. Control characters that are blanks are trimmed at the ends like all blanks, and are
forbidden in between.

Main results:

* `Text.stretches_iff` / `Text.core_iff` — splitting and trimming, by what they give.
* `lists_iff` — a text has the entries that are read, and no others.
* `fault?_of_mem_entries` — of the faults of a name, entries have only the last.
* `mapM_entry_eq_error` — a list fails at the first entry that fails.
* `parse_exact` — **what is accepted, and what is reported otherwise.**
-/

namespace QueryGuard

-- ---------------------------------------------------------------------------
-- Stretches and cores
-- ---------------------------------------------------------------------------

namespace Text

/-- Stretches without the separator that give a text when it is put between them. -/
structure Stretches (separator : Char) (cs : List Char) (stretches : List (List Char)) : Prop where
  inhabited : stretches ≠ []
  undivided : ∀ s ∈ stretches, separator ∉ s
  joined : [separator].intercalate stretches = cs

/-- A stretch holds no separator, since every one has divided the text. The induction follows the
division, which puts a character in front of the first stretch or begins a new one. -/
theorem not_mem_of_mem_split {separator : Char} {cs s : List Char} (h : s ∈ split separator cs) :
    separator ∉ s := by
  induction cs generalizing s with
  | nil =>
    rw [split, List.mem_singleton] at h
    simp [h]
  | cons c cs ih =>
    by_cases hc : c = separator
    · -- at a separator a new stretch begins, still empty
      rw [split, if_pos hc] at h
      rcases List.mem_cons.mp h with rfl | h
      · simp
      · exact ih h
    · -- any other character goes to the first stretch
      obtain ⟨first, rest, hSplit⟩ := List.exists_cons_of_ne_nil (split_ne_nil separator cs)
      rw [split, if_neg hc, hSplit] at h
      rw [hSplit] at ih
      rcases List.mem_cons.mp h with rfl | h
      · exact List.not_mem_cons_of_ne_of_not_mem (Ne.symm hc) (ih List.mem_cons_self)
      · exact ih (List.mem_cons_of_mem _ h)

/-- Dividing a text loses nothing but the separators, which can be put back. Empty stretches count:
they stand at either end of a text that begins or ends with a separator. -/
theorem intercalate_split (separator : Char) (cs : List Char) :
    [separator].intercalate (split separator cs) = cs := by
  induction cs with
  | nil => rfl
  | cons c cs ih =>
    obtain ⟨first, rest, hSplit⟩ := List.exists_cons_of_ne_nil (split_ne_nil separator cs)
    rw [hSplit] at ih
    by_cases hc : c = separator
    · rw [split, if_pos hc, hSplit, List.intercalate_cons_cons, ih, hc]
      rfl
    · rw [split, if_neg hc, hSplit]
      -- the first stretch grows at its front, whatever follows it
      cases rest with
      | nil => rw [← ih, List.intercalate_singleton, List.intercalate_singleton]
      | cons next rest =>
        rw [← ih, List.intercalate_cons_cons, List.intercalate_cons_cons, List.cons_append,
          List.cons_append]

/-- **Dividing is exact.** The stretches of a text are the only ones without separator that give it
back when they are joined; so what stands between the commas is said without saying how it is
found. -/
theorem stretches_iff {separator : Char} {cs : List Char} {stretches : List (List Char)} :
    Stretches separator cs stretches ↔ stretches = split separator cs := by
  constructor
  · intro h
    rw [← h.joined, split_intercalate h.undivided h.inhabited]
  · rintro rfl
    exact ⟨split_ne_nil separator cs, fun _ => not_mem_of_mem_split, intercalate_split separator cs⟩

/-- What is left of a text without the blanks at its ends. -/
structure Core (cs core : List Char) : Prop where
  within : ∃ before after, cs = before ++ core ++ after ∧
    (∀ c ∈ before, isBlank c = true) ∧ ∀ c ∈ after, isBlank c = true
  first : ∀ c ∈ core.head?, isBlank c = false
  last : ∀ c ∈ core.getLast?, isBlank c = false

/-- Blanks behind a text are trimmed away, whatever is before them. -/
theorem trimChars_append_of_blank {cs after : List Char} (h : ∀ c ∈ after, isBlank c = true) :
    trimChars (cs ++ after) = trimChars cs := by
  have hReverse : ∀ c ∈ after.reverse, isBlank c = true := fun c hc => h c (List.mem_reverse.mp hc)
  rw [trimChars, trimChars, List.dropWhile_append]
  split
  · rename_i hNone
    rw [List.isEmpty_iff.mp hNone, List.dropWhile_eq_nil_iff.mpr h]
  · rw [List.reverse_append, List.dropWhile_append_of_pos hReverse]

/-- What is trimmed away is blank, on both sides. -/
theorem exists_trimChars (cs : List Char) :
    ∃ before after, cs = before ++ trimChars cs ++ after ∧
      (∀ c ∈ before, isBlank c = true) ∧ ∀ c ∈ after, isBlank c = true := by
  refine ⟨cs.takeWhile isBlank,
    ((cs.dropWhile isBlank).reverse.takeWhile isBlank).reverse, ?_, ?_, ?_⟩
  · rw [trimChars, List.append_assoc, ← List.reverse_append, List.takeWhile_append_dropWhile,
      List.reverse_reverse, List.takeWhile_append_dropWhile]
  · exact fun c hc => List.mem_takeWhile_imp hc
  · exact fun c hc => List.mem_takeWhile_imp (List.mem_reverse.mp hc)

/-- **Trimming is exact.** What is left is the only part with nothing but blanks around it that has
no blank at its ends. Of a text of blanks only nothing is left. -/
theorem core_iff {cs core : List Char} : Core cs core ↔ core = trimChars cs := by
  constructor
  · rintro ⟨⟨before, after, rfl, hBefore, hAfter⟩, hFirst, hLast⟩
    calc core = trimChars core := (trimChars_eq_self.mpr ⟨hFirst, hLast⟩).symm
      _ = trimChars (before ++ core) := by
        rw [trimChars, trimChars, List.dropWhile_append_of_pos hBefore]
      _ = trimChars (before ++ core ++ after) := (trimChars_append_of_blank hAfter).symm
  · rintro rfl
    obtain ⟨hFirst, hLast⟩ := trimChars_eq_self.mp (trimChars_trimChars cs)
    exact ⟨exists_trimChars cs, hFirst, hLast⟩

theorem forall₂_core_iff {stretches cores : List (List Char)} :
    List.Forall₂ Core stretches cores ↔ cores = stretches.map trimChars := by
  constructor
  · intro h
    induction h with
    | nil => rfl
    | cons hCore _ ih => rw [core_iff.mp hCore, ih, List.map_cons]
  · rintro rfl
    induction stretches with
    | nil => exact List.Forall₂.nil
    | cons s stretches ih => exact List.Forall₂.cons (core_iff.mpr rfl) ih

end Text

-- ---------------------------------------------------------------------------
-- Entries
-- ---------------------------------------------------------------------------

namespace TableList

/-- The entries of a list: what stands between its commas, without the blanks around it, wherever
something is left. -/
def Lists (text : String) (names : List String) : Prop :=
  ∃ stretches cores, Text.Stretches ',' text.toList stretches ∧
    List.Forall₂ Text.Core stretches cores ∧
      names = (cores.filter (· ≠ [])).map String.ofList

/-- The entries as they are found: the text is divided, the stretches are trimmed, and the empty
ones are left out. -/
theorem entries_eq (text : String) :
    entries text =
      (((Text.split ',' text.toList).map Text.trimChars).filter (· ≠ [])).map String.ofList := by
  have hEmpty : ∀ cs : List Char, (!(String.ofList cs).isEmpty) = decide (cs ≠ []) := by
    intro cs
    rw [Bool.eq_iff_iff]
    simp
  rw [entries, List.filter_map, List.filter_map, List.map_map]
  exact congrArg _ (List.filter_congr fun cs _ => hEmpty (Text.trimChars cs))

/-- A text has the entries that are read, and no others. The entries are divided and trimmed as
said above, and those that are empty then are left out, in any number. -/
theorem lists_iff {text : String} {names : List String} :
    Lists text names ↔ names = entries text := by
  rw [entries_eq]
  constructor
  · rintro ⟨stretches, cores, hStretches, hCores, rfl⟩
    rw [Text.forall₂_core_iff.mp hCores, Text.stretches_iff.mp hStretches]
  · rintro rfl
    exact ⟨_, _, Text.stretches_iff.mpr rfl, Text.forall₂_core_iff.mpr rfl, rfl⟩

/-- An entry is not empty, is trimmed and holds no comma, for reasons of how it was come by: the
empty ones are left out, all are trimmed, and the comma has divided the text. -/
theorem sound_of_mem_entries {text name : String} (h : name ∈ entries text) :
    name ≠ "" ∧ Text.trim name = name ∧ ',' ∉ name.toList := by
  rw [entries_eq] at h
  obtain ⟨core, hCore, rfl⟩ := List.mem_map.mp h
  obtain ⟨hCore, hSome⟩ := List.mem_filter.mp hCore
  obtain ⟨s, hs, rfl⟩ := List.mem_map.mp hCore
  refine ⟨?_, ?_, ?_⟩
  · simpa using hSome
  · rw [Text.trim, String.toList_ofList, Text.trimChars_trimChars]
  · -- a comma in what is left would be one in the stretch
    obtain ⟨before, after, hWithin, -, -⟩ := Text.exists_trimChars s
    rw [String.toList_ofList]
    intro hComma
    apply Text.not_mem_of_mem_split hs
    rw [hWithin]
    exact List.mem_append_left after (List.mem_append_right before hComma)

end TableList

-- ---------------------------------------------------------------------------
-- Faults
-- ---------------------------------------------------------------------------

namespace TableName

/-- Every character of a name is printable, as far as control characters go. -/
def Printable (name : String) : Prop :=
  ∀ c ∈ name.toList, Text.isControl c = false

/-- The first control character of a name. -/
structure FirstControl (name : String) (c : Char) : Prop where
  control : Text.isControl c = true
  first : ∃ before after, name.toList = before ++ c :: after ∧
    ∀ b ∈ before, Text.isControl b = false

/-- What is said of a name with a character that no name can hold. -/
def refusal (name : String) (c : Char) : String :=
  "Invalid table identifier " ++ Text.quoted name ++ ": character " ++ Text.quotedChar c ++
    " not allowed"

/-- Looking for a control character finds the first. -/
theorem find?_isControl_eq_some {name : String} {c : Char} :
    name.toList.find? Text.isControl = some c ↔ FirstControl name c := by
  rw [List.find?_eq_some_iff_append]
  constructor
  · rintro ⟨hControl, before, after, hName, hBefore⟩
    exact ⟨hControl, before, after, hName, fun b hb => by simpa using hBefore b hb⟩
  · rintro ⟨hControl, before, after, hName, hBefore⟩
    exact ⟨hControl, before, after, hName, fun b hb => by simpa using hBefore b hb⟩

/-- It finds none exactly if the name is printable. -/
theorem find?_isControl_eq_none {name : String} :
    name.toList.find? Text.isControl = none ↔ Printable name := by
  simp [Printable]

/-- Between commas only a control character can be amiss. -/
theorem find?_isForbidden_of_undivided {cs : List Char} (h : ',' ∉ cs) :
    cs.find? isForbidden = cs.find? Text.isControl := by
  induction cs with
  | nil => rfl
  | cons c cs ih =>
    simp only [List.mem_cons, not_or] at h
    have hSame : isForbidden c = Text.isControl c := by simp [isForbidden, Ne.symm h.1]
    rw [List.find?_cons, List.find?_cons, hSame, ih h.2]

/-- Of the faults of a name, entries have only the last, and that for a control character. They are
not empty, are trimmed and hold no comma, as they come from a list; so the other messages are never
met. -/
theorem fault?_of_mem_entries {text name : String} (h : name ∈ TableList.entries text) :
    fault? name = (name.toList.find? Text.isControl).map (refusal name) := by
  obtain ⟨hSome, hTrim, hComma⟩ := TableList.sound_of_mem_entries h
  rw [fault?, if_neg (by simpa using hSome), if_neg (not_not_intro hTrim),
    find?_isForbidden_of_undivided hComma]
  cases name.toList.find? Text.isControl with
  | none => rfl
  | some c => rfl

/-- An entry has no comma, no blanks at its ends, and is not empty. So all that it may lack to be a
name is to be printable, and the other faults of names cannot be met here. -/
theorem listable_of_mem_entries {text name : String} (h : name ∈ TableList.entries text) :
    Listable name ↔ Printable name := by
  rw [← fault?_eq_none, fault?_of_mem_entries h, Option.map_eq_none_iff, find?_isControl_eq_none]

/-- An entry with a control character is refused for the first one. -/
theorem validate_of_firstControl {text name : String} (h : name ∈ TableList.entries text)
    {c : Char} (hc : FirstControl name c) :
    validate name = .error (.invalidConfig (refusal name c)) := by
  rw [validate, fault?_of_mem_entries h, find?_isControl_eq_some.mpr hc]
  rfl

end TableName

-- ---------------------------------------------------------------------------
-- Lists
-- ---------------------------------------------------------------------------

namespace TableList

open TableName

/-- And it is refused for nothing else, with the variable before the refusal. -/
theorem entry_eq_error {text name : String} (h : name ∈ entries text) {e : GuardError} :
    entry name = .error e ↔
      ∃ c, FirstControl name c ∧ e = .invalidConfig (variableName ++ ": " ++ refusal name c) := by
  rw [entry, fault?_of_mem_entries h]
  simp only [← find?_isControl_eq_some]
  cases name.toList.find? Text.isControl with
  | none => simp
  | some c => simp [eq_comm]

/-- The first entry that is refused stands for all: those before it are accepted, those behind it
are not looked at. -/
theorem mapM_entry_append {before after : List String} {name : String} {e : GuardError}
    (hBefore : ∀ n ∈ before, Listable n) (hName : entry name = .error e) :
    (before ++ name :: after).mapM entry = .error e := by
  rw [List.mapM_append, mapM_entry_self.mpr hBefore, List.mapM_cons, hName]
  rfl

/-- A list fails at the first entry that fails: those before it are listable, and what stands
behind it does not matter. -/
theorem mapM_entry_eq_error {names : List String} {e : GuardError} :
    names.mapM entry = .error e ↔
      ∃ before name after, names = before ++ name :: after ∧
        (∀ n ∈ before, Listable n) ∧ entry name = .error e := by
  constructor
  · intro h
    -- some entry cannot be held by a list, or all of them would have been accepted; take the first
    have hSome : (names.find? fun n => ¬ Listable n).isSome := by
      rw [Option.isSome_iff_ne_none]
      intro hNone
      have hAll : ∀ n ∈ names, Listable n := by simpa using hNone
      rw [mapM_entry_self.mpr hAll] at h
      cases h
    obtain ⟨name, hFirst⟩ := Option.isSome_iff_exists.mp hSome
    obtain ⟨hNot, before, after, rfl, hBefore⟩ := List.find?_eq_some_iff_append.mp hFirst
    have hBefore : ∀ n ∈ before, Listable n := fun n hn => by simpa using hBefore n hn
    refine ⟨before, name, after, rfl, hBefore, ?_⟩
    cases hName : entry name with
    | ok found =>
      have hListable : Listable name := entry_self.mp (by rw [hName, eq_of_entry hName])
      exact absurd hListable (by simpa using hNot)
    | error cause =>
      -- what it is refused for is what the whole is refused for
      have hSame : cause = e :=
        Except.error.inj ((mapM_entry_append hBefore hName).symm.trans h)
      rw [hSame]
  · rintro ⟨before, name, after, rfl, hBefore, hName⟩
    exact mapM_entry_append hBefore hName

/-- The first of some names with a control character, and the first control character in it. -/
def FirstFault (names : List String) (name : String) (c : Char) : Prop :=
  ∃ before after, names = before ++ name :: after ∧ (∀ n ∈ before, Printable n) ∧
    FirstControl name c

theorem FirstFault.mem {names : List String} {name : String} {c : Char}
    (h : FirstFault names name c) : name ∈ names := by
  obtain ⟨before, after, rfl, -, -⟩ := h
  exact List.mem_append_right before List.mem_cons_self

/-- **A list that is accepted** is that of its entries, in their order and with repetitions, and
they are printable. Nothing else is asked of a text. -/
theorem parse_eq_ok {text : String} {names : List String} :
    parse text = .ok names ↔ names = entries text ∧ ∀ name ∈ names, Printable name := by
  constructor
  · intro h
    have hNames := eq_entries_of_parse h
    refine ⟨hNames, fun name hName => ?_⟩
    exact (listable_of_mem_entries (hNames ▸ hName)).mp (listable_of_parse h name hName)
  · rintro ⟨rfl, hPrintable⟩
    exact mapM_entry_self.mpr fun name hName =>
      (listable_of_mem_entries hName).mpr (hPrintable name hName)

/-- **A list that is refused** is refused for its first fault, in these words: the name of the
variable, the entry between quotes, and the character that is not allowed. -/
theorem parse_eq_error {text : String} {e : GuardError} :
    parse text = .error e ↔
      ∃ name c, FirstFault (entries text) name c ∧
        e = .invalidConfig (variableName ++ ": " ++ refusal name c) := by
  rw [parse, mapM_entry_eq_error]
  constructor
  · -- the first entry that is refused is the first with a control character, since entries lack
    -- nothing else
    rintro ⟨before, name, after, hNames, hBefore, hName⟩
    have hMem : name ∈ entries text := hNames ▸ List.mem_append_right before List.mem_cons_self
    obtain ⟨c, hc, rfl⟩ := (entry_eq_error hMem).mp hName
    refine ⟨name, c, ⟨before, after, hNames, fun n hn => ?_, hc⟩, rfl⟩
    exact (listable_of_mem_entries (hNames ▸ List.mem_append_left _ hn)).mp (hBefore n hn)
  · rintro ⟨name, c, hFault, rfl⟩
    have hMem := hFault.mem
    obtain ⟨before, after, hNames, hBefore, hc⟩ := hFault
    refine ⟨before, name, after, hNames, fun n hn => ?_, (entry_eq_error hMem).mpr ⟨c, hc, rfl⟩⟩
    exact (listable_of_mem_entries (hNames ▸ List.mem_append_left _ hn)).mpr (hBefore n hn)

/-- **What is accepted, and what is reported otherwise.** A text lists its entries. It is accepted,
as just these, exactly if none of them has a control character. Otherwise it fails for the first
entry that has one and for the first such character in that entry, with what the check of names says
of it behind the name of the variable. The other faults of a name cannot occur: an entry is not
empty, has no blanks at its ends and holds no comma, so the check of names finds fault with it
exactly if it has a control character. -/
theorem parse_exact (text : String) :
    (∀ names, Lists text names ↔ names = entries text) ∧
    (∀ names, parse text = .ok names ↔
      Lists text names ∧ ∀ name ∈ names, ∀ c ∈ name.toList, Text.isControl c = false) ∧
    (∀ e, parse text = .error e ↔
      ∃ name c, FirstFault (entries text) name c ∧
        validate name = .error (.invalidConfig (refusal name c)) ∧
        e = .invalidConfig ("SQLGUARD_ALLOWED_TABLES: " ++ refusal name c)) ∧
    ∀ name ∈ entries text,
      name ≠ "" ∧ Text.trim name = name ∧ ',' ∉ name.toList ∧
        ∀ message, validate name = .error (.invalidConfig message) ↔
          ∃ c, FirstControl name c ∧ message = refusal name c := by
  refine ⟨fun _ => lists_iff, fun _ => ?_, fun e => ?_, ?_⟩
  · rw [lists_iff]
    exact parse_eq_ok
  · rw [parse_eq_error]
    constructor
    · rintro ⟨name, c, hFault, hError⟩
      have ⟨_, _, _, _, hc⟩ := hFault
      exact ⟨name, c, hFault, validate_of_firstControl hFault.mem hc, hError⟩
    · rintro ⟨name, c, hFault, -, hError⟩
      exact ⟨name, c, hFault, hError⟩
  · intro name hName
    obtain ⟨hSome, hTrim, hComma⟩ := sound_of_mem_entries hName
    refine ⟨hSome, hTrim, hComma, fun message => ?_⟩
    -- an entry has only one fault that it can have
    rw [validate, fault?_of_mem_entries hName]
    simp only [← find?_isControl_eq_some]
    cases name.toList.find? Text.isControl with
    | none => simp
    | some c => simp [eq_comm]

/-- Control characters that are trimmed, and the first of those that are not: a bell, before a line
feed in the same entry and a NUL in a later one. -/
theorem parse_exact_bell :
    entries "\ta b\n,\r\n, x\x07y\nz ,w\x00" = ["a b", "x\x07y\nz", "w\x00"] ∧
    parse "\ta b\n,\r\n, x\x07y\nz ,w\x00" = .error (.invalidConfig
      ("SQLGUARD_ALLOWED_TABLES: Invalid table identifier \"x\\u\x7b7\x7dy\\nz\": " ++
        "character '\\u\x7b7\x7d' not allowed")) ∧
    "x\x07y\nz" ≠ "" ∧ Text.trim "x\x07y\nz" = "x\x07y\nz" ∧ ',' ∉ "x\x07y\nz".toList := by
  have hEntries : entries "\ta b\n,\r\n, x\x07y\nz ,w\x00" = ["a b", "x\x07y\nz", "w\x00"] := by
    decide +kernel
  have hBell : FirstControl "x\x07y\nz" '\x07' :=
    find?_isControl_eq_some.mp (by decide +kernel)
  have hBefore : ∀ n ∈ ["a b"], Printable n :=
    List.forall_mem_singleton.mpr (find?_isControl_eq_none.mp (by decide +kernel))
  have hFault : FirstFault (entries "\ta b\n,\r\n, x\x07y\nz ,w\x00") "x\x07y\nz" '\x07' :=
    ⟨["a b"], ["w\x00"], hEntries, hBefore, hBell⟩
  obtain ⟨-, -, hError, hSound⟩ := parse_exact "\ta b\n,\r\n, x\x07y\nz ,w\x00"
  obtain ⟨hSome, hTrim, hComma, -⟩ := hSound "x\x07y\nz" (by simp [hEntries])
  exact ⟨hEntries, (hError _).mpr ⟨_, _, hFault, by decide +kernel, by decide +kernel⟩, hSome,
    hTrim, hComma⟩

end TableList

end QueryGuard
