import Mathlib.Data.List.DropRight
import QueryGuard.Proofs.Restriction

/-!
# Listable names — which tables an allow-list can hold

A table may have any name, for a name in quotes may hold any characters. An allow-list is a text
with commas between its names and blanks around them, so there are names that no list can hold: the
empty one, those with a comma, and those that begin or end with a blank. Those with a control
character are refused on purpose. All other names can be listed, alone and together.

A table whose name is not listable can be read only where there is no allow-list at all.

Main results:

* `validate_eq_ok` — the names that pass the check are the listable ones.
* `parse_join` — a list of listable names, written with commas, is read back.
* `admitted_by_list_iff` — a script is admitted by some list exactly if its tables are listable.
* `listable_exact` — **a table can be allowed exactly if its name is listable.**
-/

namespace QueryGuard

-- ---------------------------------------------------------------------------
-- Stretches and blanks
-- ---------------------------------------------------------------------------

namespace Text

theorem split_of_not_mem {separator : Char} {cs : List Char} (h : separator ∉ cs) :
    split separator cs = [cs] := by
  induction cs with
  | nil => rfl
  | cons c cs ih =>
    simp only [List.mem_cons, not_or] at h
    rw [split, if_neg (Ne.symm h.1), ih h.2]

/-- A stretch without the separator ends at the first one behind it. -/
theorem split_append_cons {separator : Char} {cs : List Char} (h : separator ∉ cs)
    (rest : List Char) :
    split separator (cs ++ separator :: rest) = cs :: split separator rest := by
  induction cs with
  | nil => rw [List.nil_append, split, if_pos rfl]
  | cons c cs ih =>
    simp only [List.mem_cons, not_or] at h
    rw [List.cons_append, split, if_neg (Ne.symm h.1), ih h.2]

/-- Stretches written with a separator between them are found again, provided there is at least
one. (Nothing at all is written like one empty stretch.) -/
theorem split_intercalate {separator : Char} {stretches : List (List Char)}
    (hStretches : ∀ cs ∈ stretches, separator ∉ cs) (hSome : stretches ≠ []) :
    split separator ([separator].intercalate stretches) = stretches := by
  induction stretches with
  | nil => exact absurd rfl hSome
  | cons cs rest ih =>
    obtain ⟨hcs, hRest⟩ := List.forall_mem_cons.mp hStretches
    cases rest with
    | nil => rw [List.intercalate_singleton, split_of_not_mem hcs]
    | cons next rest =>
      rw [List.intercalate_cons_cons, List.append_assoc, List.singleton_append,
        split_append_cons hcs, ih hRest (List.cons_ne_nil next rest)]

/-- Nothing is trimmed exactly if neither end is a blank. Trimming is done at one end after the
other, so it has to be shown that the second end is not one that the first trimming has made. -/
theorem trimChars_eq_self {cs : List Char} :
    trimChars cs = cs ↔
      (∀ c ∈ cs.head?, isBlank c = false) ∧ ∀ c ∈ cs.getLast?, isBlank c = false := by
  have hFirst : cs.dropWhile isBlank = cs ↔ ∀ c ∈ cs.head?, isBlank c = false := by
    cases cs with
    | nil => simp
    | cons c cs => simp [List.dropWhile_eq_self_iff]
  have hLast : cs.rdropWhile isBlank = cs ↔ ∀ c ∈ cs.getLast?, isBlank c = false := by
    rw [List.rdropWhile_eq_self_iff]
    cases cs with
    | nil => simp
    | cons c cs => simp [List.getLast?_eq_some_getLast]
  rw [← hFirst, ← hLast]
  constructor
  · intro h
    -- trimming is done at one end after the other, and neither adds what the other took
    have hPrefix : trimChars cs <+: cs.dropWhile isBlank := List.rdropWhile_prefix isBlank _
    have hDrop : cs.dropWhile isBlank = cs := by
      apply (List.dropWhile_suffix isBlank).eq_of_length_le
      calc cs.length = (trimChars cs).length := by rw [h]
        _ ≤ (cs.dropWhile isBlank).length := hPrefix.length_le
    refine ⟨hDrop, ?_⟩
    calc cs.rdropWhile isBlank = (cs.dropWhile isBlank).rdropWhile isBlank := by rw [hDrop]
      _ = cs := h
  · rintro ⟨hDrop, hRest⟩
    calc trimChars cs = (cs.dropWhile isBlank).rdropWhile isBlank := rfl
      _ = cs := by rw [hDrop, hRest]

/-- Trimming changes nothing exactly if no blank stands at an end. An empty text has no ends. -/
theorem trim_eq_self {s : String} :
    trim s = s ↔
      (∀ c ∈ s.toList.head?, isBlank c = false) ∧ ∀ c ∈ s.toList.getLast?, isBlank c = false := by
  rw [← trimChars_eq_self, trim, ← String.toList_inj, String.toList_ofList]

/-- What trimming leaves has nothing more to trim: neither end of it is a blank, unless nothing is
left. -/
theorem trimChars_trimChars (cs : List Char) : trimChars (trimChars cs) = trimChars cs := by
  have hLeft : ∀ l : List Char, ∀ c ∈ (l.dropWhile isBlank).head?, isBlank c = false := by
    intro l c hc
    have hNot := List.head?_dropWhile_not isBlank l
    rw [Option.mem_def.mp hc] at hNot
    simpa using hNot
  refine trimChars_eq_self.mpr ⟨?_, ?_⟩
  · intro c hc
    -- what is first in the end was first as soon as the blanks before it were gone
    obtain ⟨rest, hRest⟩ : trimChars cs <+: cs.dropWhile isBlank := List.rdropWhile_prefix isBlank _
    apply hLeft cs
    rw [← hRest, List.head?_append, Option.mem_def.mp hc, Option.some_or]
    rfl
  · intro c hc
    rw [trimChars, List.getLast?_reverse] at hc
    exact hLeft _ c hc

/-- Trimming once is enough. -/
theorem trim_trim (s : String) : trim (trim s) = trim s := by
  rw [trim, trim, String.toList_ofList, trimChars_trimChars]

end Text

-- ---------------------------------------------------------------------------
-- Listable names
-- ---------------------------------------------------------------------------

namespace TableName

/-- A name that an allow-list can hold. -/
structure Listable (name : String) : Prop where
  nonempty : name ≠ ""
  first : ∀ c ∈ name.toList.head?, Text.isBlank c = false
  last : ∀ c ∈ name.toList.getLast?, Text.isBlank c = false
  undivided : ',' ∉ name.toList
  printable : ∀ c ∈ name.toList, Text.isControl c = false

/-- What no name can hold is the comma and the control characters. -/
theorem find?_isForbidden_eq_none {cs : List Char} :
    cs.find? isForbidden = none ↔ ',' ∉ cs ∧ ∀ c ∈ cs, Text.isControl c = false := by
  simp only [List.find?_eq_none, isForbidden, Bool.or_eq_true, decide_eq_true_eq, not_or,
    Bool.not_eq_true]
  constructor
  · intro h
    exact ⟨fun hComma => (h _ hComma).2 rfl, fun c hc => (h c hc).1⟩
  · rintro ⟨hComma, hControl⟩ c hc
    refine ⟨hControl c hc, ?_⟩
    rintro rfl
    exact hComma hc

/-- **The check of a name**, which looks for faults one after the other, finds none exactly if a
list can hold the name. The order of the checks decides which fault is named and not whether there
is one. -/
theorem fault?_eq_none {name : String} : fault? name = none ↔ Listable name := by
  -- the conditions in the order in which the code looks for them
  have hSplit : Listable name ↔
      name ≠ "" ∧ Text.trim name = name ∧ name.toList.find? isForbidden = none := by
    rw [Text.trim_eq_self, find?_isForbidden_eq_none]
    exact ⟨fun h => ⟨h.nonempty, ⟨h.first, h.last⟩, h.undivided, h.printable⟩,
      fun ⟨hSome, ⟨hFirst, hLast⟩, hComma, hControl⟩ => ⟨hSome, hFirst, hLast, hComma, hControl⟩⟩
  rw [hSplit, fault?]
  by_cases hEmpty : name = ""
  · simp [hEmpty]
  · by_cases hTrim : Text.trim name = name
    · cases hFind : name.toList.find? isForbidden with
      | none => simp [hEmpty, hTrim]
      | some c => simp [hEmpty, hTrim]
    · simp [hEmpty, hTrim]

instance (name : String) : Decidable (Listable name) :=
  decidable_of_iff _ fault?_eq_none

/-- The names that pass the check are the listable ones. The check has no other result for a name
than this, and the failure for its fault. -/
theorem validate_eq_ok {name : String} : validate name = .ok () ↔ Listable name := by
  rw [← fault?_eq_none, validate]
  cases fault? name with
  | none => simp
  | some message => simp

end TableName

-- ---------------------------------------------------------------------------
-- Lists of them
-- ---------------------------------------------------------------------------

namespace TableList

open TableName

/-- An entry is accepted, as it stands, exactly if a list can hold it. -/
theorem entry_self {name : String} : entry name = .ok name ↔ Listable name := by
  rw [← fault?_eq_none, entry]
  cases fault? name with
  | none => simp
  | some message => simp

/-- Entries are accepted together exactly if each of them is. What is accepted is handed on as it
stands, so a list can only be accepted as itself. -/
theorem mapM_entry_self {names : List String} :
    names.mapM entry = .ok names ↔ ∀ name ∈ names, Listable name := by
  induction names with
  | nil => simp [pure, Except.pure]
  | cons name names ih =>
    rw [List.forall_mem_cons, ← ih, ← entry_self, List.mapM_cons]
    constructor
    · intro h
      cases hName : entry name with
      | error e =>
        rw [hName] at h
        cases h
      | ok first =>
        cases hNames : names.mapM entry with
        | error e =>
          rw [hName, hNames] at h
          cases h
        | ok rest => exact ⟨by rw [eq_of_entry hName], by rw [eq_of_mapM_entry hNames]⟩
    · rintro ⟨hName, hNames⟩
      rw [hName, hNames]
      rfl

/-- A list that is acceptable holds listable names only. -/
theorem listable_of_parse {text : String} {names : List String} (h : parse text = .ok names) :
    ∀ name ∈ names, Listable name := by
  rw [parse, ← eq_entries_of_parse h] at h
  exact mapM_entry_self.mp h

/-- The names of a list, written with commas between them. -/
def join (names : List String) : String :=
  ",".intercalate names

/-- Names that a list can hold are read back from the list they are written to: none holds a comma,
so they are divided where they were joined, and none has blanks at its ends to lose. -/
theorem entries_join {names : List String} (h : ∀ name ∈ names, Listable name) :
    entries (join names) = names := by
  cases names with
  | nil => decide
  | cons name names =>
    -- the three steps in which entries are found undo the joining, one after the other
    have hSplit : Text.split ',' (join (name :: names)).toList =
        (name :: names).map String.toList := by
      rw [join, String.toList_intercalate]
      apply Text.split_intercalate
      · intro cs hcs
        obtain ⟨n, hn, rfl⟩ := List.mem_map.mp hcs
        exact (h n hn).undivided
      · simp
    have hTrim : (name :: names).map Text.trim = name :: names := by
      have hTrimmed : ∀ n ∈ name :: names, Text.trim n = id n :=
        fun n hn => Text.trim_eq_self.mpr ⟨(h n hn).first, (h n hn).last⟩
      rw [List.map_congr_left hTrimmed, List.map_id]
    have hSome : ∀ n ∈ name :: names, (!n.isEmpty) = true := by
      intro n hn
      simpa using (h n hn).nonempty
    rw [entries, hSplit, List.map_map]
    exact (congrArg _ hTrim).trans (List.filter_eq_self.mpr hSome)

/-- Listable names, written with commas between them, are read back: no name is divided, as none
holds a comma, none is trimmed, and none is left out as empty. -/
theorem parse_join {names : List String} (h : ∀ name ∈ names, Listable name) :
    parse (join names) = .ok names := by
  rw [parse, entries_join h]
  exact mapM_entry_self.mpr h

end TableList

-- ---------------------------------------------------------------------------
-- Scripts under a list
-- ---------------------------------------------------------------------------

namespace Guard

open TableName

variable {read : ScriptReader} {sql dialect : String} {tables : NameSet}

/-- Under a list of names, the tables that are not among them are rejected, in the order of the set
they are taken from. If there are none, the tables are passed on. -/
theorem result_authorize_ofList (h : (extract read sql dialect).result = .ok tables)
    (names : List String) :
    (authorize read sql dialect (.ofList names)).result =
      match tables.toList.filter (· ∉ names) with
      | [] => .ok tables
      | others => .error (.disallowedTable others) := by
  -- the tables to be reported come in the order of the set they are taken from
  have hOthers : ((AllowList.ofList names).offenders tables).toList =
      tables.toList.filter (· ∉ names) := by
    simp [AllowList.offenders, AllowList.ofList, NameSet.diff]
  rw [result_authorize, h]
  simp only [Except.bind]
  rw [AllowList.result_check, hOthers]
  cases tables.toList.filter (· ∉ names) with
  | nil => rfl
  | cons t ts => rfl

/-- A table that is not in the list is among those that are rejected, whatever else the list and
the script hold. -/
theorem rejected_of_not_mem (h : (extract read sql dialect).result = .ok tables) {name : String}
    (hName : name ∈ tables) {names : List String} (hNames : name ∉ names) :
    ∃ others, (authorize read sql dialect (.ofList names)).result =
      .error (.disallowedTable others) ∧ name ∈ others := by
  have hMem : name ∈ tables.toList.filter (· ∉ names) :=
    List.mem_filter.mpr ⟨hName, decide_eq_true hNames⟩
  rw [result_authorize_ofList h]
  cases hOthers : tables.toList.filter (· ∉ names) with
  | nil =>
    rw [hOthers] at hMem
    cases hMem
  | cons t ts => exact ⟨t :: ts, rfl, hOthers ▸ hMem⟩

/-- **A script is admitted by some list exactly if all its tables are listable.** So a table whose
name is not keeps its script out, whatever the setting says; only a check without a list admits it.
-/
theorem admitted_by_list_iff (h : (extract read sql dialect).result = .ok tables) :
    (∃ value names, TableList.parse value = .ok names ∧
      (authorize read sql dialect (.ofList names)).result = .ok tables) ↔
        ∀ name ∈ tables, Listable name := by
  constructor
  · rintro ⟨value, names, hParse, hAuthorize⟩ name hName
    have hAllowed := (result_authorize_eq_ok.mp hAuthorize).2 name hName
    exact TableList.listable_of_parse hParse name (NameSet.mem_ofList.mp hAllowed)
  · intro hTables
    refine ⟨TableList.join tables.toList, tables.toList, TableList.parse_join hTables, ?_⟩
    exact result_authorize_eq_ok.mpr ⟨h, fun t ht => NameSet.mem_ofList.mpr ht⟩

/-- **A table can be allowed exactly if its name is listable.** Let a table be extracted from a
script. Its name passes the check of names exactly if it is listable. If it is, it is itself a list
with this name only, under which every script is accepted but for its other tables. If it is not,
no list holds the name, and under any list the script is rejected for the table. -/
theorem listable_exact {text dialect : String} {tables : NameSet}
    (hTables : (extract .sql text dialect).result = .ok tables) {name : String}
    (hName : name ∈ tables) :
    (validate name = .ok () ↔ Listable name) ∧
    (Listable name →
      TableList.parse name = .ok [name] ∧
        ∀ text' dialect' tables', (extract .sql text' dialect').result = .ok tables' →
          (authorize .sql text' dialect' (.ofList [name])).result =
            match tables'.toList.filter (· ≠ name) with
            | [] => .ok tables'
            | others => .error (.disallowedTable others)) ∧
    (¬ Listable name → ∀ value names, TableList.parse value = .ok names →
      name ∉ names ∧
        ∃ others, (authorize .sql text dialect (.ofList names)).result =
          .error (.disallowedTable others) ∧ name ∈ others) := by
  refine ⟨validate_eq_ok, ?_, ?_⟩
  · -- the name as a whole list, and as the only entry of a list
    intro hListable
    constructor
    · have hParse := TableList.parse_join (List.forall_mem_singleton.mpr hListable)
      rwa [TableList.join, String.intercalate_singleton] at hParse
    · intro text' dialect' tables' hTables'
      simpa only [List.mem_singleton] using result_authorize_ofList hTables' [name]
  · -- no list holds the name, so the text that gave it is rejected under every list
    intro hListable value names hParse
    have hNames : name ∉ names :=
      fun hMem => hListable (TableList.listable_of_parse hParse name hMem)
    exact ⟨hNames, rejected_of_not_mem hTables hName hNames⟩

/-- A table with a blank in its name, and one with a comma. -/
theorem listable_exact_quoted :
    (TableList.parse "a b" = .ok ["a b"] ∧
      (authorize .sql "SELECT * FROM \"a b\", u" "postgres" (.ofList ["a b"])).result =
        .error (.disallowedTable ["u"])) ∧
    ∀ value names, TableList.parse value = .ok names → "a,b" ∉ names ∧
      ∃ others, (authorize .sql "SELECT * FROM \"a,b\"" "postgres" (.ofList names)).result =
        .error (.disallowedTable others) ∧ "a,b" ∈ others := by
  have hBlank : (extract .sql "SELECT * FROM \"a b\", u" "postgres").result =
      .ok (.ofList ["a b", "u"]) := by decide +kernel
  have hComma : (extract .sql "SELECT * FROM \"a,b\"" "postgres").result =
      .ok (.ofList ["a,b"]) := by decide +kernel
  obtain ⟨-, hListed, -⟩ := listable_exact hBlank (NameSet.mem_ofList.mpr (List.mem_cons_self))
  obtain ⟨-, -, hUnlisted⟩ := listable_exact hComma (NameSet.mem_ofList.mpr (List.mem_cons_self))
  obtain ⟨hParse, hAuthorize⟩ := hListed (by decide +kernel)
  exact ⟨⟨hParse, hAuthorize _ _ _ hBlank⟩, hUnlisted (by decide +kernel)⟩

/-- Tables that are extracted and that no list can hold. -/
theorem extract_unlistable :
    (extract .sql "SELECT * FROM \"a,b\", \" a\", \"a\tb\", \"\"" "postgres").result =
        .ok (.ofList ["a,b", " a", "a\tb", ""]) ∧
      ∀ name ∈ ["a,b", " a", "a\tb", ""], validate name ≠ .ok () := by
  decide +kernel

end Guard

end QueryGuard
