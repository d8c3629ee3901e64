import QueryGuard.Proofs.Listable

/-!
# Settings — read back from the variables they are written to

An allow-list is written as its names with commas between them. It is read back as it was exactly if
each of its names passes the check of names: a name that does not would be split, trimmed, dropped
or refused on the way.

Settings are written to two variables. Whatever the environment, the settings it gives have a
dialect with a name and without outer blanks, and a list of listable names if they have one
(`Expressible`). Written to their variables, such settings are read back as they were. A list
without names is written as a variable with an empty text, and no list as a variable that is not
set, so the two are kept apart.

Main results:

* `parse_join_eq_ok` — which lists are read back.
* `exists_lookup_iff` — the settings that some environment gives are those that can be expressed.
* `settings_read_back` — **lists and settings, written and read again.**
-/

namespace QueryGuard

/-- Names joined to a list are read back as they are exactly if each of them is acceptable. A name
that is not would be divided, trimmed or refused. -/
theorem TableList.parse_join_eq_ok {names : List String} :
    TableList.parse (TableList.join names) = .ok names ↔
      ∀ name ∈ names, TableName.validate name = .ok () := by
  simp only [TableName.validate_eq_ok]
  constructor
  · exact listable_of_parse
  · exact parse_join

namespace Config

-- ---------------------------------------------------------------------------
-- Settings that can be expressed
-- ---------------------------------------------------------------------------

/-- Settings that variables can hold. -/
structure Expressible (config : Config) : Prop where
  named : config.dialect ≠ ""
  trimmed : Text.trim config.dialect = config.dialect
  listable : ∀ names, config.allowedTables = some names →
    ∀ name ∈ names, TableName.validate name = .ok ()

/-- The variables that settings are written to. -/
def toLookup (config : Config) (name : String) : Option String :=
  if name = dialectVariable then some config.dialect
  else if name = TableList.variableName then config.allowedTables.map TableList.join
  else none

@[simp] theorem toLookup_dialectVariable (config : Config) :
    config.toLookup dialectVariable = some config.dialect :=
  if_pos rfl

/-- The tables are joined to a list, and without any the variable stays unset. An empty list of
tables is a variable set to the empty text. -/
@[simp] theorem toLookup_variableName (config : Config) :
    config.toLookup TableList.variableName = config.allowedTables.map TableList.join := by
  rw [toLookup, if_neg (by decide), if_pos rfl]

/-- No value chooses the empty dialect: one of blanks alone counts as none, and without one there
is a default. -/
theorem chosenDialect_ne_empty (value : Option String) : chosenDialect value ≠ "" := by
  unfold chosenDialect
  split
  · decide
  · assumption

/-- A chosen dialect has no blanks at its ends, so choosing it once more changes nothing. -/
theorem trim_chosenDialect (value : Option String) :
    Text.trim (chosenDialect value) = chosenDialect value := by
  unfold chosenDialect
  split
  · decide
  · exact Text.trim_trim _

/-- An environment gives settings that can be expressed: the dialect has been trimmed, with a
default for none, and the tables come from a list that was accepted. -/
theorem expressible_of_ofLookup {lookup : String → Option String} {config : Config}
    (h : (ofLookup lookup).result = .ok config) : config.Expressible := by
  obtain ⟨hDialect, hTables⟩ := result_ofLookup_eq_ok.mp h
  refine ⟨?_, ?_, ?_⟩
  · rw [hDialect]
    exact chosenDialect_ne_empty _
  · rw [hDialect]
    exact trim_chosenDialect _
  · intro names hNames name hName
    -- tables come from a list that was accepted, so each of them is
    rcases result_readTables_eq_ok.mp hTables with ⟨-, hNone⟩ | ⟨text, found, -, hParse, hFound⟩
    · rw [hNone] at hNames
      cases hNames
    · have hSame : found = names := Option.some.inj (hFound.symm.trans hNames)
      subst hSame
      exact TableName.validate_eq_ok.mpr (TableList.listable_of_parse hParse name hName)

/-- Settings that can be expressed are read back from their variables. An empty list and no list
are told apart by whether the variable is set. -/
theorem ofLookup_toLookup {config : Config} (h : config.Expressible) :
    (ofLookup config.toLookup).result = .ok config := by
  refine result_ofLookup_eq_ok.mpr ⟨?_, ?_⟩
  · rw [toLookup_dialectVariable, chosenDialect, Option.getD_some, h.trimmed, if_neg h.named]
  · rw [toLookup_variableName, result_readTables_eq_ok]
    cases hTables : config.allowedTables with
    | none => exact Or.inl ⟨rfl, rfl⟩
    | some names =>
      have hParse := TableList.parse_join_eq_ok.mpr (h.listable names hTables)
      exact Or.inr ⟨TableList.join names, names, rfl, hParse, rfl⟩

/-- Exactly the settings that can be expressed are given by some environment: a dialect with a name
and without outer blanks, and no list or a list of acceptable names. The environment for them has
the joined names as the value of the variable. -/
theorem exists_lookup_iff {config : Config} :
    (∃ lookup, (ofLookup lookup).result = .ok config) ↔ config.Expressible := by
  constructor
  · rintro ⟨lookup, h⟩
    exact expressible_of_ofLookup h
  · intro h
    exact ⟨config.toLookup, ofLookup_toLookup h⟩

/-- **Lists and settings are read back.** A list, written with commas between its names, is read as
that list exactly if all its names pass the check of names. And settings that any environment gives
have a dialect with a name and no outer blanks, and names that pass the check in their list if they
have one; written to their variables, they are read as the same settings. -/
theorem settings_read_back :
    (∀ names : List String,
      TableList.parse (TableList.join names) = .ok names ↔
        ∀ name ∈ names, TableName.validate name = .ok ()) ∧
    ∀ (lookup : String → Option String) (config : Config),
      (ofLookup lookup).result = .ok config →
        config.dialect ≠ "" ∧
        Text.trim config.dialect = config.dialect ∧
        (∀ names, config.allowedTables = some names →
          ∀ name ∈ names, TableName.validate name = .ok ()) ∧
        (ofLookup config.toLookup).result = .ok config := by
  refine ⟨fun _ => TableList.parse_join_eq_ok, ?_⟩
  intro lookup config hConfig
  have hExpressible := expressible_of_ofLookup hConfig
  exact ⟨hExpressible.named, hExpressible.trimmed, hExpressible.listable,
    ofLookup_toLookup hExpressible⟩

/-- A list with blanks inside and around its names, and one of blanks and commas alone, which holds
no name and is yet a list. -/
theorem settings_read_back_padded :
    ((ofLookup fun name =>
        if name = dialectVariable then some "\tmysql " else some " a b ,,c\n").result =
        .ok ⟨"mysql", some ["a b", "c"]⟩ ∧
      (ofLookup (toLookup ⟨"mysql", some ["a b", "c"]⟩)).result =
        .ok ⟨"mysql", some ["a b", "c"]⟩) ∧
    (ofLookup fun name => if name = TableList.variableName then some " , " else none).result =
      .ok ⟨"postgres", some []⟩ ∧
    toLookup ⟨"postgres", some []⟩ TableList.variableName = some "" ∧
    (ofLookup (toLookup ⟨"postgres", some []⟩)).result = .ok ⟨"postgres", some []⟩ := by
  have hPadded : (ofLookup fun name =>
      if name = dialectVariable then some "\tmysql " else some " a b ,,c\n").result =
      .ok ⟨"mysql", some ["a b", "c"]⟩ := by decide +kernel
  have hNameless :
      (ofLookup fun name => if name = TableList.variableName then some " , " else none).result =
      .ok ⟨"postgres", some []⟩ := by decide +kernel
  obtain ⟨-, -, -, hAgain⟩ := settings_read_back.2 _ _ hPadded
  obtain ⟨-, -, -, hStillNameless⟩ := settings_read_back.2 _ _ hNameless
  exact ⟨⟨hPadded, hAgain⟩, hNameless, by decide, hStillNameless⟩

end Config

end QueryGuard
