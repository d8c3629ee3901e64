import QueryGuard.Proofs.ByteOrder
import QueryGuard.Proofs.EntryPoints

/-!
# Authorization — exact verdicts and canonical lists

A check against an allow-list and a report both end in a list of names. Which names these are
depends on the tables and on the allow-list as sets. In which order they are listed depends on
nothing else: they stand in ascending order of their bytes, each once, so there is one list for a
set (`Listing.unique`).

Whoever goes through a set meets its names in some order. The names that are not allowed are
gathered in an ordered set, and the names of a report are sorted. Both are said here for any order
of meeting the names (`checkAlong`, `Report.along`), and both give the one list of the set.

Main results:

* `NameSet.listing` — the names of a set as listed.
* `NameSet.toList_eq_mergeSort` — an ordered set lists what a sort lists.
* `result_check_along` / `Report.ofTables_eq_along` — verdict and report, in whatever order the
  names are met.
* `authorization_canonical` — **verdicts and lists, exact and canonical.**
-/

namespace QueryGuard

-- ---------------------------------------------------------------------------
-- Lists of names
-- ---------------------------------------------------------------------------

/-- A list of the names with a property: each once, in ascending order of their bytes. -/
structure Listing (p : String → Prop) (names : List String) : Prop where
  mem_iff : ∀ name, name ∈ names ↔ p name
  once : names.Nodup
  ascending : names.Pairwise fun a b => Text.bytes a < Text.bytes b

/-- A way to meet the names of a set: each once, in whatever order. -/
structure Enumerates (met : List String) (s : NameSet) : Prop where
  mem_iff : ∀ name, name ∈ met ↔ name ∈ s
  once : met.Nodup

/-- A set lists its own names, each once. Its order is that of the bytes, which is the order names
are compared in. -/
theorem NameSet.listing (s : NameSet) : Listing (· ∈ s) s.toList where
  mem_iff _ := Iff.rfl
  once := s.nodup_toList
  ascending := s.ascending.imp Text.bytes_lt_iff.mpr

/-- There is one list of the names with a property. Both are sorted and without repetition, so each
lists a set, and sets with the same names are equal. -/
theorem Listing.unique {p : String → Prop} {names others : List String} (h : Listing p names)
    (hOthers : Listing p others) : names = others := by
  let s : NameSet := ⟨names, h.ascending.imp Text.bytes_lt_iff.mp⟩
  let t : NameSet := ⟨others, hOthers.ascending.imp Text.bytes_lt_iff.mp⟩
  have hSame : s = t := by
    apply NameSet.ext
    intro name
    exact (h.mem_iff name).trans (hOthers.mem_iff name).symm
  exact congrArg NameSet.toList hSame

/-- Names in any order and number make the set with the same names, since a set is known by its
listing. -/
theorem NameSet.ofList_eq_of_mem_iff {names : List String} {s : NameSet}
    (h : ∀ name, name ∈ names ↔ name ∈ s) : NameSet.ofList names = s := by
  apply NameSet.ext
  intro name
  rw [NameSet.mem_ofList, h]

/-- Sorting the names of a set, in whatever order they are met, lists them as the set does. So no
list in a report or a failure depends on how a set is enumerated. -/
theorem NameSet.toList_eq_mergeSort {met : List String} {s : NameSet} (h : Enumerates met s) :
    s.toList = met.mergeSort fun a b => decide (a ≤ b) := by
  -- two sorted lists of the same names are one, so it is enough that both are sorted and hold them
  have hPerm : s.toList.Perm (met.mergeSort fun a b => decide (a ≤ b)) := by
    have hMet : s.toList.Perm met :=
      (List.perm_ext_iff_of_nodup s.nodup_toList h.once).mpr fun name => (h.mem_iff name).symm
    exact hMet.trans (List.mergeSort_perm met _).symm
  -- the order of a set is strict, the sort is by the order with equality
  have hSet : s.toList.Pairwise (· ≤ ·) :=
    s.ascending.imp fun hLess => String.not_lt.mp (String.lt_asymm hLess)
  have hSorted : (met.mergeSort fun a b => decide (a ≤ b)).Pairwise fun a b =>
      decide (a ≤ b) = true := by
    apply List.pairwise_mergeSort
    · intro a b c hab hbc
      exact decide_eq_true (String.le_trans (of_decide_eq_true hab) (of_decide_eq_true hbc))
    · intro a b
      simpa using String.le_total a b
  exact hPerm.eq_of_pairwise (fun _ _ _ _ hab hba => String.le_antisymm hab hba) hSet
    (hSorted.imp of_decide_eq_true)

-- ---------------------------------------------------------------------------
-- Verdict and report, in whatever order the names are met
-- ---------------------------------------------------------------------------

namespace AllowList

/-- The verdict on tables that are met in an order, under names that are listed in some order and
any number of times. The tables that are not listed are gathered in an ordered set. -/
def checkAlong (listed met : List String) : Except GuardError Unit :=
  let others := (NameSet.ofList (met.filter (· ∉ listed))).toList
  if others.isEmpty then .ok () else .error (.disallowedTable others)

/-- **A check does not depend on how it goes about.** Whatever order and number the listed names
come in, and whatever order the tables are met in, the verdict is that of the check on sets. -/
theorem result_check_along {a : AllowList} {tables : NameSet} {listed met : List String}
    (hListed : ∀ name, name ∈ listed ↔ name ∈ a.tables) (hMet : Enumerates met tables) :
    (a.check tables).result = checkAlong listed met := by
  have hOthers : a.offenders tables = NameSet.ofList (met.filter (· ∉ listed)) := by
    apply NameSet.ext
    intro name
    simp [offenders, hMet.mem_iff, hListed]
  rw [result_check, hOthers, checkAlong]

/-- The tables to be reported are those that are named and not listed. -/
theorem mem_offenders {a : AllowList} {tables : NameSet} {name : String} :
    name ∈ a.offenders tables ↔ name ∈ tables ∧ name ∉ a.tables :=
  NameSet.mem_diff

/-- A check fails exactly if a table is not listed, and then it reports all that are not. -/
theorem result_check_eq_error {a : AllowList} {tables : NameSet} {e : GuardError} :
    (a.check tables).result = .error e ↔
      (¬ ∀ t ∈ tables, t ∈ a.tables) ∧ e = .disallowedTable (a.offenders tables).toList := by
  rw [result_check, ← isEmpty_offenders]
  split
  · rename_i hEmpty
    simp [hEmpty]
  · rename_i hSome
    simp [hSome, eq_comm]

/-- The tables that are not allowed, as listed. -/
theorem listing_offenders (a : AllowList) (tables : NameSet) :
    Listing (fun t => t ∈ tables ∧ t ∉ a.tables) (a.offenders tables).toList where
  mem_iff _ := mem_offenders
  once := (a.offenders tables).nodup_toList
  ascending := (a.offenders tables).listing.ascending

/-- A longer list reports no table that a shorter one does not. -/
theorem mem_offenders_of_larger {a larger : AllowList} (h : ∀ t ∈ a.tables, t ∈ larger.tables)
    {tables : NameSet} {name : String} (hName : name ∈ larger.offenders tables) :
    name ∈ a.offenders tables := by
  obtain ⟨hTable, hForbidden⟩ := mem_offenders.mp hName
  exact mem_offenders.mpr ⟨hTable, fun hAllowed => hForbidden (h name hAllowed)⟩

end AllowList

/-- The report on tables that are met in an order sorts them. -/
def Report.along (dialect : String) (met : List String) : Report where
  dialect := dialect
  tables := met.mergeSort fun a b => decide (a ≤ b)

/-- A report is the same whatever order the tables are met in. So a report does not tell how the
set of tables was gone through. -/
theorem Report.ofTables_eq_along {met : List String} {tables : NameSet}
    (hMet : Enumerates met tables) (dialect : String) :
    Report.ofTables dialect tables = Report.along dialect met := by
  rw [Report.ofTables, Report.along, NameSet.toList_eq_mergeSort hMet]

-- ---------------------------------------------------------------------------
-- Verdicts and lists
-- ---------------------------------------------------------------------------

namespace AllowList

/-- **Verdicts and lists are exact and canonical.** The order of bytes is that of code points. A
check accepts some tables exactly if all of them are allowed; otherwise it fails with the list of
those that are not, and a report lists all of them. Neither depends on the order in which the tables
are met, or on the order in which the allowed names are listed and how often. A larger allow-list
accepts what a smaller one accepts, and fails with no table with which the smaller one does not. -/
theorem authorization_canonical :
    (∀ s t : String, Text.bytes s < Text.bytes t ↔ Text.codePoints s < Text.codePoints t) ∧
    ∀ (a : AllowList) (tables : NameSet),
      ((a.check tables).result = .ok () ↔ ∀ t ∈ tables, t ∈ a.tables) ∧
      (∀ e, (a.check tables).result = .error e ↔
        (¬ ∀ t ∈ tables, t ∈ a.tables) ∧
          ∃ names, Listing (fun t => t ∈ tables ∧ t ∉ a.tables) names ∧
            e = .disallowedTable names) ∧
      (∀ dialect, (Report.ofTables dialect tables).dialect = dialect ∧
        Listing (· ∈ tables) (Report.ofTables dialect tables).tables) ∧
      (∀ listed met, (∀ name, name ∈ listed ↔ name ∈ a.tables) → Enumerates met tables →
        AllowList.ofList listed = a ∧ (a.check tables).result = checkAlong listed met ∧
          ∀ dialect, Report.ofTables dialect tables = Report.along dialect met) ∧
      ∀ larger : AllowList, (∀ t ∈ a.tables, t ∈ larger.tables) →
        ((a.check tables).result = .ok () → (larger.check tables).result = .ok ()) ∧
        ∀ names, (larger.check tables).result = .error (.disallowedTable names) →
          ∃ all, (a.check tables).result = .error (.disallowedTable all) ∧
            ∀ name ∈ names, name ∈ all := by
  refine ⟨fun s t => Text.bytes_lt_iff.trans Text.codePoints_lt_iff.symm, ?_⟩
  intro a tables
  refine ⟨result_check_eq_ok, ?_, fun dialect => ⟨rfl, tables.listing⟩, ?_, ?_⟩
  · -- the list that is reported is the only listing of the tables that are not allowed
    intro e
    rw [result_check_eq_error]
    constructor
    · rintro ⟨hNot, rfl⟩
      exact ⟨hNot, _, listing_offenders a tables, rfl⟩
    · rintro ⟨hNot, names, hNames, rfl⟩
      rw [hNames.unique (listing_offenders a tables)]
      exact ⟨hNot, rfl⟩
  · -- a set is known by its names, so the order they were met in is lost
    intro listed met hListed hMet
    have hSame : NameSet.ofList listed = a.tables := NameSet.ofList_eq_of_mem_iff hListed
    exact ⟨congrArg AllowList.mk hSame, result_check_along hListed hMet,
      Report.ofTables_eq_along hMet⟩
  · intro larger hLarger
    constructor
    · intro hOk
      exact result_check_eq_ok.mpr fun t ht => hLarger t (result_check_eq_ok.mp hOk t ht)
    · intro names hError
      obtain ⟨hNot, hNames⟩ := result_check_eq_error.mp hError
      injection hNames with hNames
      subst hNames
      refine ⟨(a.offenders tables).toList, result_check_eq_error.mpr ⟨?_, rfl⟩, ?_⟩
      · exact fun hAll => hNot fun t ht => hLarger t (hAll t ht)
      · exact fun name hName => mem_offenders_of_larger hLarger hName

/-- Names met in no order, among them one beyond the basic plane; two of them are allowed, one of
these listed twice. With a third one allowed, one of the two that were rejected remains. -/
theorem authorization_canonical_mixed :
    Enumerates ["😀", "b", "ａ", "c"] (.ofList ["b", "c", "ａ", "😀"]) ∧
    ((AllowList.ofList ["c", "b", "c"]).check (.ofList ["b", "c", "ａ", "😀"])).result =
      checkAlong ["c", "b", "c"] ["😀", "b", "ａ", "c"] ∧
    checkAlong ["c", "b", "c"] ["😀", "b", "ａ", "c"] = .error (.disallowedTable ["ａ", "😀"]) ∧
    ((AllowList.ofList ["ａ", "b", "c"]).check (.ofList ["b", "c", "ａ", "😀"])).result =
      .error (.disallowedTable ["😀"]) ∧
    ∃ all, ((AllowList.ofList ["c", "b", "c"]).check (.ofList ["b", "c", "ａ", "😀"])).result =
      .error (.disallowedTable all) ∧ ∀ name ∈ ["😀"], name ∈ all := by
  have hMet : Enumerates ["😀", "b", "ａ", "c"] (.ofList ["b", "c", "ａ", "😀"]) := by
    refine ⟨?_, by decide⟩
    intro name
    simp only [NameSet.mem_ofList, List.mem_cons, List.not_mem_nil, or_false]
    grind
  have hLarger : ∀ t ∈ (AllowList.ofList ["c", "b", "c"]).tables,
      t ∈ (AllowList.ofList ["ａ", "b", "c"]).tables := by
    intro t ht
    simp only [AllowList.ofList, NameSet.mem_ofList, List.mem_cons, List.not_mem_nil,
      or_false] at ht ⊢
    grind
  have hFewer : ((AllowList.ofList ["ａ", "b", "c"]).check (.ofList ["b", "c", "ａ", "😀"])).result =
      .error (.disallowedTable ["😀"]) := by decide +kernel
  obtain ⟨-, -, -, hAlong, hMonotone⟩ := authorization_canonical.2 (.ofList ["c", "b", "c"])
    (.ofList ["b", "c", "ａ", "😀"])
  have hCheck := (hAlong ["c", "b", "c"] _ (fun _ => NameSet.mem_ofList.symm) hMet).2.1
  exact ⟨hMet, hCheck, by decide +kernel, hFewer, (hMonotone _ hLarger).2 _ hFewer⟩

end AllowList

end QueryGuard
