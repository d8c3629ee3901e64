/-!
Sets of names, kept in ascending order of code points.

Every set has one written form, so the order in which names were found, and how often, never shows.
-/

namespace QueryGuard

/-- A set of names: a list in strictly ascending order. -/
structure NameSet where
  toList : List String
  ascending : toList.Pairwise (· < ·)
deriving DecidableEq

namespace NameSet

instance : Membership String NameSet where
  mem s a := a ∈ s.toList

instance (a : String) (s : NameSet) : Decidable (a ∈ s) :=
  inferInstanceAs (Decidable (a ∈ s.toList))

theorem mem_def {a : String} {s : NameSet} : a ∈ s ↔ a ∈ s.toList :=
  Iff.rfl

/-- The set without names. -/
def empty : NameSet where
  toList := []
  ascending := .nil

/-- Puts a name at its place in an ascending list that may hold it already. -/
def insertName (a : String) : List String → List String
  | [] => [a]
  | b :: bs => if a < b then a :: b :: bs else if a = b then b :: bs else b :: insertName a bs

theorem mem_insertName {a b : String} {bs : List String} :
    b ∈ insertName a bs ↔ b = a ∨ b ∈ bs := by
  induction bs with
  | nil => simp [insertName]
  | cons c cs ih =>
    simp only [insertName]
    split
    · simp
    · split
      · rename_i h
        subst h
        simp
      · simp only [List.mem_cons, ih]
        exact ⟨fun h => by rcases h with h | h | h <;> simp [h],
          fun h => by rcases h with h | h | h <;> simp [h]⟩

/-- Neither below nor equal is above. -/
theorem lt_of_not_lt_of_ne {a b : String} (h : ¬ a < b) (hne : a ≠ b) : b < a := by
  rcases String.le_total a b with hab | hba
  · exact absurd (String.le_antisymm hab (String.not_lt.mp h)) hne
  · exact String.not_le.mp fun hab => hne (String.le_antisymm hab hba)

theorem ascending_insertName {a : String} {bs : List String} (h : bs.Pairwise (· < ·)) :
    (insertName a bs).Pairwise (· < ·) := by
  induction bs with
  | nil => simp [insertName]
  | cons c cs ih =>
    obtain ⟨hc, hcs⟩ := List.pairwise_cons.mp h
    simp only [insertName]
    split
    · rename_i hac
      refine List.pairwise_cons.mpr ⟨fun x hx => ?_, h⟩
      rcases List.mem_cons.mp hx with rfl | hx
      · exact hac
      · exact String.lt_trans hac (hc x hx)
    · split
      · exact h
      · rename_i hac hne
        refine List.pairwise_cons.mpr ⟨fun x hx => ?_, ih hcs⟩
        rcases mem_insertName.mp hx with rfl | hx
        · exact lt_of_not_lt_of_ne hac hne
        · exact hc x hx

/-- A set with one more name. -/
def insert (s : NameSet) (a : String) : NameSet where
  toList := insertName a s.toList
  ascending := ascending_insertName s.ascending

/-- The set of the names of a list. -/
def ofList : List String → NameSet
  | [] => empty
  | a :: as => (ofList as).insert a

/-- The number of names. -/
def size (s : NameSet) : Nat :=
  s.toList.length

/-- Whether there are no names. -/
def isEmpty (s : NameSet) : Bool :=
  s.toList.isEmpty

/-- The names of one set that are not in another. -/
def diff (s t : NameSet) : NameSet where
  toList := s.toList.filter (· ∉ t)
  ascending := s.ascending.filter _

@[simp] theorem mem_empty {a : String} : a ∈ empty ↔ False := by
  simp [mem_def, empty]

@[simp] theorem mem_insert {a b : String} {s : NameSet} : b ∈ s.insert a ↔ b = a ∨ b ∈ s :=
  mem_insertName

@[simp] theorem mem_ofList {a : String} {as : List String} : a ∈ ofList as ↔ a ∈ as := by
  induction as with
  | nil => simp [ofList]
  | cons b bs ih => simp [ofList, ih]

@[simp] theorem mem_diff {a : String} {s t : NameSet} : a ∈ s.diff t ↔ a ∈ s ∧ a ∉ t := by
  simp [mem_def, diff]

theorem nodup_toList (s : NameSet) : s.toList.Nodup := by
  refine s.ascending.imp ?_
  rintro a b hLess rfl
  exact String.lt_irrefl a hLess

/-- Sets with the same names are the same. -/
theorem ext {s t : NameSet} (h : ∀ a, a ∈ s ↔ a ∈ t) : s = t := by
  have hPerm : s.toList.Perm t.toList :=
    (List.perm_ext_iff_of_nodup s.nodup_toList t.nodup_toList).mpr h
  have hList : s.toList = t.toList :=
    hPerm.eq_of_pairwise (fun _ _ _ _ hab hba => absurd hba (String.lt_asymm hab)) s.ascending
      t.ascending
  cases s
  cases t
  cases hList
  rfl

end NameSet

end QueryGuard
