import QueryGuard.NameSet

/-!
# Byte order — one order of names, by code points and by bytes

Names are compared as texts, that is by their code points. What is written is bytes, and a sort of
the written names compares these. The two orders are one, because of how UTF-8 is made. A code point
is written as a leading byte and up to three bytes that continue it, six bits each, highest first.
Of two code points that take the same number of bytes, the lower one has the smaller byte at the
first place where they differ; of two that do not, the one that takes fewer bytes is the lower one
and has the smaller leading byte. So what is written for one code point is never the beginning of
what is written for another, and comparing the bytes of two texts decides at the first code point
where the texts differ.

Main results:

* `lessWithin_utf8EncodeChar` — two code points, by their bytes.
* `codePoints_lt_iff` / `bytes_lt_iff` — **the order of texts is that of their code points and that
  of their bytes.**
-/

namespace QueryGuard.Text

-- ---------------------------------------------------------------------------
-- Sequences of bytes that differ within both
-- ---------------------------------------------------------------------------

/-- The first of two sequences has the smaller byte at a place that both have, and before it they
agree. Unlike a beginning of the other, it stays less whatever comes behind either. -/
inductive LessWithin : List UInt8 → List UInt8 → Prop where
  | here {x y : UInt8} (h : x < y) (xs ys : List UInt8) : LessWithin (x :: xs) (y :: ys)
  | later (x : UInt8) {xs ys : List UInt8} (h : LessWithin xs ys) : LessWithin (x :: xs) (x :: ys)

namespace LessWithin

theorem lt {xs ys : List UInt8} (h : LessWithin xs ys) : xs < ys := by
  induction h with
  | here h xs ys => exact List.cons_lt_cons_iff.mpr (Or.inl h)
  | later x _ ih => exact List.cons_lt_cons_iff.mpr (Or.inr ⟨rfl, ih⟩)

theorem append {xs ys : List UInt8} (h : LessWithin xs ys) (us vs : List UInt8) :
    LessWithin (xs ++ us) (ys ++ vs) := by
  induction h with
  | here h xs ys => exact .here h (xs ++ us) (ys ++ vs)
  | later x _ ih => exact .later x ih

theorem prepend {xs ys : List UInt8} (h : LessWithin xs ys) (common : List UInt8) :
    LessWithin (common ++ xs) (common ++ ys) := by
  induction common with
  | nil => exact h
  | cons x common ih => exact .later x ih

end LessWithin

-- ---------------------------------------------------------------------------
-- Code points
-- ---------------------------------------------------------------------------

/-- How many bytes continue the leading byte of a code point. -/
def extra (v : Nat) : Nat :=
  if v ≤ 0x7f then 0 else if v ≤ 0x7ff then 1 else if v ≤ 0xffff then 2 else 3

/-- What a leading byte carries for the number of bytes that continue it. -/
def mark : Nat → Nat
  | 0 => 0
  | 1 => 0xc0
  | 2 => 0xe0
  | _ => 0xf0

/-- The part of a code point that is left for the leading byte. -/
def lead : Nat → Nat → Nat
  | 0, v => v
  | k + 1, v => lead k (v / 64)

/-- A code point with a mark in the leading byte and some bytes that continue it. -/
def packed (mark : Nat) : Nat → Nat → List UInt8
  | 0, v => [UInt8.ofNat (mark + v)]
  | k + 1, v => packed mark k (v / 64) ++ [UInt8.ofNat (v % 64 + 0x80)]

theorem ofNat_lt_ofNat {a b : Nat} (h : a < b) (hb : b < 256) : UInt8.ofNat a < UInt8.ofNat b := by
  have ha : a < 256 := by omega
  rw [UInt8.lt_iff_toNat_lt, UInt8.toNat_ofNat_of_lt' ha, UInt8.toNat_ofNat_of_lt' hb]
  exact h

/-- The leading byte of a code point holds its mark and what the other bytes leave of it. -/
theorem exists_packed_eq_cons (mark k v : Nat) :
    ∃ rest, packed mark k v = UInt8.ofNat (mark + lead k v) :: rest := by
  induction k generalizing v with
  | zero => exact ⟨[], rfl⟩
  | succ k ih =>
    obtain ⟨rest, hRest⟩ := ih (v / 64)
    exact ⟨_, by rw [packed, hRest, List.cons_append, lead]⟩

/-- Of two code points with as many bytes, the lower one is less within the bytes. The induction is
on the bytes that continue the first: either the higher bits decide, or they agree and the last six
bits do. -/
theorem lessWithin_packed {mark k v w : Nat} (h : v < w) (hFits : mark + lead k w < 256) :
    LessWithin (packed mark k v) (packed mark k w) := by
  induction k generalizing v w with
  | zero => exact .here (ofNat_lt_ofNat (Nat.add_lt_add_left h mark) hFits) [] []
  | succ k ih =>
    rw [packed, packed]
    by_cases hHigh : v / 64 < w / 64
    · exact (ih hHigh hFits).append _ _
    · -- all but the last six bits agree, so these decide
      have hSame : v / 64 = w / 64 := by omega
      rw [hSame]
      exact (LessWithin.here (ofNat_lt_ofNat (by omega) (by omega)) [] []).prepend _

/-- The four lengths of a code point, by its size. The bounds stand in the form in which arithmetic
over them is decided. -/
theorem extra_cases (v : Nat) :
    v ≤ 0x7f ∧ extra v = 0 ∨ (0x7f < v ∧ v ≤ 0x7ff) ∧ extra v = 1 ∨
      (0x7ff < v ∧ v ≤ 0xffff) ∧ extra v = 2 ∨ 0xffff < v ∧ extra v = 3 := by
  unfold extra
  split
  · exact Or.inl ⟨by omega, rfl⟩
  · split
    · exact Or.inr (Or.inl ⟨by omega, rfl⟩)
    · split
      · exact Or.inr (Or.inr (Or.inl ⟨by omega, rfl⟩))
      · exact Or.inr (Or.inr (Or.inr ⟨by omega, rfl⟩))

/-- A larger code point takes at least as many bytes. -/
theorem extra_le_extra {v w : Nat} (h : v < w) : extra v ≤ extra w := by
  have hv := extra_cases v
  have hw := extra_cases w
  omega

/-- The leading byte of a code point, as a number. -/
def leadByte (v : Nat) : Nat :=
  mark (extra v) + lead (extra v) v

/-- Leading bytes that carry different marks are apart: their ranges follow each other as the
lengths do. So of two characters with different lengths the leading bytes decide. -/
theorem leadByte_cases {v : Nat} (hv : v ≤ 0x10ffff) :
    extra v = 0 ∧ leadByte v < 0x80 ∨ extra v = 1 ∧ 0xc0 ≤ leadByte v ∧ leadByte v < 0xe0 ∨
      extra v = 2 ∧ 0xe0 ≤ leadByte v ∧ leadByte v < 0xf0 ∨
      extra v = 3 ∧ 0xf0 ≤ leadByte v ∧ leadByte v < 0xf8 := by
  rcases extra_cases v with
    ⟨hRange, hExtra⟩ | ⟨hRange, hExtra⟩ | ⟨hRange, hExtra⟩ | ⟨hRange, hExtra⟩
  · have hLead : leadByte v = v := by simp [leadByte, hExtra, mark, lead]
    omega
  · have hLead : leadByte v = 0xc0 + v / 64 := by simp [leadByte, hExtra, mark, lead]
    omega
  · have hLead : leadByte v = 0xe0 + v / 64 / 64 := by simp only [leadByte, hExtra, mark, lead]
    omega
  · have hLead : leadByte v = 0xf0 + v / 64 / 64 / 64 := by simp only [leadByte, hExtra, mark, lead]
    omega

/-- A character is no larger than the last code point, which takes four bytes. -/
theorem toNat_le_max (c : Char) : c.toNat ≤ 0x10ffff := by
  have hValid : c.toNat.isValidChar := c.valid
  unfold Nat.isValidChar at hValid
  omega

/-- The bytes that a character is written as are its code point packed for its length. The standard
encoding has one branch for each length, the packing is one recursion. -/
theorem utf8EncodeChar_eq_packed (c : Char) :
    String.utf8EncodeChar c = packed (mark (extra c.toNat)) (extra c.toNat) c.toNat := by
  have hMax := toNat_le_max c
  have hVal : c.val.toNat = c.toNat := rfl
  unfold String.utf8EncodeChar
  rw [hVal]
  generalize c.toNat = v at hMax
  -- one case for each length; the library's bytes are sums the other way round and split in one
  -- step
  rcases extra_cases v with
    ⟨hRange, hExtra⟩ | ⟨hRange, hExtra⟩ | ⟨hRange, hExtra⟩ | ⟨hRange, hExtra⟩
  · rw [hExtra, if_pos (by omega)]
    simp [packed, mark]
  · rw [hExtra, if_neg (by omega), if_pos (by omega)]
    have hLead : v / 64 % 0x20 + 0xc0 = 0xc0 + v / 64 := by omega
    rw [hLead]
    rfl
  · rw [hExtra, if_neg (by omega), if_neg (by omega), if_pos (by omega)]
    have hLead : v / 4096 % 0x10 + 0xe0 = 0xe0 + v / 64 / 64 := by omega
    rw [hLead]
    rfl
  · rw [hExtra, if_neg (by omega), if_neg (by omega), if_neg (by omega)]
    have hLead : v / 262144 % 0x08 + 0xf0 = 0xf0 + v / 64 / 64 / 64 := by omega
    have hNext : v / 4096 % 0x40 + 0x80 = v / 64 / 64 % 64 + 0x80 := by omega
    rw [hLead, hNext]
    rfl

/-- Of two characters, the one with the lower code point is less within the bytes: the encodings
differ at some byte before either is over. This is more than being less, and it is what lets texts
be compared character by character. -/
theorem lessWithin_utf8EncodeChar {c d : Char} (h : c < d) :
    LessWithin (String.utf8EncodeChar c) (String.utf8EncodeChar d) := by
  have hLess : c.toNat < d.toNat := UInt32.lt_iff_toNat_lt.mp (Char.lt_def.mp h)
  have hFirst := leadByte_cases (toNat_le_max c)
  have hSecond := leadByte_cases (toNat_le_max d)
  rw [utf8EncodeChar_eq_packed, utf8EncodeChar_eq_packed]
  by_cases hSame : extra c.toNat = extra d.toNat
  · have hFits : leadByte d.toNat < 256 := by omega
    rw [hSame]
    exact lessWithin_packed hLess hFits
  · -- the one with more bytes has the greater mark, so the leading bytes decide
    have hFewer := extra_le_extra hLess
    have hLead : leadByte c.toNat < leadByte d.toNat := by omega
    obtain ⟨xs, hxs⟩ := exists_packed_eq_cons (mark (extra c.toNat)) (extra c.toNat) c.toNat
    obtain ⟨ys, hys⟩ := exists_packed_eq_cons (mark (extra d.toNat)) (extra d.toNat) d.toNat
    rw [hxs, hys]
    exact .here (ofNat_lt_ofNat hLead (by omega)) xs ys

-- ---------------------------------------------------------------------------
-- Texts
-- ---------------------------------------------------------------------------

/-- The code points of a text. -/
def codePoints (s : String) : List Nat :=
  s.toList.map (·.toNat)

/-- The bytes of a text in UTF-8. -/
def bytes (s : String) : List UInt8 :=
  s.toUTF8.data.toList

/-- The bytes of a text are those of its characters in order. -/
theorem bytes_eq_flatMap (s : String) : bytes s = s.toList.flatMap String.utf8EncodeChar := by
  have hBytes : s.toUTF8 = s.toList.utf8Encode := by
    rw [String.toUTF8_eq_toByteArray, String.utf8Encode_toList]
  rw [bytes, hBytes, List.utf8Encode, List.toList_data_toByteArray]

/-- Lists of characters, by the bytes they are written as. The first characters that differ decide,
within their bytes; where one list is over first, so are its bytes. -/
theorem flatMap_utf8EncodeChar_lt {cs ds : List Char} (h : cs < ds) :
    cs.flatMap String.utf8EncodeChar < ds.flatMap String.utf8EncodeChar := by
  induction h with
  | nil =>
    rename_i d ds
    -- the first text has ended; the second goes on with a byte at least
    cases hBytes : String.utf8EncodeChar d with
    | nil => exact absurd hBytes String.utf8EncodeChar_ne_nil
    | cons x xs =>
      rw [List.flatMap_cons, hBytes]
      exact List.nil_lt_cons x _
  -- the first characters that differ decide, and no bytes behind them can change that
  | rel h =>
    rw [List.flatMap_cons, List.flatMap_cons]
    exact ((lessWithin_utf8EncodeChar h).append _ _).lt
  | cons _ ih =>
    rw [List.flatMap_cons, List.flatMap_cons]
    exact List.append_left_lt ih

/-- A reading of texts that is increasing decides their order: of two texts one is less, or they
are one, so the reading cannot put them the other way round. -/
theorem lt_iff_of_increasing {α : Type} [LT α] [Std.Asymm (· < · : α → α → Prop)]
    {f : String → List α} (hf : ∀ {s t : String}, s < t → f s < f t) {s t : String} :
    f s < f t ↔ s < t := by
  constructor
  · intro h
    apply Decidable.byContradiction
    intro hNot
    by_cases hSame : s = t
    · rw [hSame] at h
      exact List.lt_irrefl _ h
    · exact List.lt_asymm h (hf (NameSet.lt_of_not_lt_of_ne hNot hSame))
  · exact hf

theorem codePoints_lt_iff {s t : String} : codePoints s < codePoints t ↔ s < t := by
  apply lt_iff_of_increasing
  intro s t h
  exact List.map_lt (fun _ _ hLess => UInt32.lt_iff_toNat_lt.mp (Char.lt_def.mp hLess)) h

/-- **And so by their bytes.** The order that names are sorted in is that of their bytes in UTF-8,
which is how the lists of names are to be sorted. (UTF-8 is made so that this order and that of the
code points agree.) -/
theorem bytes_lt_iff {s t : String} : bytes s < bytes t ↔ s < t := by
  apply lt_iff_of_increasing
  intro s t h
  rw [bytes_eq_flatMap, bytes_eq_flatMap]
  exact flatMap_utf8EncodeChar_lt h

end QueryGuard.Text
