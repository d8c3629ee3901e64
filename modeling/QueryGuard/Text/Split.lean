/-!
The stretches between the occurrences of a separator.
-/

namespace QueryGuard.Text

/-- The stretches of a text between the occurrences of a character: one more than there are
occurrences. -/
def split (separator : Char) : List Char → List (List Char)
  | [] => [[]]
  | c :: cs =>
    if c = separator then [] :: split separator cs
    else
      match split separator cs with
      | [] => [[c]]
      | s :: ss => (c :: s) :: ss

/-- There is always a first stretch. -/
theorem split_ne_nil (separator : Char) (cs : List Char) : split separator cs ≠ [] := by
  cases cs with
  | nil => simp [split]
  | cons c cs =>
    rw [split]
    split
    · simp
    · split <;> simp

end QueryGuard.Text
