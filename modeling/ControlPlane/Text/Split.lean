/-!
# Lists in parts

A list is split into the parts between its marks. There is always one more part than there are marks, and the parts may be
empty.
-/

namespace ControlPlane.Text

variable {α : Type}

/-- The parts of a list between the items that are marks. -/
def split (isMark : α → Bool) : List α → List (List α)
  | [] => [[]]
  | a :: rest =>
    if isMark a then [] :: split isMark rest
    else
      match split isMark rest with
      | [] => [[a]]
      | part :: parts => (a :: part) :: parts

/-- There is a part more than there are marks. -/
theorem length_split (isMark : α → Bool) (s : List α) : (split isMark s).length = s.countP isMark + 1 := by
  induction s with
  | nil => rfl
  | cons a rest ih =>
    unfold split
    by_cases h : isMark a
    · simp [h, ih]
    · simp only [h, Bool.false_eq_true, if_false, List.countP_cons, Nat.add_zero]
      revert ih
      cases split isMark rest <;> simp

end ControlPlane.Text
