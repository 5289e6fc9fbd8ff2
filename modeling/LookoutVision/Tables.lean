import Mathlib.Logic.Function.Basic

/-!
# Tables

A table has an entry, or none, for every index, and is written with
`Function.update`.  Who finds an entry in a table that was just written finds
what was written, or what was there before at another index.
-/

namespace Table
variable {ι α : Type} [DecidableEq ι] {t : ι → Option α} {i j : ι} {x : α}

/-- An entry of a table in which one was replaced is the new one, or an old one
elsewhere. -/
theorem update_eq_some {value : Option α} (h : Function.update t i value j = some x) :
    (j = i ∧ value = some x) ∨ (j ≠ i ∧ t j = some x) := by
  by_cases hj : j = i
  · subst hj
    rw [Function.update_self] at h
    exact Or.inl ⟨rfl, h⟩
  · rw [Function.update_of_ne hj] at h
    exact Or.inr ⟨hj, h⟩

/-- An entry of a table from which one was taken is an old one elsewhere. -/
theorem update_none_eq_some (h : Function.update t i none j = some x) :
    j ≠ i ∧ t j = some x := by
  rcases update_eq_some h with ⟨-, hnone⟩ | hold
  · cases hnone
  · exact hold

end Table
