import Mathlib.Algebra.BigOperators.Group.Finset.Basic
import Mathlib.Algebra.BigOperators.Fin
import Mathlib.Data.Fintype.BigOperators

/-!
# Sums that change in one place
-/

set_option autoImplicit false

namespace Sums

variable {ι G : Type*} [Fintype ι] [AddCommGroup G]

/-- Two families that differ in one place have sums that differ by that place. -/
theorem sum_change {f g : ι → G} (i : ι) (h : ∀ j, j ≠ i → g j = f j) :
    ∑ j, g j = ∑ j, f j + (g i - f i) := by
  have : ∑ j, (g j - f j) = g i - f i :=
    Fintype.sum_eq_single i fun j hj => by rw [h j hj, sub_self]
  rw [← this, Finset.sum_sub_distrib]
  rw [add_sub_cancel]

/-- Two families that agree have the same sum. -/
theorem sum_same {f g : ι → G} (i : ι) (h : ∀ j, j ≠ i → g j = f j) (hi : g i = f i) :
    ∑ j, g j = ∑ j, f j := by
  rw [sum_change i h, hi, sub_self, add_zero]

/-- How many places pass a test, after a change in one place. -/
theorem card_update {α : Type*} [DecidableEq ι] (f : ι → α) (i : ι) (a : α) (p : α → Bool) :
    (Finset.univ.filter fun j => p (Function.update f i a j)).card + (p (f i)).toNat =
      (Finset.univ.filter fun j => p (f j)).card + (p a).toNat := by
  have hrest : ∀ j ∈ Finset.univ.erase i,
      (if p (Function.update f i a j) then 1 else 0) = if p (f j) then 1 else 0 := by
    intro j hj
    rw [Function.update_of_ne (Finset.ne_of_mem_erase hj)]
  have hsum := Finset.sum_congr rfl hrest
  rw [Finset.card_filter, Finset.card_filter, ← Finset.add_sum_erase _ _ (Finset.mem_univ i),
    ← Finset.add_sum_erase _ (fun j => if p (f j) then 1 else 0) (Finset.mem_univ i), hsum,
    Function.update_self]
  cases p (f i) <;> cases p a <;> simp <;> omega

end Sums
