import Mathlib.Data.List.Sort

/-!
# Sorting rows

`List.insertionSort` is stable: it keeps the order of the rows of a group that may stay before one
another (`filter_insertionSort`), so sorting by one column and then by another is `ORDER BY` both.
Sorting and selecting rows commute (`sortBy_filter`), and rows that are told apart by the number
they are sorted by have one sorted order only (`sortBy_eq_of_perm`).
-/

set_option autoImplicit false

namespace OrderBy

variable {X : Type*} {r : X → X → Prop} [DecidableRel r] {p : X → Bool} {xs ys : List X}
  {rank : X → Nat}

theorem filter_orderedInsert {x : X} (h : ∀ y ∈ xs, p y = true → p x = true → r x y) :
    (xs.orderedInsert r x).filter p = (x :: xs).filter p := by
  induction xs with
  | nil => rfl
  | cons y ys ih =>
    rw [List.orderedInsert_cons]
    split
    · rfl
    · rename_i hxy
      have hone : p y = true → p x = false := fun hy => by
        by_contra hx
        exact hxy (h y (List.mem_cons_self ..) hy (by simpa using hx))
      rw [List.filter_cons, ih fun z hz => h z (List.mem_cons_of_mem _ hz)]
      by_cases hy : p y = true
      · simp [hy, hone hy]
      · by_cases hx : p x = true <;> simp [hy, hx]

/-- Sorting keeps the order of rows that may all stay before one another. -/
theorem filter_insertionSort (h : ∀ x ∈ xs, ∀ y ∈ xs, p x = true → p y = true → r x y) :
    (xs.insertionSort r).filter p = xs.filter p := by
  induction xs with
  | nil => rfl
  | cons x xs ih =>
    have hxs : (xs.insertionSort r).filter p = xs.filter p :=
      ih fun y hy z hz => h y (List.mem_cons_of_mem _ hy) z (List.mem_cons_of_mem _ hz)
    rw [List.insertionSort_cons, filter_orderedInsert, List.filter_cons, List.filter_cons, hxs]
    intro y hy hpy hpx
    exact h x (List.mem_cons_self ..) y (List.mem_cons_of_mem _ ((List.mem_insertionSort r).1 hy))
      hpx hpy

/-! ## Sorting by a number -/

/-- Sorted by a number, the smallest first. -/
def sortBy (rank : X → Nat) (xs : List X) : List X := xs.insertionSort fun x y => rank x ≤ rank y

theorem sortBy_perm (rank : X → Nat) (xs : List X) : (sortBy rank xs).Perm xs :=
  List.perm_insertionSort ..

theorem sortBy_sorted (rank : X → Nat) (xs : List X) :
    (sortBy rank xs).Pairwise fun x y => rank x ≤ rank y := by
  have : Std.Total fun x y : X => rank x ≤ rank y := ⟨fun x y => Nat.le_total ..⟩
  have : IsTrans X fun x y => rank x ≤ rank y := ⟨fun _ _ _ => Nat.le_trans⟩
  exact List.pairwise_insertionSort _ xs

/-- A sorted arrangement of rows with distinct numbers is the only one. -/
theorem eq_of_sorted (hnd : (xs.map rank).Nodup) (hperm : xs.Perm ys)
    (hxs : xs.Pairwise fun x y => rank x ≤ rank y) (hys : ys.Pairwise fun x y => rank x ≤ rank y) :
    xs = ys := by
  refine List.Perm.eq_of_pairwise (fun x y hx hy hxy hyx => ?_) hxs hys hperm
  exact List.inj_on_of_nodup_map hnd hx (hperm.mem_iff.2 hy) (Nat.le_antisymm hxy hyx)

/-- The order in which the rows come does not matter. -/
theorem sortBy_eq_of_perm (hnd : (xs.map rank).Nodup) (hperm : xs.Perm ys) :
    sortBy rank xs = sortBy rank ys := by
  have hsort := sortBy_perm rank xs
  exact eq_of_sorted ((hsort.map rank).nodup_iff.2 hnd)
    (hsort.trans (hperm.trans (sortBy_perm rank ys).symm)) (sortBy_sorted ..) (sortBy_sorted ..)

/-- Inserting into sorted rows, seen among the selected ones. -/
theorem filter_orderedInsert_sorted [IsTrans X r] {x : X} (hxs : xs.Pairwise r) :
    (xs.orderedInsert r x).filter p =
      if p x then (xs.filter p).orderedInsert r x else xs.filter p := by
  induction xs with
  | nil => cases hx : p x <;> simp [hx]
  | cons y ys ih =>
    obtain ⟨hy, hys⟩ := List.pairwise_cons.1 hxs
    rw [List.orderedInsert_cons]
    split
    · rename_i hxy
      -- the new row comes first, also among the selected ones
      have hfirst : ∀ z ∈ (y :: ys).filter p, r x z := by
        intro z hz
        rcases List.mem_cons.1 (List.mem_filter.1 hz).1 with rfl | hz
        · exact hxy
        · exact IsTrans.trans _ _ _ hxy (hy z hz)
      have hinsert : ((y :: ys).filter p).orderedInsert r x = x :: (y :: ys).filter p := by
        cases hsel : (y :: ys).filter p with
        | nil => rfl
        | cons z zs =>
          exact List.orderedInsert_cons_of_le _ _ (hfirst z (hsel ▸ List.mem_cons_self ..))
      rw [hinsert, List.filter_cons]
    · rename_i hxy
      rw [List.filter_cons, ih hys, List.filter_cons]
      cases hpy : p y
      · rfl
      · cases hpx : p x
        · rfl
        · exact (List.orderedInsert_of_not_le _ _ hxy).symm

/-- Selected rows are sorted as they are among all rows. -/
theorem sortBy_filter : (sortBy rank xs).filter p = sortBy rank (xs.filter p) := by
  induction xs with
  | nil => rfl
  | cons x xs ih =>
    have : IsTrans X fun x y => rank x ≤ rank y := ⟨fun _ _ _ => Nat.le_trans⟩
    have hcons : sortBy rank (x :: xs) = (sortBy rank xs).orderedInsert (rank · ≤ rank ·) x := rfl
    rw [hcons, filter_orderedInsert_sorted (sortBy_sorted rank xs), ih, List.filter_cons]
    split <;> rfl

end OrderBy
