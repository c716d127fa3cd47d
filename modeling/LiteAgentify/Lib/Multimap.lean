import Mathlib.Data.List.Basic

/-!
# Multimaps

A list of entries in which a key may occur repeatedly: `values` are the values of a key in order,
`put` replaces them all by one value, and `putAll` puts the entries of another list one by one, so
that the last value of a key is the one that stays (`values_putAll`). `Same` multimaps have the same
values for every key.
-/

set_option autoImplicit false

namespace Multimap

variable {K V : Type*} [DecidableEq K] {m m' l : List (K × V)} {k key : K} {v : V}

/-- The values of a key, in order. -/
def values (m : List (K × V)) (k : K) : List V := (m.filter (·.1 = k)).map Prod.snd

/-- The value replaces every value of the key, at the place of the first one. -/
def put (m : List (K × V)) (k : K) (v : V) : List (K × V) :=
  if m.any (·.1 = k) then
    (m.takeWhile (·.1 ≠ k)) ++ (k, v) :: ((m.dropWhile (·.1 ≠ k)).tail.filter (·.1 ≠ k))
  else m ++ [(k, v)]

/-- The entries of `l` are put one after another. -/
def putAll (l m : List (K × V)) : List (K × V) := l.foldl (fun m entry => put m entry.1 entry.2) m

/-- The same values for every key. -/
def Same (m m' : List (K × V)) : Prop := ∀ k, values m k = values m' k

@[simp] theorem values_nil : values ([] : List (K × V)) k = [] := rfl

theorem values_cons (entry : K × V) :
    values (entry :: m) k = if entry.1 = k then entry.2 :: values m k else values m k := by
  by_cases h : entry.1 = k <;> simp [values, h]

theorem mem_values : v ∈ values m k ↔ (k, v) ∈ m := by
  simp [values]

/-- A filter on the keys. -/
theorem values_filter (p : K → Bool) :
    values (m.filter fun entry => p entry.1) k = if p k then values m k else [] := by
  induction m with
  | nil => simp
  | cons entry m ih =>
    rw [List.filter_cons, values_cons]
    by_cases hk : entry.1 = k
    · subst hk
      by_cases hp : p entry.1 <;> simp [hp, values_cons, ih]
    · by_cases hp : p entry.1 <;> simp [hp, hk, values_cons, ih]

/-- Two multimaps that agree on the keys of a filter. -/
theorem same_filter {p : K → Bool} (h : ∀ k, p k = true → values m k = values m' k) :
    Same (m.filter fun entry => p entry.1) (m'.filter fun entry => p entry.1) := by
  intro k
  rw [values_filter, values_filter]
  split
  · rename_i hk
    exact h k hk
  · rfl

/-! ## Putting a value -/

theorem put_cons_self {entry : K × V} (h : entry.1 = k) :
    put (entry :: m) k v = (k, v) :: m.filter (·.1 ≠ k) := by
  simp [put, h]

theorem put_cons_of_ne {entry : K × V} (h : entry.1 ≠ k) :
    put (entry :: m) k v = entry :: put m k v := by
  unfold put
  by_cases hm : m.any (·.1 = k) <;> simp [h, hm]

theorem values_put_self : values (put m k v) k = [v] := by
  induction m with
  | nil => simp [put, values]
  | cons entry m ih =>
    by_cases h : entry.1 = k
    · rw [put_cons_self h, values_cons, if_pos rfl]
      have hnone : values (m.filter (·.1 ≠ k)) k = [] := by
        rw [values, List.filter_filter]
        simp
      rw [hnone]
    · rw [put_cons_of_ne h, values_cons, if_neg h, ih]

theorem values_put_of_ne (h : key ≠ k) : values (put m k v) key = values m key := by
  induction m with
  | nil => simp [put, values_cons, h.symm]
  | cons entry m ih =>
    by_cases hentry : entry.1 = k
    · have hne : entry.1 ≠ key := fun he => h (he.symm.trans hentry)
      have hfilter : values (m.filter fun entry => entry.1 ≠ k) key = values m key := by
        rw [values_filter (fun key => decide (key ≠ k)), if_pos (decide_eq_true h)]
      rw [put_cons_self hentry, values_cons, if_neg h.symm, values_cons, if_neg hne, hfilter]
    · rw [put_cons_of_ne hentry, values_cons, values_cons, ih]

/-- Putting one value. -/
theorem values_put : values (put m k v) key = if key = k then [v] else values m key := by
  split
  · rename_i h
    rw [h, values_put_self]
  · rename_i h
    exact values_put_of_ne h

/-- Putting many: the last value of a key stays. -/
theorem values_putAll : values (putAll l m) k = match (values l k).getLast? with
    | some v => [v]
    | none => values m k := by
  induction l generalizing m with
  | nil => rfl
  | cons entry l ih =>
    rw [putAll, List.foldl_cons, ← putAll, ih, values_put, values_cons]
    by_cases h : entry.1 = k
    · rw [if_pos h, List.getLast?_cons, if_pos h.symm]
      cases (values l k).getLast? <;> rfl
    · rw [if_neg h, if_neg (Ne.symm h)]

/-- Nothing is lost exactly when the key has at most one value. -/
theorem values_putAll_nil_eq : values (putAll l []) k = values l k ↔ (values l k).length ≤ 1 := by
  rw [values_putAll]
  rcases hlast : (values l k).getLast? with _ | v
  · rw [List.getLast?_eq_none_iff] at hlast
    simp [hlast]
  · rcases hl : values l k with _ | ⟨first, rest⟩
    · rw [hl] at hlast
      cases hlast
    · rw [hl] at hlast
      cases rest with
      | nil => simp_all
      | cons second rest => simp

/-! ## Same values -/

theorem Same.putAll (h : Same m m') : Same (putAll l m) (putAll l m') := by
  intro k
  rw [values_putAll, values_putAll, h k]

/-- Multimaps with the same values are the same after putting them. -/
theorem same_putAll (h : Same m m') : Same (Multimap.putAll m l) (Multimap.putAll m' l) := by
  intro k
  rw [values_putAll, values_putAll, h k]

end Multimap
