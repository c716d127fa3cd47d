import LiteAgentify.Quota.Redis
import LiteAgentify.Proof.Reconcile
import Std.Data.String.ToNat

/-!
# What a reconciliation pass heals

A pass resets the scopes that its queries return. So a counter is at the table's sum afterwards when
the scope has a row, or was at zero before (`reconciliation_heals`); the drift of a scope without
rows stays (`drift_without_rows_stays`).
-/

set_option autoImplicit false

namespace LiteAgentify

/-! ## The Redis counter -/

/-- Scopes have different Redis keys. -/
theorem Scope.redisKey_injective : Function.Injective Scope.redisKey := by
  have hne : ∀ a b : String, "spent:user:" ++ a ≠ "spent:key:" ++ b := by
    intro a b h
    have := congrArg String.toList h
    simp at this
  intro a b h
  cases a with
  | user id =>
    cases b with
    | user id' => simpa [redisKey, toString] using h
    | key id' => exact absurd (by simpa [redisKey, toString] using h) (hne _ _)
  | key id =>
    cases b with
    | user id' => exact absurd (by simpa [redisKey, toString] using h.symm) (hne _ _)
    | key id' => simpa [redisKey, toString] using h

@[simp] theorem RedisCounter.get_ok (counter : RedisCounter) (scope : Scope) :
    (counter.get scope true).1 = counter.held scope := rfl

@[simp] theorem RedisCounter.held_reset (counter : RedisCounter) (scope : Scope) (value : ℚ)
    (scope' : Scope) :
    (counter.reset scope value true).held scope' =
      if scope' = scope then value else counter.held scope' := by
  by_cases h : scope' = scope
  · subst h
    simp [held, reset, noteOutcome]
  · have hkey : scope'.redisKey ≠ scope.redisKey := fun he => h (Scope.redisKey_injective he)
    simp [held, reset, noteOutcome, Finmap.lookup_insert_of_ne _ hkey, h]

/-! ## Which scopes a pass heals -/

/-- A scope that is left where it stands is at the table's sum when it has no rows and stands at
zero. -/
theorem healed_iff {rows : List UsageRow} {scope : Scope} {before : ℚ} :
    (if ∃ row ∈ rows, row.InScope scope then spent rows scope else before) = spent rows scope ↔
      (∃ row ∈ rows, row.InScope scope) ∨ before = 0 := by
  by_cases h : ∃ row ∈ rows, row.InScope scope
  · rw [if_pos h]
    exact iff_of_true rfl (.inl h)
  · rw [if_neg h, spent_eq_zero h, or_iff_right h]

/-- **What reconciliation heals.** For every content of the table, on either counter: after a pass
the counter of a scope is at the table's sum exactly when the scope has a row or its counter was at
zero. -/
theorem reconciliation_heals {rows : List UsageRow} {users keys : List (Uuid × ℚ)}
    (hu : Iterates (spendByUser rows) users) (hk : Iterates (spendByKey rows) keys)
    (scope : Scope) :
    (∀ counter : MemoryCounter,
      (reconcileCounters users keys counter).get scope = spent rows scope ↔
        (∃ row ∈ rows, row.InScope scope) ∨ counter.get scope = 0) ∧
      ∀ counter : RedisCounter,
        ((counter.reconcileCounters users keys).get scope true).1 = spent rows scope ↔
          (∃ row ∈ rows, row.InScope scope) ∨ (counter.get scope true).1 = 0 := by
  constructor
  · intro counter
    rw [reconcileCounters, get_reconciled (fun _ _ _ _ => MemoryCounter.get_reset ..) hu hk]
    exact healed_iff
  · intro counter
    have hget : (counter.reconcileCounters users keys).held scope = _ :=
      get_reconciled (fun _ _ _ _ => RedisCounter.held_reset ..) hu hk counter scope
    rw [RedisCounter.get_ok, RedisCounter.get_ok, hget]
    exact healed_iff

/-- A counter that has lost an increment is brought to the sum of its row. -/
theorem reconciliation_heals_sample :
    (reconcileCounters [(1, 5)] [(2, 5)] (MemoryCounter.add ∅ (.user 1) 3)).get (.user 1) =
      spent [⟨some 1, some 2, some 5⟩] (.user 1) :=
  ((@reconciliation_heals [⟨some 1, some 2, some 5⟩] _ _ (by decide +kernel)
    (by decide +kernel) (.user 1)).1 _).2 (.inl ⟨_, List.mem_singleton.2 rfl, rfl⟩)

/-- **Drift of a scope without rows stays.** The cost of a request was added and its record never
reached the table: the pass leaves the counters of its user and its key where they are. -/
theorem drift_without_rows_stays :
    let counter := (MemoryCounter.add ∅ (.user 1) 5).add (.key 2) 5
    Iterates (spendByUser []) [] ∧ Iterates (spendByKey []) [] ∧
      (reconcileCounters [] [] counter).get (.user 1) = 5 ∧ spent [] (.user 1) = 0 ∧
      (reconcileCounters [] [] counter).get (.key 2) = 5 ∧ spent [] (.key 2) = 0 := by
  decide +kernel

end LiteAgentify
