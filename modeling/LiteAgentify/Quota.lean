import LiteAgentify.Base

/-!
# Spend counters and the credit ledger

`src/quota/`: the scopes and the in-memory counter (`MemoryCounter`) the quota check reads, the
`credit_grants` ledger with its sums, and the sums of the usage table that reconciliation resets
the counter to.
-/

set_option autoImplicit false

namespace LiteAgentify

/-- A spend-counter scope: what a user, or a key, has spent. -/
inductive Scope
  | user (id : Uuid)
  | key (id : Uuid)
  deriving DecidableEq, Repr

/-- The process-local counter; each operation holds the lock, so it is one step. -/
abbrev MemoryCounter := HashMap Scope ℚ

namespace MemoryCounter

def get (counter : MemoryCounter) (scope : Scope) : ℚ := (counter.lookup scope).getD 0

def add (counter : MemoryCounter) (scope : Scope) (cost : ℚ) : MemoryCounter :=
  counter.insert scope (counter.get scope + cost)

def reset (counter : MemoryCounter) (scope : Scope) (value : ℚ) : MemoryCounter :=
  counter.insert scope value

@[simp] theorem get_empty (scope : Scope) : get ∅ scope = 0 := rfl

@[simp] theorem get_add (counter : MemoryCounter) (scope scope' : Scope) (cost : ℚ) :
    (counter.add scope cost).get scope' =
      counter.get scope' + if scope' = scope then cost else 0 := by
  by_cases h : scope' = scope
  · subst h
    simp [get, add]
  · simp [get, add, Finmap.lookup_insert_of_ne _ h, h]

@[simp] theorem get_reset (counter : MemoryCounter) (scope scope' : Scope) (value : ℚ) :
    (counter.reset scope value).get scope' = if scope' = scope then value else counter.get scope' := by
  by_cases h : scope' = scope
  · subst h
    simp [get, reset]
  · simp [get, reset, Finmap.lookup_insert_of_ne _ h, h]

end MemoryCounter

/-! ## The credit ledger -/

/-- A row of `credit_grants`: corrections are negative amounts. -/
structure GrantRow where
  userId : Uuid
  amountUsd : ℚ
  deriving DecidableEq

/-- The sum of the amounts per key of a table, for the keys it holds (`GROUP BY`). -/
def groupSums {R : Type} (key : R → Option Uuid) (amount : R → ℚ) (rows : List R) :
    HashMap Uuid ℚ :=
  rows.foldl (fun sums row =>
    match key row with
    | some k => sums.insert k ((sums.lookup k).getD 0 + amount row)
    | none => sums) ∅

/-- `QuotaStore::grant_sums`. -/
def grantSums (ledger : List GrantRow) : HashMap Uuid ℚ :=
  groupSums (some ·.userId) GrantRow.amountUsd ledger

theorem groupSums_append {R : Type} (key : R → Option Uuid) (amount : R → ℚ) (rows : List R)
    (row : R) :
    groupSums key amount (rows ++ [row]) =
      match key row with
      | some k => (groupSums key amount rows).insert k
          (((groupSums key amount rows).lookup k).getD 0 + amount row)
      | none => groupSums key amount rows := by
  simp [groupSums, List.foldl_append]

/-- A key's sum is the sum of the amounts of its rows, and a key has a sum when a row holds it. -/
theorem lookup_groupSums {R : Type} (key : R → Option Uuid) (amount : R → ℚ) (rows : List R)
    (k : Uuid) :
    (groupSums key amount rows).lookup k =
      if rows.any (key · = some k) then
        some ((rows.filter (key · = some k)).map amount).sum
      else none := by
  induction rows using List.reverseRecOn with
  | nil => simp [groupSums]
  | append_singleton rows row ih =>
    rw [groupSums_append]
    cases hk : key row with
    | none => simp [ih, hk]
    | some k' =>
      by_cases h : k' = k
      · subst h
        simp only [Finmap.lookup_insert, ih, List.any_append, List.filter_append, List.map_append,
          List.sum_append]
        by_cases ha : rows.any (key · = some k') = true
        · simp [ha, hk]
        · have : rows.filter (key · = some k') = [] := by
            simpa [List.filter_eq_nil_iff] using ha
          simp [ha, hk, this]
      · have hne : ¬ key row = some k := by simpa [hk] using h
        rw [Finmap.lookup_insert_of_ne _ (Ne.symm h), ih]
        simp [h, hk]

end LiteAgentify
