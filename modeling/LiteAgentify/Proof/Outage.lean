import LiteAgentify.Quota.Redis

/-!
# Spend through a Redis outage

The shadow counts at least what a memory counter does, because it sees the same adds and resets;
only a successful `GET` can lower it, when Redis missed what the shadow has. As long as no `GET`
succeeds on a scope whose value in Redis is behind the shadow (`RedisCounter.UpToDate`), reads
return at least what a memory counter would, and do not decrease between two resets
(`outage_keeps_spend`).
-/

set_option autoImplicit false

namespace LiteAgentify

open Lts

namespace RedisCounter

variable {counter : RedisCounter}

/-- A successful `GET` finds no less in Redis than the shadow has. -/
def UpToDate (counter : RedisCounter) : CounterCall × Bool → Prop
  | (.get scope, true) => counter.shadow.get scope ≤ counter.held scope
  | _ => True

/-- The calls raise no scope's counter by a negative amount. -/
def Nonneg : CounterCall × Bool → Prop
  | (.add _ cost, _) => 0 ≤ cost
  | _ => True

/-- The call is not a reset of the scope. -/
def Keeps (scope : Scope) : CounterCall × Bool → Prop
  | (.reset scope' _, _) => scope' ≠ scope
  | _ => True

/-! ## The shadow -/

/-- A read returns at least the shadow, and its shadow is at least what it returns. -/
theorem get_spec {scope : Scope} {ok : Bool} (h : counter.UpToDate (.get scope, ok)) :
    counter.shadow.get scope ≤ (counter.get scope ok).1 ∧
      (counter.get scope ok).1 ≤ (counter.get scope ok).2.shadow.get scope := by
  cases ok with
  | true =>
    refine ⟨h, ?_⟩
    simp [get]
  | false => exact ⟨le_rfl, le_rfl⟩

/-- The shadow after a call is at least what the call makes of a memory counter below it. -/
theorem step_shadow {l : CounterCall × Bool} {counter' : RedisCounter} {memory : MemoryCounter}
    (h : ∀ scope, memory.get scope ≤ counter.shadow.get scope) (hok : counter.UpToDate l)
    (hstep : counter.step l = some counter') (scope : Scope) :
    (memory.call l.1).get scope ≤ counter'.shadow.get scope := by
  obtain ⟨call, ok⟩ := l
  have hscope := h scope
  cases call with
  | get scope' =>
    cases hstep
    cases ok with
    | false => exact hscope
    | true =>
      -- the only write of the shadow that does not come from the call itself
      simp only [MemoryCounter.call, get, if_true, MemoryCounter.get_reset]
      split
      · rename_i heq
        subst heq
        exact hscope.trans hok
      · exact hscope
  | add scope' cost =>
    cases hstep
    show (memory.add scope' cost).get scope ≤ (counter.shadow.add scope' cost).get scope
    rw [MemoryCounter.get_add, MemoryCounter.get_add]
    linarith
  | reset scope' value =>
    cases hstep
    show (memory.reset scope' value).get scope ≤ (counter.shadow.reset scope' value).get scope
    rw [MemoryCounter.get_reset, MemoryCounter.get_reset]
    split
    · exact le_rfl
    · exact hscope

/-- Without a reset of the scope, a call does not lower its shadow. -/
theorem step_mono {l : CounterCall × Bool} {counter' : RedisCounter} {scope : Scope}
    (hok : counter.UpToDate l) (hnonneg : Nonneg l) (hkeeps : Keeps scope l)
    (hstep : counter.step l = some counter') :
    counter.shadow.get scope ≤ counter'.shadow.get scope := by
  obtain ⟨call, ok⟩ := l
  cases call with
  | get scope' =>
    cases hstep
    cases ok with
    | false => exact le_rfl
    | true =>
      simp only [get, if_true, MemoryCounter.get_reset]
      split
      · rename_i heq
        subst heq
        exact hok
      · exact le_rfl
  | add scope' cost =>
    cases hstep
    show counter.shadow.get scope ≤ (counter.shadow.add scope' cost).get scope
    have hcost : 0 ≤ cost := hnonneg
    rw [MemoryCounter.get_add]
    split <;> linarith
  | reset scope' value =>
    cases hstep
    have hne : scope ≠ scope' := fun h => hkeeps h.symm
    show counter.shadow.get scope ≤ (counter.shadow.reset scope' value).get scope
    rw [MemoryCounter.get_reset, if_neg hne]

/-! ## Runs -/

/-- Throughout a run the shadow is at least the memory counter of the same calls. -/
theorem shadow_ge {store : HashMap String ℚ} {calls : List (CounterCall × Bool)}
    (h : Run step UpToDate (new store) calls counter) (scope : Scope) :
    ((calls.map Prod.fst).foldl MemoryCounter.call ∅).get scope ≤ counter.shadow.get scope := by
  induction h generalizing scope with
  | nil => exact le_rfl
  | snoc _ hok hstep ih =>
    rw [List.map_append, List.foldl_append]
    exact step_shadow ih hok hstep scope

/-- Along a run without a reset of the scope its shadow does not decrease. -/
theorem shadow_mono {counter' : RedisCounter} {calls : List (CounterCall × Bool)} {scope : Scope}
    (h : Run step UpToDate counter calls counter') (hnonneg : ∀ l ∈ calls, Nonneg l)
    (hkeeps : ∀ l ∈ calls, Keeps scope l) :
    counter.shadow.get scope ≤ counter'.shadow.get scope := by
  induction h with
  | nil => exact le_rfl
  | snoc _ hok hstep ih =>
    have hbefore := ih (fun l hl => hnonneg l (List.mem_append_left _ hl))
      fun l hl => hkeeps l (List.mem_append_left _ hl)
    exact hbefore.trans (step_mono hok (hnonneg _ (by simp)) (hkeeps _ (by simp)) hstep)

end RedisCounter

open RedisCounter

/-- **Spend through an outage.** Whatever Redis holds at the start and whichever commands fail, as
long as no `GET` succeeds on a scope that is behind the shadow: a read returns at least what a
memory counter would after the same calls, and a later read of the scope, without a reset between
them, returns no less. -/
theorem outage_keeps_spend {store : HashMap String ℚ} {calls : List (CounterCall × Bool)}
    {counter : RedisCounter} (hrun : Run step UpToDate (.new store) calls counter) (scope : Scope)
    (ok : Bool) (hread : counter.UpToDate (.get scope, ok)) :
    ((calls.map Prod.fst).foldl MemoryCounter.call ∅).get scope ≤ (counter.get scope ok).1 ∧
      ∀ later counter' ok', (∀ l ∈ later, Nonneg l) → (∀ l ∈ later, Keeps scope l) →
        Run step UpToDate (counter.get scope ok).2 later counter' →
        counter'.UpToDate (.get scope, ok') →
        (counter.get scope ok).1 ≤ (counter'.get scope ok').1 := by
  obtain ⟨hlow, hhigh⟩ := get_spec hread
  refine ⟨(shadow_ge hrun scope).trans hlow, ?_⟩
  intro later counter' ok' hnonneg hkeeps hlater hread'
  exact hhigh.trans ((shadow_mono hlater hnonneg hkeeps).trans (get_spec hread').1)

/-- A failed add of 5, read while Redis is down. -/
theorem outage_keeps_spend_sample :
    (5 : ℚ) ≤ (((RedisCounter.new ∅).add (.user 1) 5 false).get (.user 1) false).1 := by
  have hrun : Run step UpToDate (.new ∅) [(.add (.user 1) 5, false)]
      ((RedisCounter.new ∅).add (.user 1) 5 false) := Run.snoc .nil trivial rfl
  have hmemory : ([CounterCall.add (.user 1) 5].foldl MemoryCounter.call ∅).get (.user 1) = 5 := by
    decide +kernel
  exact hmemory.symm.trans_le (outage_keeps_spend hrun (.user 1) false trivial).1

/-- An add whose `INCRBYFLOAT` fails, and a `GET` that succeeds: the read returns 0 where a memory
counter returns 5. -/
theorem missed_add_is_lost :
    (((RedisCounter.new ∅).add (.user 1) 5 false).get (.user 1) true).1 = 0 ∧
      ([CounterCall.add (.user 1) 5].foldl MemoryCounter.call ∅).get (.user 1) = 5 ∧
      (((RedisCounter.new ∅).add (.user 1) 5 false).get (.user 1) false).1 = 5 :=
  ⟨by decide +kernel, by decide +kernel, by decide +kernel⟩

end LiteAgentify
