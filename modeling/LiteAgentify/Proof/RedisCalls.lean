import LiteAgentify.Quota.RedisCalls
import LiteAgentify.Proof.Healing

/-!
# The Redis counter is linearizable

The command of a call is its commit point: what Redis holds changes there and nowhere else, and a
`get` answers what Redis held at its `GET`. So the calls whose command succeeded behave like calls
of a memory counter, seeded with what Redis held, that run one after another
(`redis_calls_linearizable`). A command that fails has no effect, no reply of one that succeeded is
lost, and amounts are exact.
-/

set_option autoImplicit false

namespace LiteAgentify

open Lts

/-- What a call of a memory counter answers. -/
def MemoryCounter.answer (counter : MemoryCounter) : CounterCall → Option ℚ
  | .get scope => some (counter.get scope)
  | _ => none

/-- Redis holds the numbers of a memory counter. -/
def RedisCounter.Holds (counter : RedisCounter) (memory : MemoryCounter) : Prop :=
  ∀ scope, counter.held scope = memory.get scope

/-- The next step of a call is its command. -/
def CounterPlace.isCommand : CounterCall → CounterPlace → Bool
  | .get _, .start | .add _ _, .shadowed | .reset _ _, .shadowed => true
  | _, _ => false

/-- The phase of a call, with its answer. -/
def CounterPlace.phase : CounterCall → CounterPlace → CallPhase (Option ℚ)
  | _, .start => .idle
  | _, .shadowed => .pending
  | .get _, .replied (some value) | .get _, .noted (some value) => .committed (some value)
  | _, .replied (some _) | _, .noted (some _) => .committed none
  | _, .replied none | _, .noted none | _, .returned _ false => .aborted
  | _, .returned answer true => .returned answer

namespace RedisCounter

variable {counter counter' : RedisCounter} {memory : MemoryCounter} {call : CounterCall}
  {place place' : CounterPlace} {ok : Bool} {scope : Scope} {value : ℚ}

/-- Only the numbers in Redis matter. -/
theorem Holds.congr (h : counter.Holds memory) (hredis : counter'.redis = counter.redis) :
    counter'.Holds memory := by
  intro scope
  rw [held, hredis]
  exact h scope

theorem Holds.insert (h : counter.Holds memory) (hredis : counter'.redis =
    counter.redis.insert scope.redisKey value) : counter'.Holds (memory.reset scope value) := by
  intro scope'
  rw [held, hredis, MemoryCounter.get_reset]
  by_cases hs : scope' = scope
  · subst hs
    simp
  · have hkey : scope'.redisKey ≠ scope.redisKey := fun he => hs (Scope.redisKey_injective he)
    rw [Finmap.lookup_insert_of_ne _ hkey, if_neg hs]
    exact h scope'

/-- A step that is no successful command leaves Redis and every answer alone. -/
theorem callStep_keeps (h : counter.callStep ok call place = some (counter', place'))
    (hc : ¬ (place.isCommand call ∧ ok)) :
    counter'.redis = counter.redis ∧ (place.phase call).Moves (place'.phase call) := by
  cases call with
  | get scope =>
    cases place with
    | start =>
      have hok : ok = false := by simpa [CounterPlace.isCommand] using hc
      subst hok
      cases h
      exact ⟨rfl, .fail⟩
    | shadowed => cases h
    | replied reply =>
      cases h
      cases reply <;> exact ⟨rfl, .stay _⟩
    | noted reply =>
      cases reply with
      | none =>
        cases h
        exact ⟨rfl, .stay _⟩
      | some parsed =>
        cases h
        exact ⟨rfl, .reply _⟩
    | returned answer ok => cases h
  | add scope cost =>
    cases place with
    | start =>
      cases h
      exact ⟨rfl, .begin⟩
    | shadowed =>
      have hok : ok = false := by simpa [CounterPlace.isCommand] using hc
      subst hok
      cases h
      exact ⟨rfl, .abort⟩
    | replied reply =>
      cases h
      cases reply with
      | none => exact ⟨rfl, .stay _⟩
      | some value => exact ⟨rfl, .reply _⟩
    | noted reply => cases h
    | returned answer ok => cases h
  | reset scope value =>
    cases place with
    | start =>
      cases h
      exact ⟨rfl, .begin⟩
    | shadowed =>
      have hok : ok = false := by simpa [CounterPlace.isCommand] using hc
      subst hok
      cases h
      exact ⟨rfl, .abort⟩
    | replied reply =>
      cases h
      cases reply with
      | none => exact ⟨rfl, .stay _⟩
      | some value => exact ⟨rfl, .reply _⟩
    | noted reply => cases h
    | returned answer ok => cases h

/-- A command that succeeds is the call, made on the numbers that Redis holds. -/
theorem callStep_commits (hm : counter.Holds memory)
    (h : counter.callStep true call place = some (counter', place'))
    (hc : place.isCommand call) :
    counter'.Holds (memory.call call) ∧ (place.phase call).answer = none ∧
      (place'.phase call).answer = some (memory.answer call) := by
  cases call with
  | get scope =>
    cases place with
    | start =>
      cases h
      refine ⟨hm, rfl, ?_⟩
      show some (some (counter.held scope)) = some (some (memory.get scope))
      rw [hm scope]
    | shadowed | replied reply | noted reply | returned answer ok => cases hc
  | add scope cost =>
    cases place with
    | shadowed =>
      cases h
      refine ⟨?_, rfl, rfl⟩
      have hadd : memory.add scope cost = memory.reset scope (counter.held scope + cost) := by
        rw [hm scope]
        rfl
      rw [MemoryCounter.call, hadd]
      exact hm.insert rfl
    | start | replied reply | noted reply | returned answer ok => cases hc
  | reset scope value =>
    cases place with
    | shadowed =>
      cases h
      exact ⟨hm.insert rfl, rfl, rfl⟩
    | start | replied reply | noted reply | returned answer ok => cases hc

end RedisCounter

namespace CounterCalls

variable {ι : Type} [DecidableEq ι] {calls : ι → CounterCall}

/-- A call takes effect at a command that succeeds. -/
def commit (calls : ι → CounterCall) (s : CounterCalls ι) (l : ι × Bool) : Option ι :=
  if (s.place l.1).isCommand (calls l.1) ∧ l.2 then some l.1 else none

def phase (calls : ι → CounterCall) (s : CounterCalls ι) (i : ι) : CallPhase (Option ℚ) :=
  (s.place i).phase (calls i)

theorem step_cases {s s' : CounterCalls ι} {i : ι} {ok : Bool}
    (h : s.step calls (i, ok) = some s') :
    ∃ place, s.counter.callStep ok (calls i) (s.place i) = some (s'.counter, place) ∧
      s'.place = Function.update s.place i place := by
  obtain ⟨⟨counter, place⟩, hstep, rfl⟩ := Option.map_eq_some_iff.1 h
  exact ⟨place, hstep, rfl⟩

theorem phase_update {s s' : CounterCalls ι} {i : ι} {place : CounterPlace}
    (h : s'.place = Function.update s.place i place) (j : ι) :
    phase calls s' j = if j = i then place.phase (calls i) else phase calls s j := by
  rw [phase, h, Function.update_apply]
  split
  · rename_i hj
    rw [hj]
  · rfl

/-- The commands of the calls are commit points. -/
theorem committing : Committing (step calls) (fun _ _ => True) (commit calls) (phase calls)
    (fun i (memory : MemoryCounter) => memory.call (calls i))
    (fun i memory => memory.answer (calls i)) (fun s memory => s.counter.Holds memory) where
  keeps := by
    rintro s ⟨i, ok⟩ s' memory hm - hstep hcommit
    obtain ⟨place, hcall, hplace⟩ := step_cases hstep
    have hc : ¬ ((s.place i).isCommand (calls i) ∧ ok) := by
      intro hc
      simp [commit, hc] at hcommit
    obtain ⟨hredis, hmoves⟩ := RedisCounter.callStep_keeps hcall hc
    refine ⟨hm.congr hredis, fun j => ?_⟩
    rw [phase_update hplace]
    split
    · rename_i hj
      subst hj
      exact hmoves
    · exact .stay _
  commits := by
    rintro s ⟨i, ok⟩ s' memory j hm - hstep hcommit
    obtain ⟨place, hcall, hplace⟩ := step_cases hstep
    unfold commit at hcommit
    split at hcommit
    · rename_i hc
      obtain ⟨hc, rfl⟩ := hc
      cases hcommit
      obtain ⟨hholds, hnone, hsome⟩ := RedisCounter.callStep_commits hm hcall hc
      refine ⟨hholds, hnone, ?_, fun k hk => ?_⟩
      · rw [phase_update hplace, if_pos rfl]
        exact hsome
      · rw [phase_update hplace, if_neg hk]
        exact .stay _
    · cases hcommit

/-- A run from what Redis held is explained by calls of a memory counter, one after another, and
leaves in Redis what they leave in the counter. -/
def Explained (calls : ι → CounterCall) (redis : HashMap String ℚ) (memory : MemoryCounter)
    (tr : List (ι × Bool)) (s : CounterCalls ι) : Prop :=
  ∃ order, Linearization (step calls) (phase calls) (fun i (m : MemoryCounter) => m.call (calls i))
      (fun i m => m.answer (calls i)) (init redis) memory tr s order ∧
    s.counter.Holds (order.foldl (fun m i => m.call (calls i)) memory)

end CounterCalls

open CounterCalls

/-- **The Redis counter is linearizable.** However calls interleave and whichever commands fail, the
calls whose command succeeded are explained by a sequential run of a memory counter that starts
with the numbers in Redis, and Redis holds what that counter holds at the end. This takes a failed
command to have done nothing in Redis, and `INCRBYFLOAT` to add exactly. -/
theorem redis_calls_linearizable {ι : Type} [DecidableEq ι] {calls : ι → CounterCall}
    {redis : HashMap String ℚ} {memory : MemoryCounter} {tr : List (ι × Bool)}
    {s : CounterCalls ι} (hredis : (RedisCounter.new redis).Holds memory)
    (hrun : Steps (step calls) (init redis) tr s) :
    Explained calls redis memory tr s :=
  ⟨_, committing.linearizable hrun hredis fun _ => rfl⟩

/-- An add of 5 and a read. -/
def crossingCalls (i : Fin 2) : CounterCall := if i = 0 then .add (.user 1) 5 else .get (.user 1)

/-- The add runs between the `GET` of the read and its write of the shadow. -/
def crossingSteps : List (Fin 2 × Bool) :=
  [(1, true), (0, true), (0, true), (0, true), (1, true), (1, true)]

/-- The read answers 0, as before the add; Redis has the 5, which the shadow has lost. -/
theorem redis_calls_linearizable_sample : ∃ s,
    exec (step crossingCalls) (init ∅) crossingSteps = some s ∧
      s.place 1 = .returned (some 0) true ∧ s.counter.held (.user 1) = 5 ∧
      s.counter.shadow.get (.user 1) = 0 ∧
      Explained crossingCalls ∅ ∅ crossingSteps s := by
  have hempty : (RedisCounter.new ∅).Holds ∅ := fun _ => rfl
  obtain ⟨s, hs⟩ : ∃ s, exec (step crossingCalls) (init ∅) crossingSteps = some s :=
    ⟨_, rfl⟩
  refine ⟨s, hs, ?_, ?_, ?_, redis_calls_linearizable hempty (steps_of_exec hs)⟩
  · cases hs
    decide +kernel
  · cases hs
    decide +kernel
  · cases hs
    decide +kernel

end LiteAgentify
