import LiteAgentify.Quota.Reconcile

/-!
# The Redis counter

`RedisCounter` of `src/quota/counter.rs`: `GET`, `INCRBYFLOAT` and `SET` on one Redis value for each
scope, with an in-memory shadow for the commands that fail. The texts Redis holds stand for their
numbers, a failed command leaves Redis alone, and decimal arithmetic is exact.
-/

set_option autoImplicit false

namespace LiteAgentify

def Scope.redisKey : Scope → String
  | .user id => s!"spent:user:{id}"
  | .key id => s!"spent:key:{id}"

/-- A call of `SpendCounter`. -/
inductive CounterCall
  | get (scope : Scope)
  | add (scope : Scope) (cost : ℚ)
  | reset (scope : Scope) (value : ℚ)
  deriving DecidableEq

/-- What a call does to a memory counter. -/
def MemoryCounter.call (counter : MemoryCounter) : CounterCall → MemoryCounter
  | .get _ => counter
  | .add scope cost => counter.add scope cost
  | .reset scope value => counter.reset scope value

structure RedisCounter where
  /-- The values behind `connection`. -/
  redis : HashMap String ℚ
  shadow : MemoryCounter
  degraded : Bool

namespace RedisCounter

/-- A new counter on what Redis holds. -/
def new (redis : HashMap String ℚ) : RedisCounter := ⟨redis, ∅, false⟩

/-- The number `GET` gives; a missing value is zero. -/
def held (counter : RedisCounter) (scope : Scope) : ℚ :=
  (counter.redis.lookup scope.redisKey).getD 0

/-- Remembers whether the last command failed, for the log. -/
def noteOutcome (counter : RedisCounter) (ok : Bool) : RedisCounter :=
  { counter with degraded := !ok }

/-- A read, with whether its `GET` succeeds: the value, and the counter with a warm shadow. -/
def get (counter : RedisCounter) (scope : Scope) (ok : Bool) : ℚ × RedisCounter :=
  let counter := counter.noteOutcome ok
  if ok then
    let parsed := counter.held scope
    (parsed, { counter with shadow := counter.shadow.reset scope parsed })
  else (counter.shadow.get scope, counter)

/-- The shadow always advances; `INCRBYFLOAT` may fail. -/
def add (counter : RedisCounter) (scope : Scope) (cost : ℚ) (ok : Bool) : RedisCounter :=
  let counter := { counter with shadow := counter.shadow.add scope cost }
  let redis :=
    if ok then counter.redis.insert scope.redisKey (counter.held scope + cost) else counter.redis
  noteOutcome { counter with redis := redis } ok

/-- The shadow is always set; `SET` may fail. -/
def reset (counter : RedisCounter) (scope : Scope) (value : ℚ) (ok : Bool) : RedisCounter :=
  let counter := { counter with shadow := counter.shadow.reset scope value }
  let redis := if ok then counter.redis.insert scope.redisKey value else counter.redis
  noteOutcome { counter with redis := redis } ok

/-- A call, with whether its command succeeds. -/
def step (counter : RedisCounter) : CounterCall × Bool → Option RedisCounter
  | (.get scope, ok) => some (counter.get scope ok).2
  | (.add scope cost, ok) => some (counter.add scope cost ok)
  | (.reset scope value, ok) => some (counter.reset scope value ok)

/-- `reconcile_counters` on a Redis counter that answers. -/
def reconcileCounters (users keys : List (Uuid × ℚ)) (counter : RedisCounter) : RedisCounter :=
  (resets users keys).foldl (fun counter entry => counter.reset entry.1 entry.2 true) counter

end RedisCounter

end LiteAgentify
