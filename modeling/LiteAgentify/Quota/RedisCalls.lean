import LiteAgentify.Lib.Linearizable
import LiteAgentify.Quota.Redis

/-!
# Calls of a Redis counter that run together

The bodies of `RedisCounter` in `src/quota/counter.rs` as separate steps: each Redis command, each
operation on the shadow (which holds its lock) and each swap of the `degraded` flag is one step.
Requests and the reconciliation loop share the counter, so their calls interleave; any command may
fail.
-/

set_option autoImplicit false

namespace LiteAgentify

/-- How far a call has come. -/
inductive CounterPlace
  | start
  /-- `add` or `reset` has written the shadow. -/
  | shadowed
  /-- The command is answered, with the number that the key then holds, or has failed. -/
  | replied (reply : Option ℚ)
  /-- `get` has noted the outcome. -/
  | noted (reply : Option ℚ)
  /-- `get` returns a number; `ok` says whether the command succeeded. -/
  | returned (answer : Option ℚ) (ok : Bool)
  deriving DecidableEq

namespace RedisCounter

/-- `INCRBYFLOAT` or `SET` to a value; a command that fails changes nothing. -/
def send (counter : RedisCounter) (scope : Scope) (value : ℚ) (ok : Bool) :
    RedisCounter × CounterPlace :=
  if ok then
    ({ counter with redis := counter.redis.insert scope.redisKey value }, .replied (some value))
  else (counter, .replied none)

/-- The next step of a call; `ok` says whether a command succeeds. -/
def callStep (counter : RedisCounter) (ok : Bool) :
    CounterCall → CounterPlace → Option (RedisCounter × CounterPlace)
  | .get scope, .start =>
    some (counter, .replied (if ok then some (counter.held scope) else none))
  | .get _, .replied reply => some (counter.noteOutcome reply.isSome, .noted reply)
  -- keeps the shadow warm
  | .get scope, .noted (some parsed) =>
    some ({ counter with shadow := counter.shadow.reset scope parsed },
      .returned (some parsed) true)
  | .get scope, .noted none => some (counter, .returned (some (counter.shadow.get scope)) false)
  | .add scope cost, .start =>
    some ({ counter with shadow := counter.shadow.add scope cost }, .shadowed)
  | .add scope cost, .shadowed => some (counter.send scope (counter.held scope + cost) ok)
  | .reset scope value, .start =>
    some ({ counter with shadow := counter.shadow.reset scope value }, .shadowed)
  | .reset scope value, .shadowed => some (counter.send scope value ok)
  | .add _ _, .replied reply | .reset _ _, .replied reply =>
    some (counter.noteOutcome reply.isSome, .returned none reply.isSome)
  | _, _ => none

end RedisCounter

/-- The counter and the places of the calls on it. -/
structure CounterCalls (ι : Type) where
  counter : RedisCounter
  place : ι → CounterPlace

namespace CounterCalls

variable {ι : Type} [DecidableEq ι] (calls : ι → CounterCall)

def init (redis : HashMap String ℚ) : CounterCalls ι := ⟨.new redis, fun _ => .start⟩

/-- The next step of call `i`. -/
def step (s : CounterCalls ι) (l : ι × Bool) : Option (CounterCalls ι) :=
  (s.counter.callStep l.2 (calls l.1) (s.place l.1)).map fun (counter, place) =>
    { counter := counter, place := Function.update s.place l.1 place }

end CounterCalls

end LiteAgentify
