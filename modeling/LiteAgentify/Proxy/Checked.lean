import LiteAgentify.Lib.Machine
import LiteAgentify.Proxy.Router

/-!
# The waits in machine integers

`backoff_ms`, `parse_retry_after_ms` and `backoff_delay` with the operators of `u32`, `u64` and
`i64`: nothing is returned where a shift, a product or a conversion overflows. The fraction is still
taken exactly.
-/

set_option autoImplicit false

namespace LiteAgentify

/-- The fields of a retry policy are a `u32` and two `u64`. -/
structure RetryPolicy.Fits (retry : RetryPolicy) : Prop where
  attempts : retry.maxAttempts < 2 ^ 32
  base : retry.baseDelayMs < 2 ^ 64
  max : retry.maxDelayMs < 2 ^ 64

/-- A time that chrono can represent: the years from -262143 to 262142 are well within these bounds,
in milliseconds. -/
def InChronoRange (time : Int) : Prop := -2 ^ 62 ≤ time ∧ time < 2 ^ 62

def RetryPolicy.backoffMsChecked (retry : RetryPolicy) (attempt : Nat) (jitter : ℚ) :
    Option Nat := do
  let factor ← Machine.shl 64 1 (min attempt 63)
  let ceiling := min (Machine.saturatingMul 64 retry.baseDelayMs factor) retry.maxDelayMs
  Machine.toUnsigned 64 (Rat.floor (ceiling * max 0 (min 1 jitter)))

/-- The inner value is what `parse_retry_after_ms` returns. -/
def parseRetryAfterMsChecked (P : Packages) (headers : HeaderMap) (now : DateTime) :
    Option (Option Nat) :=
  match (headers.get "retry-after").bind P.headerToStr with
  | none => some none
  | some value =>
    match Text.parseU64 (Text.trim value) with
    | some seconds => some (some (Machine.saturatingMul 64 seconds 1000))
    | none =>
      match P.parseRfc2822 (Text.trim value) with
      | none => some none
      | some target => do
        let delta ← Machine.toSigned 64 (target - now)
        -- a date in the past is not a `u64`
        return (Machine.toUnsigned 64 delta).filter (0 < ·)

def ProxyContext.backoffDelayChecked (P : Packages) (env : Env) (ctx : ProxyContext)
    (attempt sent : Nat) (headers : HeaderMap) : Option Nat := do
  match ← parseRetryAfterMsChecked P headers (env.now sent) with
  | some retryAfterMs => return ctx.state.retryPolicy.capDelayMs retryAfterMs
  | none => ctx.state.retryPolicy.backoffMsChecked attempt (env.jitter sent)

end LiteAgentify
