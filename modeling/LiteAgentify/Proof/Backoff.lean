import LiteAgentify.Proof.Failover
import LiteAgentify.Proxy.Checked
import Mathlib.Algebra.Order.BigOperators.Group.List

/-!
# How long a request waits

`attemptLoop_paced`: within the attempts on one deployment a wait comes after an answered attempt
and before the next one, and it is bounded by the policy (`IsWait`). The effects of a request are
those of the attempts on its deployments, one after another (`failoverLoop_blocks`), which bounds
the sum of its waits (`waits_bounded`). In machine integers nothing overflows on the way
(`backoffDelayChecked_eq`).
-/

set_option autoImplicit false

namespace LiteAgentify

/-! ## One wait -/

namespace RetryPolicy

variable {retry : RetryPolicy} {attempt : Nat} {jitter : ℚ}

/-- A fraction of a whole number, rounded down. -/
theorem floor_fraction_le (ceiling : Nat) (jitter : ℚ) :
    (Rat.floor (ceiling * max 0 (min 1 jitter))).toNat ≤ ceiling := by
  have hfraction : max 0 (min 1 jitter) ≤ 1 := max_le (by norm_num) (min_le_left ..)
  have hle : (ceiling : ℚ) * max 0 (min 1 jitter) ≤ ceiling := by
    have := mul_le_mul_of_nonneg_left hfraction (Nat.cast_nonneg (α := ℚ) ceiling)
    simpa using this
  rw [Int.toNat_le]
  have hfloor : Rat.floor (ceiling * max 0 (min 1 jitter)) ≤ ((ceiling : Int) : ℚ) :=
    le_trans (Int.floor_le (ceiling * max 0 (min 1 jitter) : ℚ)) (by exact_mod_cast hle)
  exact_mod_cast hfloor

theorem floor_fraction_nonneg (ceiling : Nat) (jitter : ℚ) :
    0 ≤ Rat.floor (ceiling * max 0 (min 1 jitter)) := by
  show 0 ≤ ⌊(ceiling : ℚ) * max 0 (min 1 jitter)⌋
  exact Int.floor_nonneg.2 (mul_nonneg (Nat.cast_nonneg ceiling) (le_max_left ..))

/-- The saturating product is at most the exact one, also past a shift by 63. -/
theorem backoffMs_le : retry.backoffMs attempt jitter ≤
    min retry.maxDelayMs (retry.baseDelayMs * 2 ^ attempt) := by
  have hpow : retry.baseDelayMs * 2 ^ min attempt 63 ≤ retry.baseDelayMs * 2 ^ attempt :=
    Nat.mul_le_mul_left _ (Nat.pow_le_pow_right (by decide) (Nat.min_le_left ..))
  refine (floor_fraction_le _ jitter).trans (le_min (Nat.min_le_right ..) ?_)
  exact ((Nat.min_le_left ..).trans (Nat.min_le_left ..)).trans hpow

theorem capDelayMs_le (delayMs : Nat) : retry.capDelayMs delayMs ≤ retry.maxDelayMs :=
  Nat.min_le_right ..

end RetryPolicy

namespace ProxyContext

variable {P : Packages} {env : Env} {ctx : ProxyContext} {provider : Provider}
  {providerBody : ProviderBody} {request : UpstreamRequest} {isLast : Bool}

/-- A wait after an attempt, numbered from 0 on its deployment, that got this response; `sent` sends
of the request precede the wait. -/
structure IsWait (P : Packages) (env : Env) (ctx : ProxyContext) (attempt sent : Nat)
    (upstream : UpstreamResponse) (delay : Nat) : Prop where
  retryable : ctx.state.retryPolicy.isRetryable upstream.status = true
  /-- It is not the last attempt. -/
  attempt_lt : attempt + 1 < ctx.state.retryPolicy.maxAttempts
  le_max : delay ≤ ctx.state.retryPolicy.maxDelayMs
  le_backoff : parseRetryAfterMs P upstream.headers (env.now sent) = none →
    delay ≤ min ctx.state.retryPolicy.maxDelayMs (ctx.state.retryPolicy.baseDelayMs * 2 ^ attempt)

theorem backoffDelay_isWait {attempt sent : Nat} {upstream : UpstreamResponse}
    (hretry : ctx.state.retryPolicy.isRetryable upstream.status = true)
    (hlt : attempt + 1 < ctx.state.retryPolicy.maxAttempts) :
    ctx.IsWait P env attempt sent upstream
      (ctx.backoffDelay P env attempt sent upstream.headers) := by
  unfold backoffDelay
  cases hparse : parseRetryAfterMs P upstream.headers (env.now sent) with
  | some retryAfterMs =>
    exact ⟨hretry, hlt, RetryPolicy.capDelayMs_le _, fun h => by rw [hparse] at h; cases h⟩
  | none =>
    exact ⟨hretry, hlt, RetryPolicy.backoffMs_le.trans (Nat.min_le_left ..),
      fun _ => RetryPolicy.backoffMs_le⟩

end ProxyContext

/-! ## The attempts on one deployment -/

/-- The waits among the effects. -/
def waits (effects : List Effect) : List Nat :=
  effects.filterMap fun
    | .sleep delay => some delay
    | _ => none

@[simp] theorem waits_nil : waits [] = [] := rfl

@[simp] theorem waits_send (provider : Provider) (request : UpstreamRequest) (outcome : Outcome)
    (effects : List Effect) : waits (.send provider request outcome :: effects) = waits effects :=
  rfl

@[simp] theorem waits_sleep (delay : Nat) (effects : List Effect) :
    waits (.sleep delay :: effects) = delay :: waits effects := rfl

theorem waits_flatten (blocks : List (List Effect)) :
    waits blocks.flatten = (blocks.map waits).flatten := by
  rw [waits, List.filterMap_flatten]
  rfl

theorem mem_waits {delay : Nat} {effects : List Effect} :
    delay ∈ waits effects ↔ .sleep delay ∈ effects := by
  rw [waits, List.mem_filterMap]
  constructor
  · rintro ⟨effect, hmem, heq⟩
    cases effect <;> cases heq
    exact hmem
  · exact fun h => ⟨_, h, rfl⟩

theorem waits_accounting (effects : List Effect) : waits (accounting effects) = [] := by
  rw [List.eq_nil_iff_forall_not_mem]
  intro delay hdelay
  have hmem := (List.mem_filter.1 (mem_waits.1 hdelay)).2
  cases hmem

namespace ProxyContext

variable {P : Packages} {env : Env} {ctx : ProxyContext} {provider : Provider}
  {providerBody : ProviderBody} {request : UpstreamRequest} {isLast : Bool}

/-- The effects of the attempts on a deployment from the one numbered `attempt` on, of which `left`
are left and before which the request has sent `sent` times. A wait comes right after an attempt and
before another one; there are fewer waits than attempts left. -/
structure PacedFrom (P : Packages) (env : Env) (ctx : ProxyContext) (attempt sent left : Nat)
    (effects : List Effect) : Prop where
  after_attempt : ∀ before delay after, effects = before ++ .sleep delay :: after →
    ∃ earlier provider request upstream,
      before = earlier ++ [.send provider request (.ok upstream)] ∧
      ctx.IsWait P env (attempt + (sends earlier).length) (sent + (sends earlier).length + 1)
        upstream delay
  before_attempt : ∀ before delay after, effects = before ++ .sleep delay :: after →
    sends after ≠ []
  waits_le : (waits effects).length ≤ left - 1

/-- An attempt that is not retried. -/
theorem pacedFrom_of_no_wait {attempt sent left : Nat} {effects : List Effect}
    (h : waits effects = []) : ctx.PacedFrom P env attempt sent left effects := by
  have hnone : ∀ before delay after, effects ≠ before ++ .sleep delay :: after := by
    rintro before delay after rfl
    have hmem : delay ∈ waits (before ++ .sleep delay :: after) := mem_waits.2 (by simp)
    rw [h] at hmem
    cases hmem
  exact ⟨fun _ _ _ heq => absurd heq (hnone _ _ _), fun _ _ _ heq => absurd heq (hnone _ _ _),
    by simp [h]⟩

/-- A retried attempt and its wait, before the rest. -/
theorem PacedFrom.cons {attempt sent left delay : Nat} {effects : List Effect}
    {upstream : UpstreamResponse}
    (h : ctx.PacedFrom P env (attempt + 1) (sent + 1) left effects) (hleft : left ≠ 0)
    (hwait : ctx.IsWait P env attempt (sent + 1) upstream delay) (hsends : sends effects ≠ []) :
    ctx.PacedFrom P env attempt sent (left + 1)
      (.send provider request (.ok upstream) :: .sleep delay :: effects) := by
  -- a wait in the effects is the first one, or a wait of the rest
  have hcases : ∀ before delay' after,
      Effect.send provider request (.ok upstream) :: .sleep delay :: effects =
        before ++ .sleep delay' :: after →
      (before = [.send provider request (.ok upstream)] ∧ delay' = delay ∧ after = effects) ∨
        ∃ before', before = .send provider request (.ok upstream) :: .sleep delay :: before' ∧
          effects = before' ++ .sleep delay' :: after := by
    intro before delay' after heq
    rcases before with _ | ⟨first, _ | ⟨second, before'⟩⟩
    · cases heq
    · cases heq
      exact .inl ⟨rfl, rfl, rfl⟩
    · cases heq
      exact .inr ⟨before', rfl, rfl⟩
  refine ⟨fun before delay' after heq => ?_, fun before delay' after heq => ?_, ?_⟩
  · obtain ⟨rfl, rfl, rfl⟩ | ⟨before', rfl, heq'⟩ := hcases before delay' after heq
    · exact ⟨[], provider, request, upstream, rfl, by simpa using hwait⟩
    · obtain ⟨earlier, provider', request', upstream', rfl, hw⟩ := h.after_attempt _ _ _ heq'
      refine ⟨.send provider request (.ok upstream) :: .sleep delay :: earlier, provider',
        request', upstream', rfl, ?_⟩
      have hattempt : attempt + ((sends earlier).length + 1) =
          attempt + 1 + (sends earlier).length := by omega
      have hsent : sent + ((sends earlier).length + 1) + 1 =
          sent + 1 + (sends earlier).length + 1 := by omega
      rw [sends_send, sends_sleep, List.length_cons, hattempt, hsent]
      exact hw
  · obtain ⟨-, -, rfl⟩ | ⟨before', -, heq'⟩ := hcases before delay' after heq
    · exact hsends
    · exact h.before_attempt _ _ _ heq'
  · have hle := h.waits_le
    rw [waits_send, waits_sleep, List.length_cons]
    omega

/-- Forwarding a response waits for nothing. -/
theorem waits_forward (provider : Provider) (providerBody : ProviderBody)
    (upstream : UpstreamResponse) (sent : Nat) :
    waits (ctx.forwardUpstreamResponse P env provider providerBody upstream sent).2 = [] := by
  rw [← (forward_effects provider providerBody upstream sent).2]
  exact waits_accounting _

/-- The retry loop from the attempt numbered `attempt` on, with `left` attempts left. -/
theorem attemptLoop_paced {attempt left : Nat} (sent : Nat)
    (hleft : attempt + left = ctx.state.retryPolicy.maxAttempts) :
    ctx.PacedFrom P env attempt sent left
      (ctx.attemptLoop P env provider providerBody request isLast left sent).2 := by
  induction left generalizing attempt sent with
  | zero => exact pacedFrom_of_no_wait rfl
  | succ left ih =>
    obtain ⟨-, hloop⟩ | ⟨upstream, -, ⟨-, hloop⟩ | ⟨hr, hl, hloop⟩⟩ :=
      @attemptLoop_cases P env ctx provider providerBody request isLast left sent (by omega)
    · rw [hloop]
      exact pacedFrom_of_no_wait rfl
    · rw [hloop]
      exact pacedFrom_of_no_wait (waits_forward provider providerBody upstream (sent + 1))
    · have hattempt : ctx.state.retryPolicy.maxAttempts - (left + 1) = attempt := by omega
      obtain ⟨block, hne, -, -, -, hsends, -⟩ := @attemptLoop_block P env ctx provider
        providerBody request isLast left (sent + 1) hl (by omega)
      rw [hloop, hattempt]
      exact (ih (sent + 1) (by omega)).cons hl (backoffDelay_isWait hr (by omega))
        (by simp [hsends, hne])

/-- The effects of all attempts on a deployment. -/
abbrev Paced (P : Packages) (env : Env) (ctx : ProxyContext) (sent : Nat)
    (effects : List Effect) : Prop :=
  ctx.PacedFrom P env 0 sent ctx.state.retryPolicy.maxAttempts effects

theorem attemptProvider_paced (upstreamModel : String) (sent : Nat) :
    ctx.Paced P env sent (ctx.attemptProvider P env provider upstreamModel isLast sent).2 := by
  unfold attemptProvider
  split
  · exact pacedFrom_of_no_wait rfl
  · split
    · exact pacedFrom_of_no_wait rfl
    · split
      · exact pacedFrom_of_no_wait rfl
      · exact attemptLoop_paced sent (Nat.zero_add _)

/-- All attempts on a deployment are sent to its provider. -/
theorem attemptProvider_sends (upstreamModel : String) (sent : Nat) :
    ∀ send ∈ sends (ctx.attemptProvider P env provider upstreamModel isLast sent).2,
      send.1 = provider := by
  unfold attemptProvider
  split
  · simp
  · split
    · simp
    · split
      · simp
      · cases hmax : ctx.state.retryPolicy.maxAttempts with
        | zero => simp [attemptLoop]
        | succ left =>
          obtain ⟨block, -, -, -, -, hsends, -⟩ := attemptLoop_block provider _ _ isLast sent
            (Nat.succ_ne_zero left) (Nat.le_of_eq hmax.symm)
          rw [hsends]
          simp

/-! ## The chain -/

/-- The effects of a request: those of the attempts on the deployments of a beginning of the chain,
one after another. -/
theorem failoverLoop_blocks {count : Nat} (chain : List ResolvedDeployment) (index : Nat)
    (lastError : Option ProxyResponse) (sent : Nat) :
    ∃ blocks : List (List Effect), blocks.length ≤ chain.length ∧
      (ctx.failoverLoop P env count chain index lastError sent).2 = blocks.flatten ∧
      ∀ before block after, blocks = before ++ block :: after →
        ∃ deployment isLast, chain[before.length]? = some deployment ∧
          block = (ctx.attemptProvider P env deployment.provider deployment.upstreamModel isLast
            (sent + (sends before.flatten).length)).2 := by
  induction chain generalizing index lastError sent with
  | nil => exact ⟨[], le_rfl, rfl, fun before block after h => by simp at h⟩
  | cons deployment rest ih =>
    simp only [failoverLoop]
    rcases hatt : ctx.attemptProvider P env deployment.provider deployment.upstreamModel
      (index + 1 = count) sent with ⟨result, effects⟩
    cases result with
    | forward response =>
      refine ⟨[effects], by simp, by simp, fun before block after h => ?_⟩
      rcases before with _ | ⟨first, before⟩
      · cases h
        exact ⟨deployment, decide (index + 1 = count), rfl, by simp [hatt]⟩
      · simp at h
    | failover response =>
      obtain ⟨blocks, hlen, hflat, hblocks⟩ :=
        ih (index + 1) (some response) (sent + (sends effects).length)
      refine ⟨effects :: blocks, by simpa using hlen, by simp [hflat],
        fun before block after h => ?_⟩
      rcases before with _ | ⟨first, before⟩
      · cases h
        exact ⟨deployment, decide (index + 1 = count), rfl, by simp [hatt]⟩
      · cases h
        obtain ⟨next, isLast, hget, hblock⟩ := hblocks before block after rfl
        refine ⟨next, isLast, by simpa using hget, ?_⟩
        rw [hblock, List.flatten_cons, sends_append, List.length_append, Nat.add_assoc]

end ProxyContext

/-- Waits of at most `delay`, at most `count` of them in each block. -/
theorem sum_waits_le {blocks : List (List Effect)} {delay count : Nat}
    (hdelay : ∀ wait ∈ waits blocks.flatten, wait ≤ delay)
    (hcount : ∀ block ∈ blocks, (waits block).length ≤ count) :
    (waits blocks.flatten).sum ≤ blocks.length * count * delay := by
  have hlength : (waits blocks.flatten).length ≤ blocks.length * count := by
    have hsum := List.sum_le_card_nsmul (blocks.map (List.length ∘ waits)) count
      (by simpa using hcount)
    rw [waits_flatten, List.length_flatten, List.map_map]
    simpa using hsum
  calc (waits blocks.flatten).sum
      ≤ (waits blocks.flatten).length * delay := by
        simpa using List.sum_le_card_nsmul _ delay hdelay
    _ ≤ blocks.length * count * delay := Nat.mul_le_mul_right _ hlength

/-! ## Machine integers -/

theorem RetryPolicy.backoffMsChecked_eq {retry : RetryPolicy} (hfits : retry.Fits) (attempt : Nat)
    (jitter : ℚ) :
    retry.backoffMsChecked attempt jitter = some (retry.backoffMs attempt jitter) := by
  have hshift : Machine.shl 64 1 (min attempt 63) = some (2 ^ min attempt 63) :=
    Machine.shl_one (Nat.lt_succ_of_le (Nat.min_le_right ..))
  rw [backoffMsChecked, hshift]
  show Machine.toUnsigned 64 (Rat.floor (_ * max 0 (min 1 jitter))) = _
  have hnonneg := floor_fraction_nonneg
    (min (Machine.saturatingMul 64 retry.baseDelayMs (2 ^ min attempt 63)) retry.maxDelayMs) jitter
  have hlt := ((floor_fraction_le _ jitter).trans (Nat.min_le_right
    (Machine.saturatingMul 64 retry.baseDelayMs (2 ^ min attempt 63)) retry.maxDelayMs)).trans_lt
    hfits.max
  exact Machine.toUnsigned_of_nonneg hnonneg hlt

section
variable {P : Packages} {now : DateTime}

theorem parseRetryAfterMsChecked_eq (hnow : InChronoRange now)
    (hdates : ∀ text date, P.parseRfc2822 text = some date → InChronoRange date)
    (headers : HeaderMap) :
    parseRetryAfterMsChecked P headers now = some (parseRetryAfterMs P headers now) := by
  unfold parseRetryAfterMsChecked parseRetryAfterMs
  cases hget : headers.get "retry-after" with
  | none => rfl
  | some bytes =>
    cases hstr : P.headerToStr bytes with
    | none => simp [hstr]
    | some value =>
      cases hseconds : Text.parseU64 (Text.trim value) with
      | some seconds => simp [hstr, hseconds, Machine.saturatingMul]
      | none =>
        cases hdate : P.parseRfc2822 (Text.trim value) with
        | none => simp [hstr, hseconds, hdate]
        | some target =>
          obtain ⟨hlow, hhigh⟩ := hdates _ _ hdate
          obtain ⟨hlow', hhigh'⟩ := hnow
          have hsigned : Machine.toSigned 64 (target - now) = some (target - now) :=
            Machine.toSigned_eq (by omega) (by omega)
          simp only [hstr, hseconds, hdate, hsigned, Option.bind_some, Option.bind_eq_bind,
            Option.pure_def]
          exact congrArg some (Machine.toUnsigned_filter_pos (by omega))

/-- **Nothing overflows**: in machine integers a wait is what it is in whole numbers. -/
theorem backoffDelayChecked_eq {env : Env} {ctx : ProxyContext} (hfits : ctx.state.retryPolicy.Fits)
    (hnow : ∀ sent, InChronoRange (env.now sent))
    (hdates : ∀ text date, P.parseRfc2822 text = some date → InChronoRange date)
    (attempt sent : Nat) (headers : HeaderMap) :
    ctx.backoffDelayChecked P env attempt sent headers =
      some (ctx.backoffDelay P env attempt sent headers) := by
  unfold ProxyContext.backoffDelayChecked ProxyContext.backoffDelay
  rw [parseRetryAfterMsChecked_eq (hnow sent) hdates]
  cases parseRetryAfterMs P headers (env.now sent) with
  | some retryAfterMs => rfl
  | none => exact RetryPolicy.backoffMsChecked_eq hfits _ _

end

/-! ## The request -/

/-- **Backoff is bounded over the whole request**, for every retry policy, chain, sequence of
answers and fraction: the effects are those of the attempts on the deployments of the chain, and in
each of these the waits are as `PacedFrom` says, so the sum of all waits is bounded; a request that
is not admitted does not wait. Where the policy fits its integer types nothing overflows. -/
theorem waits_bounded (P : Packages) (env : Env) (state : GatewayState) (request : Request) :
    (IsEmpty (Admission P env state request) → waits (proxy P env state request).2 = []) ∧
    ∀ a : Admission P env state request,
      (∃ blocks : List (List Effect), blocks.length ≤ a.chain.length ∧
        (proxy P env state request).2 = blocks.flatten ∧
        ∀ before block after, blocks = before ++ block :: after →
          (∃ deployment, a.chain[before.length]? = some deployment ∧
            ∀ send ∈ sends block, send.1 = deployment.provider) ∧
          a.context.Paced P env (sends before.flatten).length block) ∧
      (∀ delay ∈ waits (proxy P env state request).2, delay ≤ state.retryPolicy.maxDelayMs) ∧
      (waits (proxy P env state request).2).sum ≤
        a.chain.length * (state.retryPolicy.maxAttempts - 1) * state.retryPolicy.maxDelayMs ∧
      (state.retryPolicy.Fits → (∀ sent, InChronoRange (env.now sent)) →
        (∀ text date, P.parseRfc2822 text = some date → InChronoRange date) →
        ∀ attempt sent headers, attempt < state.retryPolicy.maxAttempts →
          Machine.add 32 attempt 1 = some (attempt + 1) ∧
          a.context.backoffDelayChecked P env attempt sent headers =
            some (a.context.backoffDelay P env attempt sent headers)) := by
  refine ⟨fun h => by rw [(proxy_rejected h).1]; rfl, fun a => ?_⟩
  obtain ⟨blocks, hlen, hflat, hblocks⟩ :=
    @ProxyContext.failoverLoop_blocks P env a.context a.chain.length a.chain 0 none 0
  rw [← proxy_admitted a] at hflat
  have hpaced : ∀ before block after, blocks = before ++ block :: after →
      (∃ deployment, a.chain[before.length]? = some deployment ∧
        ∀ send ∈ sends block, send.1 = deployment.provider) ∧
      a.context.Paced P env (sends before.flatten).length block := by
    intro before block after h
    obtain ⟨deployment, isLast, hget, rfl⟩ := hblocks before block after h
    rw [Nat.zero_add]
    exact ⟨⟨deployment, hget, ProxyContext.attemptProvider_sends _ _⟩,
      ProxyContext.attemptProvider_paced _ _⟩
  have hcount : ∀ block ∈ blocks, (waits block).length ≤ state.retryPolicy.maxAttempts - 1 := by
    intro block hblock
    obtain ⟨before, after, h⟩ := List.append_of_mem hblock
    exact (hpaced before block after h).2.waits_le
  have hdelay : ∀ delay ∈ waits blocks.flatten, delay ≤ state.retryPolicy.maxDelayMs := by
    intro delay hmem
    obtain ⟨block, hblock, hwait⟩ := List.mem_flatten.1 (mem_waits.1 hmem)
    obtain ⟨before, after, h⟩ := List.append_of_mem hblock
    obtain ⟨before', after', h'⟩ := List.append_of_mem hwait
    obtain ⟨_, _, _, _, -, hbound⟩ :=
      (hpaced before block after h).2.after_attempt before' delay after' h'
    exact hbound.le_max
  refine ⟨⟨blocks, hlen, hflat, hpaced⟩, ?_, ?_, ?_⟩
  · rw [hflat]
    exact hdelay
  · rw [hflat]
    refine (sum_waits_le hdelay hcount).trans ?_
    exact Nat.mul_le_mul_right _ (Nat.mul_le_mul_right _ hlen)
  · intro hfits hnow hdates attempt sent headers hlt
    have hattempts := hfits.attempts
    exact ⟨Machine.add_eq (by omega), backoffDelayChecked_eq hfits hnow hdates attempt sent headers⟩

/-- A rate limit with a `Retry-After` of an hour, one without, and a response. -/
def sampleLimitedEnv : Env :=
  { sampleEnv with
    answer
      | 0 => .ok ⟨429, [("retry-after", Text.asBytes "3600")], ⟨[], none⟩⟩
      | 1 => .ok ⟨429, [], ⟨[], none⟩⟩
      | _ => .ok ⟨200, [("content-type", Text.asBytes "application/json")], ⟨[], none⟩⟩
    jitter := fun _ => 1 / 2 }

def sampleLimitedAdmission :
    Admission samplePackages sampleLimitedEnv sampleState sampleRequest where
  identity := sampleAdmission.identity
  body := sampleAdmission.body
  model := sampleAdmission.model
  chain := sampleAdmission.chain
  authorized := sampleAdmission.authorized
  allowed := sampleAdmission.allowed
  readable := sampleAdmission.readable
  hasModel := sampleAdmission.hasModel
  resolved := sampleAdmission.resolved

/-- The header is capped, the backoff of the next attempt is half of two seconds. -/
theorem waits_bounded_sample :
    waits (proxy samplePackages sampleLimitedEnv sampleState sampleRequest).2 = [8000, 1000] ∧
      (waits (proxy samplePackages sampleLimitedEnv sampleState sampleRequest).2).sum ≤
        2 * (4 - 1) * 8000 :=
  ⟨by decide +kernel,
    ((waits_bounded samplePackages sampleLimitedEnv sampleState sampleRequest).2
      sampleLimitedAdmission).2.2.1⟩

end LiteAgentify
