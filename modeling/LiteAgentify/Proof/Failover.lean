import LiteAgentify.Proxy.Router
import LiteAgentify.Proof.Snapshot

/-!
# Failover and retries

`failover_trace`: the sends of an admitted request are a concatenation of blocks, one for each
deployment in chain order, that follow the retry policy (`Follows`). An `Admission` is the evidence
that a request has passed every check before the chain; `proxy` runs the chain for it and does
nothing without one.
-/

set_option autoImplicit false

namespace LiteAgentify

/-! ## Admission -/

/-- A request that passes every check before the failover chain. -/
structure Admission (P : Packages) (env : Env) (state : GatewayState) (request : Request) where
  identity : KeyIdentity
  body : Bytes
  model : String
  chain : List ResolvedDeployment
  authorized : state.authorize P request.headers = some identity
  allowed : state.checkQuota identity (env.counter.get (.user identity.userId))
    (env.counter.get (.key identity.apiKeyId)) = .allowed
  readable : request.body = .ok body
  hasModel : (RequestPayload.parse P body).model = some model
  resolved : state.resolve request.endpoint.protocol model identity = .chain chain

/-- The context its attempts see. -/
def Admission.context {P : Packages} {env : Env} {state : GatewayState} {request : Request}
    (a : Admission P env state request) : ProxyContext where
  state := state
  requestId := requestId P request.headers env.freshRequestId
  path := request.endpoint.path
  query := request.query
  method := request.method
  originalHeaders := request.headers
  body := a.body
  payload := RequestPayload.parse P a.body
  identity := a.identity

/-- The response of an upstream is forwarded: its status, its forwardable headers and its body. -/
def Forwards (response : ProxyResponse) (upstream : UpstreamResponse) : Prop :=
  match response with
  | .upstream status headers body =>
    status = upstream.status ∧
    headers = upstream.headers.filter (fun header => isResponseHeaderForwardable header.1) ∧
    match body with
    | .bytes body => upstream.body.error = none ∧ body = upstream.body.chunks.flatten
    | .stream stream => stream.body = upstream.body ∧ stream.finished = false
  | _ => False

variable {P : Packages} {env : Env} {state : GatewayState} {request : Request}

theorem proxy_admitted (a : Admission P env state request) :
    proxy P env state request =
      a.context.failoverLoop P env a.chain.length a.chain 0 none 0 := by
  simp only [proxy, a.authorized, a.allowed, a.readable, a.hasModel, a.resolved]
  rfl

/-- A request that is not admitted is answered by the gateway itself, without any effect. -/
theorem proxy_rejected (h : IsEmpty (Admission P env state request)) :
    (proxy P env state request).2 = [] ∧
      ∀ status headers body, (proxy P env state request).1 ≠ .upstream status headers body := by
  unfold proxy
  cases hauth : state.authorize P request.headers with
  | none => simp
  | some identity =>
    simp only
    cases hq : state.checkQuota identity (env.counter.get (.user identity.userId))
        (env.counter.get (.key identity.apiKeyId)) with
    | userExhausted granted => simp
    | keyCapReached cap => simp
    | allowed =>
      simp only
      cases hb : request.body with
      | error e => simp
      | ok body =>
        simp only
        cases hm : (RequestPayload.parse P body).model with
        | none => simp
        | some model =>
          simp only
          cases hr : state.resolve request.endpoint.protocol model identity with
          | unknownModel => simp
          | forbidden => simp
          | wrongProtocol available => simp
          | chain chain =>
            exact (h.false ⟨identity, body, model, chain, hauth, hq, hb, hm, hr⟩).elim

/-! ## The specified trace -/

/-- The outcome has a status that is retried against the same provider. -/
def RetryPolicy.Retries (retry : RetryPolicy) : Outcome → Prop
  | .ok upstream => retry.isRetryable upstream.status
  | .error _ => False

/-- A block after which the next deployment is tried: it is empty, or its last send was a transport
error, a server error that is not retried, or a retryable status on the last of `attempts` sends to
a deployment that is not the last. -/
def RetryPolicy.GivesUp (retry : RetryPolicy) (attempts : Nat) (isLast : Bool)
    (block : List Outcome) : Prop :=
  match block.getLast? with
  | none => True
  | some (.error _) => True
  | some (.ok upstream) =>
    isServerError upstream.status ∧ ¬ retry.isRetryable upstream.status ∨
      retry.isRetryable upstream.status ∧ block.length = attempts ∧ isLast = false

/-- The request that is sent to a deployment, when its URI and headers can be built. -/
def ProxyContext.upstreamRequest (P : Packages) (ctx : ProxyContext)
    (deployment : ResolvedDeployment) : Option UpstreamRequest :=
  match bodyForDeployment P ctx.body ctx.payload deployment.upstreamModel,
    upstreamUri P deployment.provider ctx.path ctx.query,
    outboundHeaders P ctx.originalHeaders deployment.provider with
  | .ok providerBody, .ok uri, .ok headers =>
    some { method := ctx.method, uri := uri, headers := headers, body := providerBody.body }
  | _, _, _ => none

/-- The sends to one deployment, as they must be whatever they come to. -/
structure ProxyContext.IsBlock (P : Packages) (ctx : ProxyContext)
    (deployment : ResolvedDeployment) (block : List Outcome) : Prop where
  empty : block = [] ↔ ctx.upstreamRequest P deployment = none
  length_le : block.length ≤ ctx.state.retryPolicy.maxAttempts
  retries : ∀ outcome ∈ block.dropLast, ctx.state.retryPolicy.Retries outcome

/-- **The specified trace**: the blocks of the deployments of a chain, and the response that is
forwarded, `none` when the chain is exhausted. -/
inductive ProxyContext.Follows (P : Packages) (ctx : ProxyContext) :
    List ResolvedDeployment → List (List Outcome) →
      Option (ResolvedDeployment × UpstreamResponse) → Prop
  | exhausted : Follows P ctx [] [] none
  /-- The next block starts. -/
  | next {deployment : ResolvedDeployment} {rest : List ResolvedDeployment}
      {block : List Outcome} {blocks : List (List Outcome)}
      {forwarded : Option (ResolvedDeployment × UpstreamResponse)} :
      ctx.IsBlock P deployment block →
      ctx.state.retryPolicy.GivesUp ctx.state.retryPolicy.maxAttempts rest.isEmpty block →
      Follows P ctx rest blocks forwarded →
      Follows P ctx (deployment :: rest) (block :: blocks) forwarded
  /-- The response of the last send is forwarded, and nothing further is sent. -/
  | forward {deployment : ResolvedDeployment} {rest : List ResolvedDeployment}
      {block : List Outcome} {upstream : UpstreamResponse} :
      ctx.IsBlock P deployment block →
      ¬ ctx.state.retryPolicy.GivesUp ctx.state.retryPolicy.maxAttempts rest.isEmpty block →
      block.getLast? = some (.ok upstream) →
      Follows P ctx (deployment :: rest) [block] (some (deployment, upstream))

/-- The sends that the blocks stand for. -/
def ProxyContext.blockSends (P : Packages) (ctx : ProxyContext) (chain : List ResolvedDeployment)
    (blocks : List (List Outcome)) : List (Provider × UpstreamRequest × Outcome) :=
  (chain.zip blocks).flatMap fun (deployment, block) =>
    (ctx.upstreamRequest P deployment).toList.flatMap fun request =>
      block.map fun outcome => (deployment.provider, request, outcome)

/-! ## One deployment -/

/-- The adds and records among the effects. -/
def accounting (effects : List Effect) : List Effect :=
  effects.filter fun
    | .add _ _ => true
    | .record _ => true
    | _ => false

@[simp] theorem sends_nil : sends [] = [] := rfl

@[simp] theorem sends_send (provider : Provider) (request : UpstreamRequest) (outcome : Outcome)
    (effects : List Effect) : sends (.send provider request outcome :: effects) =
      (provider, request, outcome) :: sends effects := rfl

@[simp] theorem sends_sleep (delay : Nat) (effects : List Effect) :
    sends (.sleep delay :: effects) = sends effects := rfl

@[simp] theorem accounting_nil : accounting [] = [] := rfl

@[simp] theorem accounting_send (provider : Provider) (request : UpstreamRequest)
    (outcome : Outcome) (effects : List Effect) :
    accounting (.send provider request outcome :: effects) = accounting effects := rfl

@[simp] theorem accounting_sleep (delay : Nat) (effects : List Effect) :
    accounting (.sleep delay :: effects) = accounting effects := rfl

theorem sends_append (effects effects' : List Effect) :
    sends (effects ++ effects') = sends effects ++ sends effects' := List.filterMap_append

theorem accounting_append (effects effects' : List Effect) :
    accounting (effects ++ effects') = accounting effects ++ accounting effects' :=
  List.filter_append ..

theorem sends_spend (userId apiKeyId : Option Uuid) (cost : Option ℚ) (record : UsageRecord) :
    sends (spendEffects userId apiKeyId cost ++ [.record record]) = [] ∧
      accounting (spendEffects userId apiKeyId cost ++ [.record record]) =
        spendEffects userId apiKeyId cost ++ [.record record] := by
  cases cost <;> cases userId <;> cases apiKeyId <;> exact ⟨rfl, rfl⟩

namespace ProxyContext

variable {ctx : ProxyContext}

/-- Forwarding sends nothing, and what it does is accounting. -/
theorem forward_effects (provider : Provider) (providerBody : ProviderBody)
    (upstream : UpstreamResponse) (sent : Nat) :
    sends (ctx.forwardUpstreamResponse P env provider providerBody upstream sent).2 = [] ∧
      accounting (ctx.forwardUpstreamResponse P env provider providerBody upstream sent).2 =
        (ctx.forwardUpstreamResponse P env provider providerBody upstream sent).2 := by
  unfold forwardUpstreamResponse
  split
  · exact ⟨rfl, rfl⟩
  · split
    · exact ⟨rfl, rfl⟩
    · exact sends_spend _ _ _ _

/-- How the sends of a block, `left` of them at most, are answered: either the block gives up and
nothing is accounted, or the response of its last send is forwarded. -/
def Ends (P : Packages) (env : Env) (ctx : ProxyContext) (provider : Provider)
    (providerBody : ProviderBody) (left : Nat) (isLast : Bool) (block : List Outcome)
    (result : ProviderAttempt × List Effect) : Prop :=
  (ctx.state.retryPolicy.GivesUp left isLast block ∧
    (∃ text, result.1 = .failover (badGateway text)) ∧ accounting result.2 = []) ∨
  (¬ ctx.state.retryPolicy.GivesUp left isLast block ∧
    ∃ upstream sent, block.getLast? = some (.ok upstream) ∧
      result.1 = .forward (ctx.forwardUpstreamResponse P env provider providerBody upstream sent).1 ∧
      accounting result.2 =
        (ctx.forwardUpstreamResponse P env provider providerBody upstream sent).2)

/-- One more retried send before a block. -/
theorem Ends.cons {provider : Provider} {providerBody : ProviderBody} {left : Nat} {isLast : Bool}
    {block : List Outcome} {result result' : ProviderAttempt × List Effect} {outcome : Outcome}
    (h : ctx.Ends P env provider providerBody left isLast block result) (hne : block ≠ [])
    (h1 : result'.1 = result.1) (h2 : accounting result'.2 = accounting result.2) :
    ctx.Ends P env provider providerBody (left + 1) isLast (outcome :: block) result' := by
  have hlast : (outcome :: block).getLast? = block.getLast? := by
    obtain ⟨o, block, rfl⟩ := List.exists_cons_of_ne_nil hne
    exact List.getLast?_cons_cons
  have hg : ctx.state.retryPolicy.GivesUp (left + 1) isLast (outcome :: block) ↔
      ctx.state.retryPolicy.GivesUp left isLast block := by
    simp only [RetryPolicy.GivesUp, hlast, List.length_cons, Nat.add_right_cancel_iff]
  simpa only [Ends, hg, hlast, h1, h2] using h

/-- The outcomes are the answers from the `sent`-th on. -/
def AnsweredFrom (env : Env) (sent : Nat) (block : List Outcome) : Prop :=
  block = (List.range' sent block.length).map env.answer

section
variable (provider : Provider) (providerBody : ProviderBody) (request : UpstreamRequest)
  (isLast : Bool)

/-- One attempt: the deployment is given up, the response is forwarded, or there is a wait and then
the next attempt. -/
theorem attemptLoop_cases {left : Nat} (sent : Nat)
    (hle : left + 1 ≤ ctx.state.retryPolicy.maxAttempts) :
    (ctx.state.retryPolicy.GivesUp (left + 1) isLast [env.answer sent] ∧
      ctx.attemptLoop P env provider providerBody request isLast (left + 1) sent =
        (.failover (badGateway "upstream request failed"),
          [.send provider request (env.answer sent)])) ∨
    ∃ upstream, env.answer sent = .ok upstream ∧
      ((¬ ctx.state.retryPolicy.GivesUp (left + 1) isLast [.ok upstream] ∧
        ctx.attemptLoop P env provider providerBody request isLast (left + 1) sent =
          (.forward (ctx.forwardUpstreamResponse P env provider providerBody upstream (sent + 1)).1,
            .send provider request (.ok upstream) ::
              (ctx.forwardUpstreamResponse P env provider providerBody upstream (sent + 1)).2)) ∨
      (ctx.state.retryPolicy.isRetryable upstream.status = true ∧ left ≠ 0 ∧
        ctx.attemptLoop P env provider providerBody request isLast (left + 1) sent =
          ((ctx.attemptLoop P env provider providerBody request isLast left (sent + 1)).1,
            .send provider request (.ok upstream) ::
              .sleep (ctx.backoffDelay P env (ctx.state.retryPolicy.maxAttempts - (left + 1))
                (sent + 1) upstream.headers) ::
              (ctx.attemptLoop P env provider providerBody request isLast left (sent + 1)).2))) := by
  cases ha : env.answer sent with
  | error e => exact .inl ⟨trivial, by simp [attemptLoop, ha]⟩
  | ok upstream =>
    by_cases hr : ctx.state.retryPolicy.isRetryable upstream.status = true
    · by_cases hl : left = 0
      · -- the last attempt
        subst hl
        have hfinal : ctx.state.retryPolicy.maxAttempts ≤
            ctx.state.retryPolicy.maxAttempts - 1 + 1 := by omega
        cases isLast with
        | false =>
          exact .inl ⟨by simp [RetryPolicy.GivesUp, hr], by simp [attemptLoop, ha, hr, hfinal]⟩
        | true =>
          exact .inr ⟨upstream, rfl, .inl ⟨by simp [RetryPolicy.GivesUp, hr],
            by simp [attemptLoop, ha, hr, hfinal]⟩⟩
      · have hmore : ¬ (ctx.state.retryPolicy.maxAttempts - (left + 1) + 1 ≥
            ctx.state.retryPolicy.maxAttempts) := by omega
        exact .inr ⟨upstream, rfl, .inr ⟨hr, hl, by simp [attemptLoop, ha, hr, hmore]⟩⟩
    · rw [Bool.not_eq_true] at hr
      cases hs : isServerError upstream.status with
      | true =>
        exact .inl ⟨by simp [RetryPolicy.GivesUp, hr, hs], by simp [attemptLoop, ha, hr, hs]⟩
      | false =>
        exact .inr ⟨upstream, rfl, .inl ⟨by simp [RetryPolicy.GivesUp, hr, hs],
          by simp [attemptLoop, ha, hr, hs]⟩⟩

/-- What the retry loop sends, and how it ends. -/
theorem attemptLoop_block {left : Nat} (sent : Nat) (h0 : left ≠ 0)
    (hle : left ≤ ctx.state.retryPolicy.maxAttempts) :
    ∃ block : List Outcome, block ≠ [] ∧ AnsweredFrom env sent block ∧ block.length ≤ left ∧
      (∀ outcome ∈ block.dropLast, ctx.state.retryPolicy.Retries outcome) ∧
      sends (ctx.attemptLoop P env provider providerBody request isLast left sent).2 =
        block.map (fun outcome => (provider, request, outcome)) ∧
      ctx.Ends P env provider providerBody left isLast block
        (ctx.attemptLoop P env provider providerBody request isLast left sent) := by
  induction left generalizing sent with
  | zero => exact absurd rfl h0
  | succ left ih =>
    obtain ⟨hgives, hloop⟩ | ⟨upstream, ha, ⟨hgives, hloop⟩ | ⟨hr, hl, hloop⟩⟩ :=
      @attemptLoop_cases P env ctx provider providerBody request isLast left sent hle
    · rw [hloop]
      exact ⟨[env.answer sent], by simp, by simp [AnsweredFrom], by simp, by simp, by simp,
        .inl ⟨hgives, ⟨_, rfl⟩, by simp⟩⟩
    · have hfwd := @forward_effects P env ctx provider providerBody upstream (sent + 1)
      rw [hloop]
      exact ⟨[.ok upstream], by simp, by simp [AnsweredFrom, ha], by simp, by simp,
        by simp [hfwd.1], .inr ⟨hgives, upstream, sent + 1, rfl, rfl, by simp [hfwd.2]⟩⟩
    · obtain ⟨block, hne, hans, hlen, hret, hsends, hends⟩ := ih (sent + 1) hl (by omega)
      rw [hloop]
      refine ⟨.ok upstream :: block, by simp, ?_, by simpa using hlen, ?_, by simp [hsends],
        hends.cons hne rfl (by simp)⟩
      · rw [AnsweredFrom, List.length_cons, List.range'_succ, List.map_cons, ha, ← hans]
      · rw [List.dropLast_cons_of_ne_nil hne]
        rintro outcome (_ | ⟨_, ho⟩)
        · exact hr
        · exact hret outcome ho

end

/-- The body is always rewritten when the payload has a value. -/
theorem bodyForDeployment_ok (hjson : ctx.payload.json.isSome) (upstreamModel : String) :
    ∃ providerBody, bodyForDeployment P ctx.body ctx.payload upstreamModel = .ok providerBody ∧
      providerBody.upstreamModel = some upstreamModel := by
  obtain ⟨value, hv⟩ := Option.isSome_iff_exists.1 hjson
  unfold bodyForDeployment
  split
  · exact ⟨_, rfl, rfl⟩
  · rw [hv]
    exact ⟨_, rfl, rfl⟩

/-- What is sent to a deployment, and how it ends. -/
theorem attemptProvider_block (hjson : ctx.payload.json.isSome)
    (hmax : ctx.state.retryPolicy.maxAttempts ≠ 0) (deployment : ResolvedDeployment)
    (isLast : Bool) (sent : Nat) :
    ∃ block providerBody, ctx.IsBlock P deployment block ∧ AnsweredFrom env sent block ∧
      providerBody.upstreamModel = some deployment.upstreamModel ∧
      sends (ctx.attemptProvider P env deployment.provider deployment.upstreamModel isLast sent).2 =
        (ctx.upstreamRequest P deployment).toList.flatMap (fun request =>
          block.map fun outcome => (deployment.provider, request, outcome)) ∧
      ctx.Ends P env deployment.provider providerBody ctx.state.retryPolicy.maxAttempts isLast block
        (ctx.attemptProvider P env deployment.provider deployment.upstreamModel isLast sent) := by
  obtain ⟨providerBody, hbody, hmodel⟩ :=
    bodyForDeployment_ok (P := P) hjson deployment.upstreamModel
  cases huri : upstreamUri P deployment.provider ctx.path ctx.query with
  | error e =>
    have hreq : ctx.upstreamRequest P deployment = none := by simp [upstreamRequest, hbody, huri]
    exact ⟨[], providerBody, ⟨by simp [hreq], by simp, by simp⟩, rfl, hmodel,
      by simp [attemptProvider, hbody, huri], .inl ⟨trivial, by simp [attemptProvider, hbody, huri]⟩⟩
  | ok uri =>
    cases hheaders : outboundHeaders P ctx.originalHeaders deployment.provider with
    | error e =>
      have hreq : ctx.upstreamRequest P deployment = none := by
        simp [upstreamRequest, hbody, huri, hheaders]
      exact ⟨[], providerBody, ⟨by simp [hreq], by simp, by simp⟩, rfl, hmodel,
        by simp [attemptProvider, hbody, huri, hheaders],
        .inl ⟨trivial, by simp [attemptProvider, hbody, huri, hheaders]⟩⟩
    | ok headers =>
      have hreq : ctx.upstreamRequest P deployment =
          some
            { method := ctx.method, uri := uri, headers := headers, body := providerBody.body } := by
        simp [upstreamRequest, hbody, huri, hheaders]
      have hatt : ctx.attemptProvider P env deployment.provider deployment.upstreamModel isLast sent =
          ctx.attemptLoop P env deployment.provider providerBody
            { method := ctx.method, uri := uri, headers := headers, body := providerBody.body }
            isLast ctx.state.retryPolicy.maxAttempts sent := by
        simp [attemptProvider, hbody, huri, hheaders]
      obtain ⟨block, hne, hans, hlen, hret, hsends, hends⟩ := @attemptLoop_block P env ctx
        deployment.provider providerBody
        { method := ctx.method, uri := uri, headers := headers, body := providerBody.body } isLast _
        sent hmax le_rfl
      rw [hatt]
      exact ⟨block, providerBody, ⟨by simp [hreq, hne], hlen, hret⟩, hans, hmodel,
        by simp [hreq, hsends], hends⟩

/-! ## The chain -/

/-- What the client gets and what is accounted: a synthesized 502 and nothing when nothing is
forwarded, else what forwarding the response does. -/
def Answers (P : Packages) (env : Env) (ctx : ProxyContext)
    (forwarded : Option (ResolvedDeployment × UpstreamResponse))
    (result : ProxyResponse × List Effect) : Prop :=
  match forwarded with
  | none => (∃ text, result.1 = badGateway text) ∧ accounting result.2 = []
  | some (deployment, upstream) =>
    ∃ providerBody sent, providerBody.upstreamModel = some deployment.upstreamModel ∧
      result.1 = (ctx.forwardUpstreamResponse P env deployment.provider providerBody upstream sent).1 ∧
      accounting result.2 =
        (ctx.forwardUpstreamResponse P env deployment.provider providerBody upstream sent).2

theorem failoverLoop_follows (hjson : ctx.payload.json.isSome)
    (hmax : ctx.state.retryPolicy.maxAttempts ≠ 0) {count : Nat} (chain : List ResolvedDeployment)
    (index : Nat) (hcount : index + chain.length = count) (lastError : Option ProxyResponse)
    (hlast : ∀ response ∈ lastError, ∃ text, response = badGateway text) (sent : Nat) :
    ∃ blocks forwarded, ctx.Follows P chain blocks forwarded ∧
      AnsweredFrom env sent blocks.flatten ∧
      sends (ctx.failoverLoop P env count chain index lastError sent).2 =
        ctx.blockSends P chain blocks ∧
      ctx.Answers P env forwarded (ctx.failoverLoop P env count chain index lastError sent) := by
  induction chain generalizing index lastError sent with
  | nil =>
    refine ⟨[], none, .exhausted, rfl, rfl, ?_, rfl⟩
    cases lastError with
    | none => exact ⟨_, rfl⟩
    | some response => exact hlast response rfl
  | cons deployment rest ih =>
    have hisLast : decide (index + 1 = count) = rest.isEmpty := by
      rw [← hcount, List.length_cons]
      cases rest <;> simp
    obtain ⟨block, providerBody, hblock, hfrom, hmodel, hsends, hends⟩ :=
      @attemptProvider_block P env ctx hjson hmax deployment rest.isEmpty sent
    simp only [failoverLoop, hisLast]
    rcases hatt : ctx.attemptProvider P env deployment.provider deployment.upstreamModel rest.isEmpty
      sent with ⟨result, effects⟩
    rw [hatt] at hsends hends
    rcases hends with ⟨hgives, ⟨text, rfl⟩, hacc⟩ | ⟨hgives, upstream, sent', hup, rfl, hacc⟩
    · have hlen : (sends effects).length = block.length := by
        rw [hsends]
        cases hreq : ctx.upstreamRequest P deployment with
        | none => simp [hblock.empty.2 hreq]
        | some request => simp
      obtain ⟨blocks, forwarded, hfollows, hfrom', hsends', hans⟩ := ih (index + 1)
        (by rw [← hcount, List.length_cons]; omega) (some (badGateway text))
        (fun _ h => ⟨text, (Option.some.inj h).symm⟩) (sent + (sends effects).length)
      refine ⟨block :: blocks, forwarded, .next hblock hgives hfollows, ?_, ?_, ?_⟩
      · rw [AnsweredFrom, List.flatten_cons, List.length_append, ← List.range'_append_1,
          List.map_append, ← hfrom, ← hlen, ← hfrom']
      · rw [sends_append, hsends', hsends, blockSends, blockSends, List.zip_cons_cons,
          List.flatMap_cons]
      · have hacc' : ∀ tail, accounting (effects ++ tail) = accounting tail := fun tail => by
          rw [accounting_append, hacc, List.nil_append]
        unfold Answers at hans ⊢
        simpa only [hacc'] using hans
    · refine ⟨[block], some (deployment, upstream), .forward hblock hgives hup,
        by simpa using hfrom, ?_, providerBody, sent', hmodel, rfl, hacc⟩
      rw [hsends, blockSends]
      simp

end ProxyContext

/-! ## The proxy -/

theorem parse_json {body : Bytes} {model : String}
    (h : (RequestPayload.parse P body).model = some model) :
    (RequestPayload.parse P body).json.isSome := by
  unfold RequestPayload.parse at h ⊢
  split at h
  · cases h
  · split at h
    · simp [*]
    · cases h

theorem proxy_follows (a : Admission P env state request)
    (hmax : state.retryPolicy.maxAttempts ≠ 0) :
    ∃ blocks forwarded, a.context.Follows P a.chain blocks forwarded ∧
      ProxyContext.AnsweredFrom env 0 blocks.flatten ∧
      sends (proxy P env state request).2 = a.context.blockSends P a.chain blocks ∧
      a.context.Answers P env forwarded (proxy P env state request) := by
  rw [proxy_admitted a]
  exact ProxyContext.failoverLoop_follows (parse_json a.hasModel) hmax a.chain 0 (by simp) none
    (fun _ h => by cases h) 0

/-- A readable response is forwarded as it is. -/
theorem forward_forwards {ctx : ProxyContext} (provider : Provider) (providerBody : ProviderBody)
    {upstream : UpstreamResponse} (sent : Nat) (hread : upstream.body.error = none) :
    Forwards (ctx.forwardUpstreamResponse P env provider providerBody upstream sent).1 upstream := by
  unfold ProxyContext.forwardUpstreamResponse
  split
  · exact ⟨rfl, rfl, rfl, rfl⟩
  · rw [hread]
    exact ⟨rfl, rfl, hread, rfl⟩

/-- Every deployment of the chain has given up. -/
def ProxyContext.Exhausted (ctx : ProxyContext) (chain : List ResolvedDeployment)
    (blocks : List (List Outcome)) : Prop :=
  blocks.length = chain.length ∧
    ∀ block ∈ blocks.getLast?,
      ctx.state.retryPolicy.GivesUp ctx.state.retryPolicy.maxAttempts true block

theorem ProxyContext.Follows.exhausted_iff {ctx : ProxyContext} {chain : List ResolvedDeployment}
    {blocks : List (List Outcome)} {forwarded : Option (ResolvedDeployment × UpstreamResponse)}
    (h : ctx.Follows P chain blocks forwarded) : forwarded = none ↔ ctx.Exhausted chain blocks := by
  induction h with
  | exhausted => simp [Exhausted]
  | @next deployment rest block blocks forwarded _ hgives hrest ih =>
    rw [ih, Exhausted, Exhausted, List.length_cons, List.length_cons, Nat.add_right_cancel_iff]
    refine and_congr_right fun hlen => ?_
    cases blocks with
    | nil =>
      obtain rfl : rest = [] := List.length_eq_zero_iff.1 hlen.symm
      simpa using hgives
    | cons b blocks => rw [List.getLast?_cons_cons]
  | @forward deployment rest block upstream _ hgives _ =>
    simp only [reduceCtorEq, false_iff, Exhausted, List.length_cons, List.length_nil]
    rintro ⟨hlen, hlast⟩
    obtain rfl : rest = [] := List.length_eq_zero_iff.1 (by omega)
    exact hgives (hlast block rfl)

theorem ProxyContext.Follows.mem {ctx : ProxyContext} {chain : List ResolvedDeployment}
    {blocks : List (List Outcome)} {deployment : ResolvedDeployment} {upstream : UpstreamResponse}
    (h : ctx.Follows P chain blocks (some (deployment, upstream))) :
    .ok upstream ∈ blocks.flatten := by
  generalize hf : some (deployment, upstream) = forwarded at h
  induction h with
  | exhausted => cases hf
  | next _ _ _ ih => exact List.mem_append_right _ (ih hf)
  | forward _ _ hup =>
    cases hf
    simpa using List.mem_of_getLast? hup

/-- A snapshot in service: built by `from_parts`, with keys, grants and a counter put in. -/
def GatewayState.Served (P : Packages) (state : GatewayState) : Prop :=
  ∃ config catalog upstream usageRecorder built,
    GatewayState.fromParts P config catalog upstream usageRecorder = .ok built ∧
    ∃ apiKeys granted spendCounter,
      state = ((built.withApiKeys apiKeys).withGranted granted).withSpendCounter spendCounter

theorem GatewayState.Served.maxAttempts (h : state.Served P) :
    state.retryPolicy.maxAttempts ≠ 0 := by
  obtain ⟨config, catalog, upstream, usageRecorder, built, hb, _, _, _, rfl⟩ := h
  obtain ⟨-, hretry, rfl⟩ := fromParts_ok.1 hb
  exact Nat.one_le_iff_ne_zero.1 hretry.attempts

/-- **Failover and retry follow the specified trace.** The outcomes of the blocks are the upstreams'
answers in order, the sends are those of the blocks, the response of the last send is forwarded
unless the chain is exhausted, and a synthesized 502 says that it is. -/
theorem failover_trace (hserved : state.Served P) (a : Admission P env state request)
    (hread : ∀ n upstream, env.answer n = .ok upstream → upstream.body.error = none) :
    ∃ blocks forwarded, a.context.Follows P a.chain blocks forwarded ∧
      blocks.flatten = (List.range blocks.flatten.length).map env.answer ∧
      sends (proxy P env state request).2 = a.context.blockSends P a.chain blocks ∧
      (∀ deployment upstream, forwarded = some (deployment, upstream) →
        Forwards (proxy P env state request).1 upstream) ∧
      ((∃ text, (proxy P env state request).1 = .text 502 text) ↔
        a.context.Exhausted a.chain blocks) := by
  obtain ⟨blocks, forwarded, hfollows, hfrom, hsends, hans⟩ := proxy_follows a hserved.maxAttempts
  rw [ProxyContext.AnsweredFrom, ← List.range_eq_range'] at hfrom
  have hforwards : ∀ deployment upstream, forwarded = some (deployment, upstream) →
      Forwards (proxy P env state request).1 upstream := by
    rintro deployment upstream rfl
    obtain ⟨providerBody, sent, -, hresponse, -⟩ := hans
    have hmem := hfollows.mem
    rw [hfrom, List.mem_map] at hmem
    obtain ⟨n, -, hn⟩ := hmem
    rw [hresponse]
    exact forward_forwards _ _ _ (hread n upstream hn)
  refine ⟨blocks, forwarded, hfollows, hfrom, hsends, hforwards, ?_⟩
  rw [← hfollows.exhausted_iff]
  constructor
  · rintro ⟨text, htext⟩
    cases forwarded with
    | none => rfl
    | some forwarded =>
      have := hforwards forwarded.1 forwarded.2 rfl
      rw [htext] at this
      exact this.elim
  · rintro rfl
    exact hans.1

/-! ## An example -/

/-- The SHA-256 digest of the one-letter key `k`. -/
def digestOfK : Digest :=
  #v[130, 84, 195, 41, 169, 40, 80, 246, 213, 57, 221, 55, 111, 72, 22, 238, 39, 100, 81, 125, 165,
    224, 35, 85, 20, 175, 67, 49, 100, 72, 13, 122]

/-- The packages on the values below. -/
def samplePackages : Packages where
  uriFromStr s := if Text.startsWith s "https://a/" || s = "https://a" then
    some ⟨s, some "https", some "a"⟩ else none
  headerFromStr s := some (Text.asBytes s)
  headerToStr := Text.fromUtf8
  jsonFromSlice body :=
    if body = Text.asBytes "\x7b\"model\":\"m\"\x7d" then some (.object [("model", .string "m")]) else none
  jsonFromStr _ := none
  jsonToVec _ := []
  sha256 body := if body = Text.asBytes "k" then digestOfK else Vector.replicate 32 0
  decimalFromStr _ := none
  parseRfc2822 _ := none

/-- A model `m` on the providers `p` and `q`. -/
def sampleCatalog : CatalogSnapshot where
  providers := [{ id := "p", protocol := .openAi, baseUrl := "https://a", apiKey := "s" },
    { id := "q", protocol := .openAi, baseUrl := "https://a", apiKey := "s" }]
  models := [{ name := "m", enabled := true, createdAt := 0, deployments := [⟨"p", "m"⟩, ⟨"q", "m"⟩] }]

/-- A snapshot of it that serves the key `k` of user 1. -/
def sampleState : GatewayState :=
  (((GatewayState.ofRouting (routingOf sampleCatalog {}) 0 0).withApiKeys
    ((∅ : ApiKeyMap).insert digestOfK ⟨1, 2, none, none⟩)).withGranted
      ((∅ : HashMap Uuid ℚ).insert 1 1)).withSpendCounter (.shared 0)

def sampleRequest : Request where
  endpoint := ⟨"/v1/chat/completions", .openAi, by decide⟩
  method := "POST"
  query := none
  headers := [("x-api-key", Text.asBytes "k")]
  body := .ok (Text.asBytes "\x7b\"model\":\"m\"\x7d")

/-- The first send is not answered, the second one with a 200. -/
def sampleEnv : Env where
  answer
    | 0 => .error "connection refused"
    | _ => .ok ⟨200, [("content-type", Text.asBytes "application/json")], ⟨[], none⟩⟩
  jitter _ := 0
  now _ := 0
  elapsedMs _ := 0
  counter := ∅
  freshRequestId := "r"
  showUsd _ := "1"

theorem sampleState_served : sampleState.Served samplePackages :=
  ⟨{}, sampleCatalog, 0, 0, _, rfl, _, _, _, rfl⟩

def sampleAdmission : Admission samplePackages sampleEnv sampleState sampleRequest where
  identity := ⟨1, 2, none, none⟩
  body := Text.asBytes "\x7b\"model\":\"m\"\x7d"
  model := "m"
  chain := [⟨⟨"p", .openAi, "https://a", "s", none⟩, "m"⟩,
    ⟨⟨"q", .openAi, "https://a", "s", none⟩, "m"⟩]
  authorized := by decide
  allowed := by decide +kernel
  readable := rfl
  hasModel := by decide
  resolved := by decide

theorem sampleEnv_readable (n : Nat) (upstream : UpstreamResponse)
    (h : sampleEnv.answer n = .ok upstream) : upstream.body.error = none := by
  cases n with
  | zero => cases h
  | succ n =>
    cases h
    rfl

/-- The transport error of `p` starts the block of `q`, whose response is forwarded. -/
theorem failover_trace_sample :
    (sends (proxy samplePackages sampleEnv sampleState sampleRequest).2).map (·.1.id) = ["p", "q"] ∧
    ∃ blocks forwarded,
      sampleAdmission.context.Follows samplePackages sampleAdmission.chain blocks forwarded ∧
      blocks.flatten = (List.range blocks.flatten.length).map sampleEnv.answer ∧
      sends (proxy samplePackages sampleEnv sampleState sampleRequest).2 =
        sampleAdmission.context.blockSends samplePackages sampleAdmission.chain blocks ∧
      (∀ deployment upstream, forwarded = some (deployment, upstream) →
        Forwards (proxy samplePackages sampleEnv sampleState sampleRequest).1 upstream) ∧
      ((∃ text, (proxy samplePackages sampleEnv sampleState sampleRequest).1 = .text 502 text) ↔
        sampleAdmission.context.Exhausted sampleAdmission.chain blocks) :=
  ⟨by decide +kernel, failover_trace sampleState_served sampleAdmission sampleEnv_readable⟩

end LiteAgentify
