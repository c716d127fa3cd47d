import LiteAgentify.Proof.Failover

/-!
# Who is contacted

`contact_authorized`: a send needs a presented active key, an allowed quota check, a JSON body with
a model, and a catalog entry that is enabled and permitted; and the providers contacted follow the
entry's deployments of the endpoint's protocol in catalog order. The other way round, `resolve`
returns all of these deployments (`resolve_chain`).
-/

set_option autoImplicit false

namespace LiteAgentify

/-- The deployments whose provider speaks the protocol, in catalog order. -/
def GatewayState.matching (state : GatewayState) (protocol : Protocol)
    (deployments : List Deployment) : List ResolvedDeployment :=
  deployments.filterMap fun deployment =>
    match state.providers.lookup deployment.providerId with
    | some provider =>
      if provider.protocol = protocol then some ⟨provider, deployment.upstreamModel⟩ else none
    | none => none

variable {P : Packages} {env : Env} {state : GatewayState} {request : Request}

theorem GatewayState.mem_matching {protocol : Protocol} {deployments : List Deployment}
    {resolved : ResolvedDeployment} : resolved ∈ state.matching protocol deployments ↔
      ∃ deployment ∈ deployments, state.providers.lookup deployment.providerId =
        some resolved.provider ∧ resolved.provider.protocol = protocol ∧
          resolved.upstreamModel = deployment.upstreamModel := by
  simp only [matching, List.mem_filterMap]
  refine exists_congr fun deployment => and_congr_right fun _ => ?_
  cases h : state.providers.lookup deployment.providerId with
  | none => simp
  | some provider =>
    by_cases hp : provider.protocol = protocol
    · simp only [hp, if_true, Option.some.injEq]
      constructor
      · rintro rfl
        exact ⟨rfl, hp, rfl⟩
      · rintro ⟨rfl, -, hu⟩
        rw [← hu]
    · simp only [hp, if_false, reduceCtorEq, Option.some.injEq, false_iff]
      rintro ⟨rfl, h, -⟩
      exact hp h

theorem GatewayState.filterDeployments_fst (protocol : Protocol) (deployments : List Deployment) :
    (state.filterDeployments protocol deployments).1 = state.matching protocol deployments := by
  induction deployments using List.reverseRecOn with
  | nil => rfl
  | append_singleton deployments deployment ih =>
    rw [filterDeployments] at ih ⊢
    rw [List.foldl_append, List.foldl_cons, List.foldl_nil, matching, List.filterMap_append,
      ← matching, ← ih]
    cases h : state.providers.lookup deployment.providerId with
    | none => simp [h]
    | some provider =>
      by_cases hp : provider.protocol = protocol
      · simp [h, hp]
      · simp only [h, hp, if_false, List.filterMap_cons, List.filterMap_nil, List.append_nil]
        split <;> rfl

/-- **What `resolve` returns**: the whole chain of an enabled and permitted model. -/
theorem GatewayState.resolve_chain {protocol : Protocol} {model : String} {identity : KeyIdentity}
    {chain : List ResolvedDeployment} :
    state.resolve protocol model identity = .chain chain ↔
      ∃ entry, state.models.lookup model = some entry ∧ entry.enabled ∧ identity.mayCall model ∧
        chain = state.matching protocol entry.deployments ∧ chain ≠ [] := by
  unfold resolve
  cases hm : state.models.lookup model with
  | none => simp
  | some entry =>
    simp only [Option.some.injEq, exists_eq_left', Bool.not_eq_true, filterDeployments_fst]
    by_cases he : entry.enabled = true
    · by_cases hc : identity.mayCall model = true
      · by_cases hn : state.matching protocol entry.deployments = []
        · simp [he, hc, hn]
        · simp only [he, hc, hn, Bool.true_eq_false, if_false, List.isEmpty_iff, true_and,
            Resolution.chain.injEq]
          constructor
          · rintro rfl
            exact ⟨rfl, hn⟩
          · rintro ⟨rfl, -⟩
            rfl
      · simp [he, hc]
    · simp [he]

/-! ## The providers contacted -/

/-- The providers of the sends that blocks stand for come in chain order. -/
theorem ProxyContext.blockSends_providers {ctx : ProxyContext} (chain : List ResolvedDeployment)
    (blocks : List (List Outcome)) :
    ∃ counts : List Nat, (ctx.blockSends P chain blocks).map (·.1) =
      (chain.zip counts).flatMap fun (deployment, count) =>
        List.replicate count deployment.provider := by
  induction chain generalizing blocks with
  | nil => exact ⟨[], rfl⟩
  | cons deployment chain ih =>
    cases blocks with
    | nil => exact ⟨[], rfl⟩
    | cons block blocks =>
      obtain ⟨counts, hcounts⟩ := ih blocks
      unfold blockSends at hcounts
      cases hreq : ctx.upstreamRequest P deployment with
      | none => exact ⟨0 :: counts, by simpa [blockSends, hreq] using hcounts⟩
      | some request =>
        refine ⟨block.length :: counts, ?_⟩
        have hblock : block.map ((·.1) ∘ fun outcome => (deployment.provider, request, outcome)) =
            List.replicate block.length deployment.provider := by
          rw [List.eq_replicate_iff]
          exact ⟨by simp, by simp⟩
        simp only [blockSends, List.zip_cons_cons, List.flatMap_cons, hreq, Option.toList_some,
          List.flatMap_nil, List.append_nil, List.map_append, List.map_map, hcounts, hblock]

/-- Without attempts nothing is sent. -/
theorem ProxyContext.failoverLoop_idle {ctx : ProxyContext}
    (h : ctx.state.retryPolicy.maxAttempts = 0) (count : Nat) (chain : List ResolvedDeployment)
    (index : Nat) (lastError : Option ProxyResponse) (sent : Nat) :
    sends (ctx.failoverLoop P env count chain index lastError sent).2 = [] := by
  have hattempt : ∀ (deployment : ResolvedDeployment) isLast sent, sends (ctx.attemptProvider P env
      deployment.provider deployment.upstreamModel isLast sent).2 = [] := by
    intro deployment isLast sent
    unfold attemptProvider
    rw [h]
    repeat' split
    all_goals rfl
  induction chain generalizing index lastError sent with
  | nil => rfl
  | cons deployment chain ih =>
    have := hattempt deployment (index + 1 = count) sent
    simp only [failoverLoop]
    split
    · rename_i heq
      rwa [heq] at this
    · rename_i heq
      rw [heq] at this
      rw [sends_append, this, ih, List.nil_append]

theorem sends_providers (a : Admission P env state request) :
    ∃ counts : List Nat, (sends (proxy P env state request).2).map (·.1) =
      (a.chain.zip counts).flatMap fun (deployment, count) =>
        List.replicate count deployment.provider := by
  by_cases hmax : state.retryPolicy.maxAttempts = 0
  · refine ⟨[], ?_⟩
    rw [proxy_admitted a, ProxyContext.failoverLoop_idle hmax, List.zip_nil_right]
    rfl
  · obtain ⟨blocks, -, -, -, hsends, -⟩ := proxy_follows a hmax
    rw [hsends]
    exact a.context.blockSends_providers a.chain blocks

theorem parse_model {body : Bytes} {model : String}
    (h : (RequestPayload.parse P body).model = some model) :
    ∃ value, P.jsonFromSlice body = some value ∧ value.get "model" = some (.string model) := by
  unfold RequestPayload.parse at h
  split at h
  · cases h
  · split at h
    · rename_i value hv
      refine ⟨value, hv, ?_⟩
      obtain ⟨json, hj, hs⟩ := Option.bind_eq_some_iff.1 h
      cases json with
      | string s => rw [hj, Option.some.inj hs]
      | _ => cases hs
    · cases h

theorem authorize_candidate {headers : HeaderMap} {identity : KeyIdentity}
    (h : state.authorize P headers = some identity) :
    ∃ candidate ∈ gatewayKeyCandidates P headers,
      state.apiKeys.lookup (hashApiKey P candidate) = some identity := by
  rw [GatewayState.authorize, List.findSome?_eq_some_iff] at h
  obtain ⟨before, candidate, after, hl, hc, -⟩ := h
  exact ⟨candidate, by simp [hl], hc⟩

/-- **No upstream contact without authorization, and only along the resolved chain.** -/
theorem contact_authorized (P : Packages) (env : Env) (state : GatewayState) (request : Request) :
    (sends (proxy P env state request).2 ≠ [] →
      ∃ candidate ∈ gatewayKeyCandidates P request.headers, ∃ identity,
        state.apiKeys.lookup (hashApiKey P candidate) = some identity ∧
        state.checkQuota identity (env.counter.get (.user identity.userId))
          (env.counter.get (.key identity.apiKeyId)) = .allowed ∧
        ∃ body value model entry, request.body = .ok body ∧ P.jsonFromSlice body = some value ∧
          value.get "model" = some (.string model) ∧
          state.models.lookup model = some entry ∧ entry.enabled ∧ identity.mayCall model ∧
          (∀ send ∈ sends (proxy P env state request).2, ∃ deployment ∈ entry.deployments,
            state.providers.lookup deployment.providerId = some send.1 ∧
            send.1.protocol = request.endpoint.protocol) ∧
          ∃ counts : List Nat, (sends (proxy P env state request).2).map (·.1) =
            ((state.matching request.endpoint.protocol entry.deployments).zip counts).flatMap
              fun (deployment, count) => List.replicate count deployment.provider) ∧
    ∀ protocol model identity entry, state.models.lookup model = some entry → entry.enabled →
      identity.mayCall model → state.matching protocol entry.deployments ≠ [] →
      state.resolve protocol model identity =
        .chain (state.matching protocol entry.deployments) := by
  refine ⟨fun hsends => ?_, fun protocol model identity entry hm he hc hne =>
    GatewayState.resolve_chain.2 ⟨entry, hm, he, hc, rfl, hne⟩⟩
  rcases isEmpty_or_nonempty (Admission P env state request) with hnone | ⟨⟨a⟩⟩
  · rw [(proxy_rejected hnone).1] at hsends
    exact absurd rfl hsends
  · obtain ⟨candidate, hcand, hlookup⟩ := authorize_candidate a.authorized
    obtain ⟨value, hvalue, hmodel⟩ := parse_model a.hasModel
    obtain ⟨entry, hentry, henabled, hcall, hchain, -⟩ := GatewayState.resolve_chain.1 a.resolved
    obtain ⟨counts, hcounts⟩ := sends_providers a
    rw [hchain] at hcounts
    refine ⟨candidate, hcand, a.identity, hlookup, a.allowed, a.body, value, a.model, entry,
      a.readable, hvalue, hmodel, hentry, henabled, hcall, fun send hsend => ?_, counts, hcounts⟩
    have hmem := List.mem_map_of_mem (f := (·.1)) hsend
    rw [hcounts, List.mem_flatMap] at hmem
    obtain ⟨⟨resolved, count⟩, hzip, hrep⟩ := hmem
    rw [List.eq_of_mem_replicate hrep]
    obtain ⟨deployment, hd, hp, hproto, -⟩ :=
      GatewayState.mem_matching.1 (List.of_mem_zip hzip).1
    exact ⟨deployment, hd, hp, hproto⟩

/-- The sample request contacts `p` and then `q`, with the key `k`. -/
theorem contact_authorized_sample :
    (sends (proxy samplePackages sampleEnv sampleState sampleRequest).2).length = 2 ∧
    (∃ candidate ∈ gatewayKeyCandidates samplePackages sampleRequest.headers, ∃ identity,
      sampleState.apiKeys.lookup (hashApiKey samplePackages candidate) = some identity ∧
      sampleState.checkQuota identity (sampleEnv.counter.get (.user identity.userId))
        (sampleEnv.counter.get (.key identity.apiKeyId)) = .allowed) ∧
    sampleState.resolve .openAi "m" ⟨1, 2, none, none⟩ =
      .chain (sampleState.matching .openAi [⟨"p", "m"⟩, ⟨"q", "m"⟩]) := by
  obtain ⟨hcontact, hresolve⟩ :=
    contact_authorized samplePackages sampleEnv sampleState sampleRequest
  obtain ⟨candidate, hc, identity, hl, hq, -⟩ := hcontact (by
    intro h
    have : (sends (proxy samplePackages sampleEnv sampleState sampleRequest).2).length = 0 := by
      rw [h]
      rfl
    revert this
    decide +kernel)
  exact ⟨by decide +kernel, ⟨candidate, hc, identity, hl, hq⟩,
    hresolve .openAi "m" ⟨1, 2, none, none⟩ ⟨true, 0, [⟨"p", "m"⟩, ⟨"q", "m"⟩]⟩ (by decide) rfl
      (by decide) (by decide)⟩

end LiteAgentify
