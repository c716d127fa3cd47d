import LiteAgentify.Proof.Reload

/-!
# Reloads and refreshes, one after another

`from_parts` builds a state with no keys, no grants and a new counter, so `reload` and
`store_catalog` have to carry the rest over. In every pair of cells that calls run one after another
reach, the routing fields are those of the cached catalog (`Coherent`); so a reload changes only the
retry policy, a refresh only the routing fields, and a failed call nothing
(`calls_touch_own_fields`).
-/

set_option autoImplicit false

namespace LiteAgentify

open Keyed

variable {P : Packages}

/-- The cells after the calls of a list have run one after another. -/
def SharedGatewayState.run (P : Packages) (shared : SharedGatewayState) (calls : List Call) :
    SharedGatewayState :=
  calls.foldl (fun shared call => call.exec P shared) shared

/-! ## What a single call does -/

/-- A call that returns an error has stored nothing. -/
theorem Call.exec_of_error {shared : SharedGatewayState} {call : Call} {e : String}
    (h : call.result P shared = .error e) : call.exec P shared = shared := by
  cases call with
  | storeApiKeys apiKeys => cases h
  | storeGranted granted => cases h
  | storeCatalog catalog file =>
    cases file with
    | error e' => rfl
    | ok config =>
      simp only [result, Except.bind] at h
      simp only [exec]
      cases hr : rebuild P config catalog shared.state with
      | error e' => rfl
      | ok next => simp [hr, Except.map] at h
  | reload file =>
    cases file with
    | error e' => rfl
    | ok config =>
      simp only [result, Except.bind] at h
      simp only [exec]
      cases hr : rebuild P config shared.catalog shared.state with
      | error e' => rfl
      | ok next => simp [hr, Except.map] at h

theorem rebuild_result_ok {config : GatewayConfig} {catalog : CatalogSnapshot}
    {current : GatewayState} :
    (rebuild P config catalog current).map (fun _ => ()) = .ok () ↔
      catalog.Valid P ∧ config.retry.Valid := by
  constructor
  · intro h
    cases hr : rebuild P config catalog current with
    | error e => simp [hr, Except.map] at h
    | ok next => exact ⟨((rebuild_ok _).1 hr).1, ((rebuild_ok _).1 hr).2.1⟩
  · rintro ⟨hc, hr⟩
    rw [(rebuild_ok current).2 ⟨hc, hr, rfl⟩]
    rfl

/-- When `store_catalog` returns `Ok`. -/
theorem Call.storeCatalog_result_ok {shared : SharedGatewayState} {catalog : CatalogSnapshot}
    {file : Except String GatewayConfig} :
    (Call.storeCatalog catalog file).result P shared = .ok () ↔
      ∃ config, file = .ok config ∧ catalog.Valid P ∧ config.retry.Valid := by
  cases file with
  | error e => simp [result, Except.bind]
  | ok config => simp [result, Except.bind, rebuild_result_ok]

/-- When `reload` returns `Ok`. -/
theorem Call.reload_result_ok {shared : SharedGatewayState}
    {file : Except String GatewayConfig} :
    (Call.reload file).result P shared = .ok () ↔
      ∃ config, file = .ok config ∧ shared.catalog.Valid P ∧ config.retry.Valid := by
  cases file with
  | error e => simp [result, Except.bind]
  | ok config => simp [result, Except.bind, rebuild_result_ok]

/-! ## The cells agree -/

/-- The serving routing fields are those of the cached catalog with some retry section. -/
structure SharedGatewayState.Coherent (P : Packages) (shared : SharedGatewayState) : Prop where
  valid : shared.catalog.Valid P
  routing : ∃ retry : RetryConfig, shared.state.routing = routingOf shared.catalog retry

namespace SharedGatewayState.Coherent

theorem start {config : GatewayConfig} {catalog : CatalogSnapshot} {upstream usageRecorder : Handle}
    {apiKeys : ApiKeyMap} {granted : HashMap Uuid ℚ} {spendCounter : SpendCounter}
    {shared : SharedGatewayState}
    (h : buildRouterShared P config catalog upstream usageRecorder apiKeys granted
      spendCounter = .ok shared) : shared.Coherent P := by
  simp only [buildRouterShared, bind_ok, pure, Except.pure, Except.ok.injEq] at h
  obtain ⟨state, hstate, rfl⟩ := h
  obtain ⟨hc, hr, rfl⟩ := fromParts_ok.1 hstate
  exact ⟨hc, config.retry, rfl⟩

theorem exec {shared : SharedGatewayState} (h : shared.Coherent P) (call : Call) :
    (call.exec P shared).Coherent P := by
  cases hres : call.result P shared with
  | error e => rwa [Call.exec_of_error hres]
  | ok u =>
    cases call with
    | storeApiKeys apiKeys => exact ⟨h.valid, h.routing⟩
    | storeGranted granted => exact ⟨h.valid, h.routing⟩
    | storeCatalog catalog file =>
      obtain ⟨config, rfl, hc, hr⟩ := Call.storeCatalog_result_ok.1 hres
      rw [exec_storeCatalog hc hr]
      exact ⟨hc, config.retry, rfl⟩
    | reload file =>
      obtain ⟨config, rfl, hc, hr⟩ := Call.reload_result_ok.1 hres
      rw [exec_reload hr shared hc]
      exact ⟨hc, config.retry, rfl⟩

theorem run {shared : SharedGatewayState} (h : shared.Coherent P) (calls : List Call) :
    (shared.run P calls).Coherent P := by
  induction calls generalizing shared with
  | nil => exact h
  | cons call calls ih => exact ih (h.exec call)

/-- The three fields are what `from_parts` builds from the cached catalog, with any file. -/
theorem fromParts {shared : SharedGatewayState} (h : shared.Coherent P) {config : GatewayConfig}
    {upstream usageRecorder : Handle} {built : GatewayState}
    (hb : GatewayState.fromParts P config shared.catalog upstream usageRecorder = .ok built) :
    shared.state.providers = built.providers ∧ shared.state.models = built.models ∧
      shared.state.pricing = built.pricing := by
  obtain ⟨-, -, rfl⟩ := fromParts_ok.1 hb
  obtain ⟨retry, hrouting⟩ := h.routing
  exact ⟨congrArg Routing.providers hrouting, congrArg Routing.models hrouting,
    congrArg Routing.pricing hrouting⟩

/-- A successful reload keeps all but the retry policy. -/
theorem exec_reload {shared : SharedGatewayState} (h : shared.Coherent P)
    {config : GatewayConfig} (hr : config.retry.Valid) :
    Call.exec P shared (.reload (.ok config)) =
      { shared with state := { shared.state with retryPolicy := config.retry.policy } } := by
  rw [LiteAgentify.exec_reload hr shared h.valid]
  obtain ⟨retry, hrouting⟩ := h.routing
  have hsame : shared.state.withRouting (routingOf shared.catalog config.retry) =
      { shared.state with retryPolicy := config.retry.policy } :=
    GatewayState.ext_parts rfl rfl rfl <| by
      simp only [GatewayState.routing, GatewayState.withRouting, routingOf] at hrouting ⊢
      simp_all
  rw [hsame]

end SharedGatewayState.Coherent

/-! ## Every sequence of calls -/

/-- **Each call touches its own fields.** Whatever calls have run since the start, with whatever
content the file had: a call that fails changes nothing, a reload only the retry policy, a refresh
the cached catalog and the four fields built from it and the file; and what is served is what
`from_parts` builds from the cached catalog. -/
theorem calls_touch_own_fields {config₀ : GatewayConfig} {catalog₀ : CatalogSnapshot}
    {upstream usageRecorder : Handle} {apiKeys₀ : ApiKeyMap} {granted₀ : HashMap Uuid ℚ}
    {spendCounter : SpendCounter} {shared₀ : SharedGatewayState}
    (h0 : buildRouterShared P config₀ catalog₀ upstream usageRecorder apiKeys₀ granted₀
      spendCounter = .ok shared₀) (calls : List Call) {shared : SharedGatewayState}
    (hs : shared = shared₀.run P calls) :
    (∀ (call : Call) (e : String), call.result P shared = .error e → call.exec P shared = shared) ∧
      (∀ apiKeys, Call.exec P shared (.storeApiKeys apiKeys) =
        { shared with state := { shared.state with apiKeys := apiKeys } }) ∧
      (∀ granted, Call.exec P shared (.storeGranted granted) =
        { shared with state := { shared.state with granted := granted } }) ∧
      (∀ file, (Call.reload file).result P shared = .ok () →
        ∃ config policy, file = .ok config ∧ buildRetryPolicy config.retry = .ok policy ∧
          Call.exec P shared (.reload file) =
            { shared with state := { shared.state with retryPolicy := policy } }) ∧
      (∀ catalog file, (Call.storeCatalog catalog file).result P shared = .ok () →
        ∃ config built, file = .ok config ∧
          GatewayState.fromParts P config catalog shared.state.upstream
            shared.state.usageRecorder = .ok built ∧
          Call.exec P shared (.storeCatalog catalog file) =
            { state := { shared.state with
                providers := built.providers
                models := built.models
                pricing := built.pricing
                retryPolicy := built.retryPolicy }
              catalog := catalog }) ∧
      (∃ config built, GatewayState.fromParts P config shared.catalog shared.state.upstream
        shared.state.usageRecorder = .ok built) ∧
      ∀ config upstream usageRecorder built,
        GatewayState.fromParts P config shared.catalog upstream usageRecorder = .ok built →
          shared.state.providers = built.providers ∧ shared.state.models = built.models ∧
            shared.state.pricing = built.pricing := by
  have hretry : config₀.retry.Valid := by
    simp only [buildRouterShared, bind_ok] at h0
    obtain ⟨state, hstate, -⟩ := h0
    exact (fromParts_ok.1 hstate).2.1
  have hco : shared.Coherent P := hs ▸ (SharedGatewayState.Coherent.start h0).run calls
  refine ⟨fun call e he => Call.exec_of_error he, fun apiKeys => rfl, fun granted => rfl,
    ?_, ?_, ?_, fun config upstream usageRecorder built hb => hco.fromParts hb⟩
  · intro file hok
    obtain ⟨config, rfl, -, hr⟩ := Call.reload_result_ok.1 hok
    exact ⟨config, config.retry.policy, rfl, buildRetryPolicy_ok.2 ⟨hr, rfl⟩, hco.exec_reload hr⟩
  · intro catalog file hok
    obtain ⟨config, rfl, hc, hr⟩ := Call.storeCatalog_result_ok.1 hok
    exact ⟨config, _, rfl, fromParts_ok.2 ⟨hc, hr, rfl⟩, exec_storeCatalog hc hr shared⟩
  · exact ⟨config₀, _, fromParts_ok.2 ⟨hco.valid, hretry, rfl⟩⟩

/-- A key map is published, the file is gone, the file is back: the key stays through the failed
and the successful reload. -/
theorem calls_touch_own_fields_sample :
    ∃ shared₀, buildRouterShared default {} {} 0 0 ∅ ∅ (.shared 1) = .ok shared₀ ∧
      let shared := shared₀.run default
        [.storeApiKeys servesOneKey.state.apiKeys, .reload (.error "no file")]
      ∃ policy, Call.exec default shared (.reload (.ok {})) =
        { shared with state := { shared.state with retryPolicy := policy } } := by
  obtain ⟨shared₀, h0, hok⟩ : ∃ shared₀,
      buildRouterShared default {} {} 0 0 ∅ ∅ (.shared 1) = .ok shared₀ ∧
        (Call.reload (.ok {})).result default (shared₀.run default
          [.storeApiKeys servesOneKey.state.apiKeys, .reload (.error "no file")]) = .ok () :=
    ⟨_, rfl, rfl⟩
  obtain ⟨-, -, -, hreload, -⟩ := calls_touch_own_fields h0
    [.storeApiKeys servesOneKey.state.apiKeys, .reload (.error "no file")] rfl
  obtain ⟨_, policy, -, -, hexec⟩ := hreload (.ok {}) hok
  exact ⟨shared₀, h0, policy, hexec⟩

end LiteAgentify
