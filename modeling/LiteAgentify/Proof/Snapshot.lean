import LiteAgentify.State
import LiteAgentify.Lib.Keyed

/-!
# What a snapshot is built from

`fromParts_ok`: a snapshot is built exactly when every pricing entry, provider and model passes its
check and the keys are distinct (`CatalogSnapshot.Valid`) and the retry section passes
(`RetryConfig.Valid`); the routing fields then depend on the catalog and the retry section
alone (`routingOf`). The loops are instances of `Keyed.Inserts`.
-/

set_option autoImplicit false

namespace LiteAgentify

open Keyed

/-! ## Pricing -/

/-- The prices a pricing entry stands for. -/
def PricingConfig.pricing (entry : PricingConfig) : Pricing where
  inputPer1m := entry.inputPer1m
  outputPer1m := entry.outputPer1m
  cachedInputPer1m := entry.cachedInputPer1m
  cacheReadPer1m := entry.cacheReadPer1m
  cacheWritePer1m := entry.cacheWritePer1m
  currency := entry.currency
  pricingSource := entry.pricingSource

/-- A three-letter upper-case currency code. -/
def IsCurrency (currency : String) : Prop :=
  ¬(Text.trim currency = "" ∨ currency.utf8ByteSize ≠ 3 ∨
    ¬ currency.toList.all Text.isAsciiUppercase)

/-- The rates of an entry that are given. -/
def PricingConfig.rates (entry : PricingConfig) : List Decimal :=
  [entry.inputPer1m, entry.outputPer1m] ++
    ([entry.cachedInputPer1m, entry.cacheReadPer1m, entry.cacheWritePer1m].filterMap id)

structure PricingConfig.Valid (entry : PricingConfig) : Prop where
  provider : Text.trim entry.provider ≠ ""
  model : Text.trim entry.model ≠ ""
  currency : IsCurrency entry.currency
  rates : ∀ rate ∈ entry.rates, rate.isSignNegative = false

theorem validateNonNegative_ok {name : String} {value : Decimal} {u : Unit} :
    validateNonNegative name value = .ok u ↔ value.isSignNegative = false := by
  unfold validateNonNegative
  split <;> simp_all

theorem validateOptionalNonNegative_ok {name : String} {value : Option Decimal} {u : Unit} :
    validateOptionalNonNegative name value = .ok u ↔ ∀ d ∈ value, d.isSignNegative = false := by
  cases value <;> simp [validateOptionalNonNegative, validateNonNegative_ok]

theorem PricingConfig.rates_iff {entry : PricingConfig} :
    (∀ rate ∈ entry.rates, rate.isSignNegative = false) ↔
      entry.inputPer1m.isSignNegative = false ∧ entry.outputPer1m.isSignNegative = false ∧
      (∀ d ∈ entry.cachedInputPer1m, d.isSignNegative = false) ∧
      (∀ d ∈ entry.cacheReadPer1m, d.isSignNegative = false) ∧
      ∀ d ∈ entry.cacheWritePer1m, d.isSignNegative = false := by
  simp only [rates, List.mem_append, List.mem_filterMap, List.mem_cons, List.not_mem_nil, or_false,
    id]
  constructor
  · intro h
    exact ⟨h _ (.inl (.inl rfl)), h _ (.inl (.inr rfl)), fun d hd => h _ (.inr ⟨_, .inl rfl, hd⟩),
      fun d hd => h _ (.inr ⟨_, .inr (.inl rfl), hd⟩),
      fun d hd => h _ (.inr ⟨_, .inr (.inr rfl), hd⟩)⟩
  · rintro ⟨hi, ho, hc, hr, hw⟩ rate ((rfl | rfl) | ⟨d, rfl | rfl | rfl, hd⟩)
    exacts [hi, ho, hc _ hd, hr _ hd, hw _ hd]

theorem validateRates_ok {entry : PricingConfig} :
    validateRates entry = .ok () ↔ ∀ rate ∈ entry.rates, rate.isSignNegative = false := by
  simp only [validateRates, bind_ok, validateNonNegative_ok, validateOptionalNonNegative_ok,
    exists_const, PricingConfig.rates_iff]

theorem insertPricing_inserts :
    Inserts insertPricing PricingConfig.Valid (fun entry => (entry.provider, entry.model))
      PricingConfig.pricing := by
  intro pricing entry pricing'
  unfold insertPricing
  split
  · rename_i hp
    simp only [reduceCtorEq, false_iff]
    exact fun h => h.1.provider hp
  · rename_i hp
    split
    · rename_i hm
      simp only [reduceCtorEq, false_iff]
      exact fun h => h.1.model hm
    · rename_i hm
      split
      · rename_i hc
        simp only [reduceCtorEq, false_iff]
        exact fun h => h.1.currency hc
      · rename_i hc
        cases hr : validateRates entry with
        | error e =>
          simp only [reduceCtorEq, false_iff]
          intro h
          rw [validateRates_ok.2 h.1.rates] at hr
          cases hr
        | ok u =>
          have hv : entry.Valid := ⟨hp, hm, hc, validateRates_ok.1 hr⟩
          simp only [hv, true_and]
          split
          · rename_i hk
            simp [(HashMap.containsKey_iff _ _).1 hk]
          · rename_i hk
            rw [HashMap.containsKey_iff] at hk
            simp [hk, PricingConfig.pricing, eq_comm]

/-! ## Providers -/

/-- The base URL parses to a URI with scheme and authority. -/
def IsBaseUrl (P : Packages) (baseUrl : String) : Prop :=
  ∃ uri, P.uriFromStr baseUrl = some uri ∧ uri.scheme.isSome ∧ uri.authority.isSome

structure ProviderConfig.Valid (P : Packages) (provider : ProviderConfig) : Prop where
  id : Text.trim provider.id ≠ ""
  baseUrl : IsBaseUrl P provider.baseUrl
  apiKey : Text.trim provider.apiKey ≠ ""

/-- The serving provider of a provider row. -/
def ProviderConfig.provider (provider : ProviderConfig) : Provider where
  id := provider.id
  protocol := provider.protocol
  baseUrl := trimTrailingSlash provider.baseUrl
  apiKey := provider.apiKey
  anthropicVersion := provider.anthropicVersion

theorem insertProvider_inserts (P : Packages) :
    Inserts (insertProvider P) (ProviderConfig.Valid P) ProviderConfig.id
      ProviderConfig.provider := by
  intro providers provider providers'
  unfold insertProvider
  split
  · rename_i hid
    simp only [reduceCtorEq, false_iff]
    exact fun h => h.1.id hid
  · rename_i hid
    split
    · rename_i hk
      simp [(HashMap.containsKey_iff _ _).1 hk]
    · rename_i hk
      rw [HashMap.containsKey_iff] at hk
      split
      · rename_i hu
        simp only [reduceCtorEq, false_iff]
        rintro ⟨⟨-, ⟨uri, hu', -⟩, -⟩, -⟩
        rw [hu] at hu'
        cases hu'
      · rename_i uri hu
        split
        · rename_i hn
          simp only [reduceCtorEq, false_iff]
          rintro ⟨⟨-, ⟨uri', hu', hs, ha⟩, -⟩, -⟩
          obtain rfl : uri = uri' := by rw [hu] at hu'; exact Option.some.inj hu'
          rcases hn with hn | hn
          · simp [Option.isNone_iff_eq_none.1 hn] at hs
          · simp [Option.isNone_iff_eq_none.1 hn] at ha
        · rename_i hn
          split
          · rename_i ha
            simp only [reduceCtorEq, false_iff]
            exact fun h => h.1.apiKey ha
          · rename_i ha
            have hv : provider.Valid P := by
              refine ⟨hid, ⟨uri, hu, ?_⟩, ha⟩
              simpa [Option.isSome_iff_ne_none] using hn
            simp [hv, hk, ProviderConfig.provider, eq_comm]

/-! ## Models -/

structure DeploymentConfig.Valid (known : String → Prop) (deployment : DeploymentConfig) :
    Prop where
  provider : known deployment.providerId
  upstreamModel : Text.trim deployment.upstreamModel ≠ ""

/-- A model that can be routed over the providers `known`. -/
structure ModelConfig.Valid (known : String → Prop) (model : ModelConfig) : Prop where
  name : Text.trim model.name ≠ ""
  deployments : ∀ deployment ∈ model.deployments, deployment.Valid known

def DeploymentConfig.deployment (deployment : DeploymentConfig) : Deployment where
  providerId := deployment.providerId
  upstreamModel := deployment.upstreamModel

/-- The serving entry of a model row. -/
def ModelConfig.entry (model : ModelConfig) : ModelEntry where
  enabled := model.enabled
  createdAt := model.createdAt
  deployments := model.deployments.map DeploymentConfig.deployment

theorem checkDeployment_ok {name : String} {providers : HashMap String Provider}
    {deployment : DeploymentConfig} {d : Deployment} :
    checkDeployment name providers deployment = .ok d ↔
      deployment.Valid (· ∈ providers) ∧ d = deployment.deployment := by
  unfold checkDeployment
  simp only [HashMap.containsKey_iff]
  split
  · rename_i hk
    simp only [reduceCtorEq, false_iff]
    exact fun h => hk h.1.provider
  · rename_i hk
    split
    · rename_i hu
      simp only [reduceCtorEq, false_iff]
      exact fun h => h.1.upstreamModel hu
    · rename_i hu
      have hv : deployment.Valid (· ∈ providers) := ⟨not_not.1 hk, hu⟩
      simp [hv, DeploymentConfig.deployment, eq_comm]

theorem insertModel_inserts (providers : HashMap String Provider) :
    Inserts (insertModel providers) (ModelConfig.Valid (· ∈ providers)) ModelConfig.name
      ModelConfig.entry := by
  intro map model map'
  unfold insertModel
  split
  · rename_i hn
    simp only [reduceCtorEq, false_iff]
    exact fun h => h.1.name hn
  · rename_i hn
    have hmapM : ∀ ys, model.deployments.mapM (checkDeployment model.name providers) = .ok ys ↔
        (∀ deployment ∈ model.deployments, deployment.Valid (· ∈ providers)) ∧
          ys = model.deployments.map DeploymentConfig.deployment :=
      fun _ => mapM_ok fun _ _ => checkDeployment_ok
    split
    · rename_i e he
      simp only [reduceCtorEq, false_iff]
      intro h
      rw [(hmapM _).2 ⟨h.1.deployments, rfl⟩] at he
      cases he
    · rename_i ds hds
      obtain ⟨hall, rfl⟩ := (hmapM _).1 hds
      have hv : model.Valid (· ∈ providers) := ⟨hn, hall⟩
      split
      · rename_i hk
        simp [(HashMap.containsKey_iff _ _).1 hk]
      · rename_i hk
        rw [HashMap.containsKey_iff] at hk
        simp [hv, hk, ModelConfig.entry, eq_comm]

/-! ## The retry section -/

structure RetryConfig.Valid (retry : RetryConfig) : Prop where
  attempts : 1 ≤ retry.maxAttempts
  delays : retry.baseDelayMs ≤ retry.maxDelayMs
  statuses : ∀ status ∈ retry.retryableStatuses, 100 ≤ status ∧ status ≤ 599

def RetryConfig.policy (retry : RetryConfig) : RetryPolicy where
  retryableStatuses := retry.retryableStatuses.toFinset
  maxAttempts := retry.maxAttempts
  baseDelayMs := retry.baseDelayMs
  maxDelayMs := retry.maxDelayMs

theorem buildRetryPolicy_ok {retry : RetryConfig} {policy : RetryPolicy} :
    buildRetryPolicy retry = .ok policy ↔ retry.Valid ∧ policy = retry.policy := by
  unfold buildRetryPolicy
  split
  · rename_i ha
    simp only [reduceCtorEq, false_iff]
    exact fun h => absurd h.1.attempts (by omega)
  · rename_i ha
    split
    · rename_i hd
      simp only [reduceCtorEq, false_iff]
      exact fun h => absurd h.1.delays (by omega)
    · rename_i hd
      split
      · rename_i status hs
        simp only [reduceCtorEq, false_iff]
        have := List.find?_some hs
        exact fun h => of_decide_eq_true this (h.1.statuses _ (List.mem_of_find?_eq_some hs))
      · rename_i hs
        have hv : retry.Valid := by
          refine ⟨by omega, by omega, fun status hm => ?_⟩
          simpa using List.find?_eq_none.1 hs status hm
        simp [hv, RetryConfig.policy, eq_comm]

/-! ## The whole snapshot -/

/-- The fields of a snapshot that are rebuilt from the catalog and the retry section. -/
structure Routing where
  providers : HashMap String Provider
  models : HashMap String ModelEntry
  pricing : PricingMap
  retryPolicy : RetryPolicy
  deriving DecidableEq

def GatewayState.routing (state : GatewayState) : Routing where
  providers := state.providers
  models := state.models
  pricing := state.pricing
  retryPolicy := state.retryPolicy

/-- Every entry of the catalog passes its check, and the keys of each table are distinct. -/
structure CatalogSnapshot.Valid (P : Packages) (catalog : CatalogSnapshot) : Prop where
  pricing : ∀ entry ∈ catalog.pricing, entry.Valid
  pricingKeys : (catalog.pricing.map fun entry => (entry.provider, entry.model)).Nodup
  providers : ∀ provider ∈ catalog.providers, provider.Valid P
  providerIds : (catalog.providers.map ProviderConfig.id).Nodup
  models : ∀ model ∈ catalog.models, model.Valid (· ∈ catalog.providers.map ProviderConfig.id)
  modelNames : (catalog.models.map ModelConfig.name).Nodup

/-- The routing fields of a catalog and a retry section. -/
def routingOf (catalog : CatalogSnapshot) (retry : RetryConfig) : Routing where
  providers := insertAll ProviderConfig.id ProviderConfig.provider ∅ catalog.providers
  models := insertAll ModelConfig.name ModelConfig.entry ∅ catalog.models
  pricing := insertAll (fun entry => (entry.provider, entry.model)) PricingConfig.pricing ∅
    catalog.pricing
  retryPolicy := retry.policy

/-- A snapshot with the given routing fields and nothing else in it yet. -/
def GatewayState.ofRouting (routing : Routing) (upstream usageRecorder : Handle) :
    GatewayState where
  apiKeys := ∅
  providers := routing.providers
  models := routing.models
  granted := ∅
  spendCounter := .fresh
  upstream := upstream
  usageRecorder := usageRecorder
  pricing := routing.pricing
  retryPolicy := routing.retryPolicy

theorem mem_insertAll_providers {providers : List ProviderConfig} {id : String} :
    id ∈ insertAll ProviderConfig.id ProviderConfig.provider ∅ providers ↔
      id ∈ providers.map ProviderConfig.id := by
  simp [mem_insertAll, Finmap.notMem_empty]

/-- **What `from_parts` accepts, and what it builds.** -/
theorem fromParts_ok {P : Packages} {config : GatewayConfig} {catalog : CatalogSnapshot}
    {upstream usageRecorder : Handle} {state : GatewayState} :
    GatewayState.fromParts P config catalog upstream usageRecorder = .ok state ↔
      catalog.Valid P ∧ config.retry.Valid ∧
        state = .ofRouting (routingOf catalog config.retry) upstream usageRecorder := by
  simp only [GatewayState.fromParts, pricingMap, buildModelMap, bind_ok, pure, Except.pure,
    Except.ok.injEq, insertPricing_inserts.foldlM_ok, (insertProvider_inserts P).foldlM_ok,
    (insertModel_inserts _).foldlM_ok, buildRetryPolicy_ok]
  constructor
  · rintro ⟨_, ⟨hp, hpk, -, rfl⟩, _, ⟨hpr, hpi, -, rfl⟩, _, ⟨hm, hmn, -, rfl⟩, _, ⟨hr, rfl⟩, rfl⟩
    simp only [mem_insertAll_providers] at hm
    exact ⟨⟨hp, hpk, hpr, hpi, hm, hmn⟩, hr, rfl⟩
  · rintro ⟨hc, hr, rfl⟩
    refine ⟨_, ⟨hc.pricing, hc.pricingKeys, fun _ _ => Finmap.notMem_empty, rfl⟩, _,
      ⟨hc.providers, hc.providerIds, fun _ _ => Finmap.notMem_empty, rfl⟩, _,
      ⟨?_, hc.modelNames, fun _ _ => Finmap.notMem_empty, rfl⟩, _, ⟨hr, rfl⟩, rfl⟩
    simp only [mem_insertAll_providers]
    exact hc.models

end LiteAgentify
