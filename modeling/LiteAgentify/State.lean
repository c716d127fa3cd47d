import LiteAgentify.Account
import LiteAgentify.Pricing
import LiteAgentify.Quota
import Mathlib.Data.Finset.Sort
import Mathlib.Data.String.Basic

/-!
# The serving snapshot

`src/state.rs`: `GatewayState`, its construction from the file and the catalog (`fromParts`), the
three replacements that refreshes use, and the decisions made from it: `authorize`, `checkQuota`,
`resolve`, `listableModels`.
-/

set_option autoImplicit false

namespace LiteAgentify

/-- Which shared counter a snapshot points to. -/
inductive SpendCounter
  /-- The counter `from_parts` allocates (`MemoryCounter::default`). -/
  | fresh
  | shared (id : Nat)
  deriving DecidableEq

/-- A shared `UpstreamClient` or `UsageRecorder`. -/
abbrev Handle := Nat

structure GatewayState where
  apiKeys : ApiKeyMap
  providers : HashMap String Provider
  models : HashMap String ModelEntry
  granted : HashMap Uuid ℚ
  spendCounter : SpendCounter
  upstream : Handle
  usageRecorder : Handle
  pricing : PricingMap
  retryPolicy : RetryPolicy
  deriving DecidableEq

/-! ## Building a snapshot -/

/-- One iteration of `from_parts`'s provider loop. -/
def insertProvider (P : Packages) (providers : HashMap String Provider)
    (provider : ProviderConfig) : Except String (HashMap String Provider) :=
  if Text.trim provider.id = "" then .error "provider id cannot be empty"
  else if providers.containsKey provider.id then
    .error s!"duplicate provider id '{provider.id}'"
  else
    match P.uriFromStr provider.baseUrl with
    | none => .error s!"invalid base URL for provider '{provider.id}'"
    | some baseUri =>
      if baseUri.scheme.isNone ∨ baseUri.authority.isNone then
        .error s!"provider '{provider.id}' base URL must include scheme and host"
      else if Text.trim provider.apiKey = "" then
        .error s!"provider '{provider.id}' api_key cannot be empty"
      else .ok (providers.insert provider.id
        { id := provider.id
          protocol := provider.protocol
          baseUrl := trimTrailingSlash provider.baseUrl
          apiKey := provider.apiKey
          anthropicVersion := provider.anthropicVersion })

/-- One iteration of `build_model_map`'s deployment loop. -/
def checkDeployment (name : String) (providers : HashMap String Provider)
    (deployment : DeploymentConfig) : Except String Deployment :=
  if ¬ providers.containsKey deployment.providerId then
    .error s!"model '{name}' references unknown provider '{deployment.providerId}'"
  else if Text.trim deployment.upstreamModel = "" then
    .error s!"model '{name}' has an empty upstream model for provider '{deployment.providerId}'"
  else .ok { providerId := deployment.providerId, upstreamModel := deployment.upstreamModel }

/-- One iteration of `build_model_map`'s model loop. -/
def insertModel (providers : HashMap String Provider) (map : HashMap String ModelEntry)
    (model : ModelConfig) : Except String (HashMap String ModelEntry) :=
  if Text.trim model.name = "" then .error "model name cannot be empty"
  else
    match model.deployments.mapM (checkDeployment model.name providers) with
    | .error e => .error e
    | .ok deployments =>
      if map.containsKey model.name then .error s!"duplicate model '{model.name}'"
      else .ok (map.insert model.name
        { enabled := model.enabled, createdAt := model.createdAt, deployments := deployments })

def buildModelMap (models : List ModelConfig) (providers : HashMap String Provider) :
    Except String (HashMap String ModelEntry) :=
  models.foldlM (insertModel providers) ∅

/-- The retry checks of `from_parts`. -/
def buildRetryPolicy (retry : RetryConfig) : Except String RetryPolicy :=
  if retry.maxAttempts < 1 then .error "retry.max_attempts must be at least 1"
  else if retry.baseDelayMs > retry.maxDelayMs then
    .error s!"retry.base_delay_ms ({retry.baseDelayMs}) must not exceed retry.max_delay_ms ({retry.maxDelayMs})"
  else
    match retry.retryableStatuses.find? fun status => ¬ (100 ≤ status ∧ status ≤ 599) with
    | some status =>
      .error s!"retry.retryable_statuses contains out-of-range HTTP status {status}"
    | none => .ok
      { retryableStatuses := retry.retryableStatuses.toFinset
        maxAttempts := retry.maxAttempts
        baseDelayMs := retry.baseDelayMs
        maxDelayMs := retry.maxDelayMs }

namespace GatewayState

/-- Builds the snapshot from the file and the database-sourced catalog. The key map and the grants
start empty, the counter is a new one. -/
def fromParts (P : Packages) (config : GatewayConfig) (catalog : CatalogSnapshot)
    (upstream usageRecorder : Handle) : Except String GatewayState := do
  let pricing ← pricingMap catalog.pricing
  let providers ← catalog.providers.foldlM (insertProvider P) ∅
  let models ← buildModelMap catalog.models providers
  let retryPolicy ← buildRetryPolicy config.retry
  return {
    apiKeys := ∅
    providers := providers
    models := models
    granted := ∅
    spendCounter := .fresh
    upstream := upstream
    usageRecorder := usageRecorder
    pricing := pricing
    retryPolicy := retryPolicy }

def withApiKeys (state : GatewayState) (apiKeys : ApiKeyMap) : GatewayState :=
  { state with apiKeys := apiKeys }

def withGranted (state : GatewayState) (granted : HashMap Uuid ℚ) : GatewayState :=
  { state with granted := granted }

def withSpendCounter (state : GatewayState) (spendCounter : SpendCounter) : GatewayState :=
  { state with spendCounter := spendCounter }

end GatewayState

/-! ## Authentication -/

/-- The credentials a request presents, in the order they are tried. -/
def gatewayKeyCandidates (P : Packages) (headers : HeaderMap) : List String :=
  let authorization :=
    match (headers.get "authorization").bind P.headerToStr with
    | some value => [(Text.stripPrefix "Bearer " value).getD value,
        (Text.stripPrefix "bearer " value).getD value]
    | none => []
  authorization ++
    ["x-api-key", "api-key"].filterMap fun name => (headers.get name).bind P.headerToStr

namespace GatewayState

/-- The identity of the first presented credential that is an active key. -/
def authorize (state : GatewayState) (P : Packages) (headers : HeaderMap) : Option KeyIdentity :=
  (gatewayKeyCandidates P headers).findSome? fun candidate =>
    state.apiKeys.lookup (hashApiKey P candidate)

end GatewayState

/-! ## Resolution -/

/-- One resolved failover hop. -/
structure ResolvedDeployment where
  provider : Provider
  upstreamModel : String
  deriving DecidableEq

inductive Resolution
  | chain (chain : List ResolvedDeployment)
  | unknownModel
  | forbidden
  | wrongProtocol (available : List Protocol)
  deriving DecidableEq

namespace GatewayState

/-- The deployments on the endpoint's protocol, in catalog order, and the other protocols the model
is reachable on. -/
def filterDeployments (state : GatewayState) (protocol : Protocol) (deployments : List Deployment) :
    List ResolvedDeployment × List Protocol :=
  deployments.foldl (fun (chain, available) deployment =>
    match state.providers.lookup deployment.providerId with
    | none => (chain, available)
    | some provider =>
      if provider.protocol = protocol then
        (chain ++ [{ provider := provider, upstreamModel := deployment.upstreamModel }], available)
      else if provider.protocol ∉ available then (chain, available ++ [provider.protocol])
      else (chain, available)) ([], [])

def resolve (state : GatewayState) (protocol : Protocol) (model : String)
    (identity : KeyIdentity) : Resolution :=
  match state.models.lookup model with
  | none => .unknownModel
  | some entry =>
    if ¬ entry.enabled then .unknownModel
    else if ¬ identity.mayCall model then .forbidden
    else
      let (chain, available) := state.filterDeployments protocol entry.deployments
      if chain.isEmpty then .wrongProtocol available else .chain chain

/-- The enabled models the key may call, sorted by name. -/
def listableModels (state : GatewayState) (identity : KeyIdentity) : List (String × ModelEntry) :=
  (state.models.keys.sort (· ≤ ·)).filterMap fun name =>
    (state.models.lookup name).bind fun entry =>
      if entry.enabled && identity.mayCall name then some (name, entry) else none

end GatewayState

/-! ## Quota -/

inductive QuotaDecision
  | allowed
  | userExhausted (granted : ℚ)
  | keyCapReached (cap : ℚ)
  deriving DecidableEq

namespace GatewayState

/-- The first half of `check_quota`: the user's spend against the grants. -/
def checkUserQuota (state : GatewayState) (identity : KeyIdentity) (spentUser : ℚ) :
    QuotaDecision :=
  let granted := (state.granted.lookup identity.userId).getD 0
  if spentUser ≥ granted then .userExhausted granted else .allowed

/-- The second half of `check_quota`: the key's spend against its cap, read only for a capped
key. -/
def checkKeyQuota (identity : KeyIdentity) (spentKey : ℚ) : QuotaDecision :=
  match identity.spendCapUsd with
  | some cap => if spentKey ≥ cap then .keyCapReached cap else .allowed
  | none => .allowed

/-- The quota decision from the two counter reads, made one after the other. -/
def checkQuota (state : GatewayState) (identity : KeyIdentity) (spentUser spentKey : ℚ) :
    QuotaDecision :=
  match state.checkUserQuota identity spentUser with
  | .allowed => checkKeyQuota identity spentKey
  | decision => decision

end GatewayState

end LiteAgentify
