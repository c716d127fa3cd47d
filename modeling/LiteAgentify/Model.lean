import LiteAgentify.Base

/-!
# Configuration, catalog and routing types

`src/model.rs`, `src/config.rs` and the catalog types of `src/catalog/mod.rs`: what the file and the
database say (`GatewayConfig`, `CatalogSnapshot`) and what the serving snapshot holds of it
(`Provider`, `ModelEntry`, `RetryPolicy`).
-/

set_option autoImplicit false

namespace LiteAgentify

inductive Protocol
  | openAi
  | anthropic
  deriving DecidableEq, Repr

/-- `Display`: the name an error message or the `protocol` column gives a protocol. -/
def Protocol.toString : Protocol → String
  | .openAi => "openai"
  | .anthropic => "anthropic"

structure Provider where
  id : String
  protocol : Protocol
  baseUrl : String
  apiKey : String
  anthropicVersion : Option String
  deriving DecidableEq

/-- One hop in a model's failover chain. -/
structure Deployment where
  providerId : String
  upstreamModel : String
  deriving DecidableEq

/-- A catalog entry; the deployments are in priority order. -/
structure ModelEntry where
  enabled : Bool
  createdAt : DateTime
  deployments : List Deployment
  deriving DecidableEq

/-- The endpoint protocol implied by a request path. -/
def protocolOf (path : String) : Option Protocol :=
  if path = "/v1/chat/completions" ∨ path = "/v1/responses" then some .openAi
  else if path = "/v1/messages" then some .anthropic
  else none

def trimTrailingSlash (value : String) : String := Text.trimEndMatches '/' value

/-! ## Retries -/

structure RetryPolicy where
  retryableStatuses : Finset Nat
  maxAttempts : Nat
  baseDelayMs : Nat
  maxDelayMs : Nat
  deriving DecidableEq

namespace RetryPolicy

def isRetryable (retry : RetryPolicy) (status : Nat) : Bool := status ∈ retry.retryableStatuses

/-- Full-jitter backoff; the saturating `u64` product, then the fraction taken exactly. -/
def backoffMs (retry : RetryPolicy) (attempt : Nat) (jitter : ℚ) : Nat :=
  let ceiling := min (min (retry.baseDelayMs * 2 ^ min attempt 63) (2 ^ 64 - 1)) retry.maxDelayMs
  (Rat.floor (ceiling * max 0 (min 1 jitter))).toNat

def capDelayMs (retry : RetryPolicy) (delayMs : Nat) : Nat := min delayMs retry.maxDelayMs

end RetryPolicy

/-- The `[retry]` section of the file. -/
structure RetryConfig where
  retryableStatuses : List Nat := [429, 529]
  maxAttempts : Nat := 4
  baseDelayMs : Nat := 1000
  maxDelayMs : Nat := 8000
  deriving DecidableEq

/-! ## Configuration and catalog -/

structure ProviderConfig where
  id : String
  protocol : Protocol
  baseUrl : String
  apiKey : String
  anthropicVersion : Option String := none
  /-- A hash map; the list gives its entries in iteration order. -/
  modelAliases : List (String × String) := []
  deriving DecidableEq

structure PricingConfig where
  provider : String
  model : String
  inputPer1m : Decimal
  outputPer1m : Decimal
  cachedInputPer1m : Option Decimal := none
  cacheReadPer1m : Option Decimal := none
  cacheWritePer1m : Option Decimal := none
  currency : String
  pricingSource : Option String := none
  deriving DecidableEq

structure RouteConfig where
  pathPrefix : String
  providers : List String
  deriving DecidableEq

/-- The configuration file (the sections the modelled code reads). -/
structure GatewayConfig where
  gatewayKeys : List String := []
  adminPassword : Option String := none
  providers : List ProviderConfig := []
  routes : List RouteConfig := []
  pricing : List PricingConfig := []
  retry : RetryConfig := {}
  deriving DecidableEq

structure DeploymentConfig where
  providerId : String
  upstreamModel : String
  deriving DecidableEq

structure ModelConfig where
  name : String
  enabled : Bool
  createdAt : DateTime
  deployments : List DeploymentConfig
  deriving DecidableEq

/-- The database-sourced configuration that seeds the serving snapshot. -/
structure CatalogSnapshot where
  providers : List ProviderConfig := []
  pricing : List PricingConfig := []
  models : List ModelConfig := []
  deriving DecidableEq

end LiteAgentify
