import LiteAgentify.Model
import Mathlib.Data.Rat.Lemmas
import Mathlib.Order.Lattice

/-!
# Token usage and pricing

`src/domain/token.rs`, `src/pricing/` and the coverage check of `src/catalog/mod.rs`. Rates keep
their decimal representation (their sign bit is checked); the cost arithmetic on them is exact.
-/

set_option autoImplicit false

namespace LiteAgentify

/-! ## Token usage -/

/-- Token counts (`i64`) an upstream reported. -/
@[ext] structure TokenUsage where
  inputTokens : Option Int := none
  outputTokens : Option Int := none
  cachedInputTokens : Option Int := none
  cacheReadTokens : Option Int := none
  cacheWriteTokens : Option Int := none
  totalTokens : Option Int := none
  deriving DecidableEq, Repr

namespace TokenUsage

def hasTokens (u : TokenUsage) : Bool :=
  u.inputTokens.isSome || u.outputTokens.isSome || u.cachedInputTokens.isSome ||
    u.cacheReadTokens.isSome || u.cacheWriteTokens.isSome || u.totalTokens.isSome

/-- Fills the total from the component counts when none was reported; the `i64` sum wraps (the
release profile does not check for overflow). -/
def ensureTotal (u : TokenUsage) : TokenUsage :=
  let components := [u.inputTokens, u.outputTokens, u.cacheReadTokens, u.cacheWriteTokens]
  if u.totalTokens.isSome then u
  else if components.any Option.isSome then
    { u with totalTokens := some ((components.filterMap id).sum.bmod (2 ^ 64)) }
  else u

/-- Every field the other usage reports replaces the field here. -/
def mergeFrom (u other : TokenUsage) : TokenUsage where
  inputTokens := other.inputTokens.or u.inputTokens
  outputTokens := other.outputTokens.or u.outputTokens
  cachedInputTokens := other.cachedInputTokens.or u.cachedInputTokens
  cacheReadTokens := other.cacheReadTokens.or u.cacheReadTokens
  cacheWriteTokens := other.cacheWriteTokens.or u.cacheWriteTokens
  totalTokens := other.totalTokens.or u.totalTokens

end TokenUsage

/-! ## The pricing map -/

structure Pricing where
  inputPer1m : Decimal
  outputPer1m : Decimal
  cachedInputPer1m : Option Decimal
  cacheReadPer1m : Option Decimal
  cacheWritePer1m : Option Decimal
  currency : String
  pricingSource : Option String
  deriving DecidableEq

abbrev PricingMap := HashMap (String × String) Pricing

def validateNonNegative (name : String) (value : Decimal) : Except String Unit :=
  if value.isSignNegative then .error s!"{name} cannot be negative" else .ok ()

def validateOptionalNonNegative (name : String) (value : Option Decimal) : Except String Unit :=
  match value with
  | some value => validateNonNegative name value
  | none => .ok ()

/-- The five rate checks of a pricing entry, in order. -/
def validateRates (entry : PricingConfig) : Except String Unit := do
  validateNonNegative "input_per_1m" entry.inputPer1m
  validateNonNegative "output_per_1m" entry.outputPer1m
  validateOptionalNonNegative "cached_input_per_1m" entry.cachedInputPer1m
  validateOptionalNonNegative "cache_read_per_1m" entry.cacheReadPer1m
  validateOptionalNonNegative "cache_write_per_1m" entry.cacheWritePer1m

/-- One iteration of `pricing_map`'s loop. -/
def insertPricing (pricing : PricingMap) (entry : PricingConfig) : Except String PricingMap :=
  if Text.trim entry.provider = "" then .error "pricing provider cannot be empty"
  else if Text.trim entry.model = "" then .error "pricing model cannot be empty"
  else if Text.trim entry.currency = "" ∨ entry.currency.utf8ByteSize ≠ 3 ∨
      ¬ entry.currency.toList.all Text.isAsciiUppercase then
    .error s!"pricing entry '{entry.provider}:{entry.model}' currency must be a three-letter uppercase ISO code"
  else
    match validateRates entry with
    | .error e => .error e
    | .ok () =>
      if pricing.containsKey (entry.provider, entry.model) then
        .error s!"duplicate pricing entry '{entry.provider}:{entry.model}'"
      else .ok (pricing.insert (entry.provider, entry.model)
        { inputPer1m := entry.inputPer1m
          outputPer1m := entry.outputPer1m
          cachedInputPer1m := entry.cachedInputPer1m
          cacheReadPer1m := entry.cacheReadPer1m
          cacheWritePer1m := entry.cacheWritePer1m
          currency := entry.currency
          pricingSource := entry.pricingSource })

def pricingMap (entries : List PricingConfig) : Except String PricingMap :=
  entries.foldlM insertPricing ∅

/-! ## Cost -/

def pricingWildcard : String := "*"

def tokensPerMillion : Nat := 1000000

/-- The keys that `lookup_pricing` probes, in order. -/
def pricingKeys (provider model : String) : List (String × String) :=
  [(provider, model), (provider, pricingWildcard), (pricingWildcard, model),
    (pricingWildcard, pricingWildcard)]

def lookupPricing (pricing : PricingMap) (providerId upstreamModel : String) : Option Pricing :=
  (pricingKeys providerId upstreamModel).findSome? fun key => pricing.lookup key

def tokenCost (tokens : Int) (pricePer1m : Decimal) : ℚ :=
  tokens * pricePer1m.toRat / tokensPerMillion

/-- `i64::saturating_sub`. -/
def saturatingSub (a b : Int) : Int := max (-2 ^ 63) (min (2 ^ 63 - 1) (a - b))

/-- Estimated cost, currency and pricing source of a usage, when a rule covers it. -/
def calculateCost (pricing : PricingMap) (providerId : String) (upstreamModel : Option String)
    (usage : TokenUsage) : Option (ℚ × String × Option String) := do
  let upstreamModel ← upstreamModel
  guard usage.hasTokens
  let price ← lookupPricing pricing providerId upstreamModel
  let cachedInput := usage.cachedInputTokens.getD 0
  let cacheRead := usage.cacheReadTokens.getD 0
  let cacheWrite := usage.cacheWriteTokens.getD 0
  guard ¬(cachedInput > 0 ∧ price.cachedInputPer1m.isNone)
  guard ¬(cacheRead > 0 ∧ price.cacheReadPer1m.isNone)
  guard ¬(cacheWrite > 0 ∧ price.cacheWritePer1m.isNone)
  let regularInput := max (saturatingSub (usage.inputTokens.getD 0) cachedInput) 0
  let cost := tokenCost regularInput price.inputPer1m
  let cost := cost + tokenCost (usage.outputTokens.getD 0) price.outputPer1m
  let cost := cost + (price.cachedInputPer1m.map (tokenCost cachedInput)).getD 0
  let cost := cost + (price.cacheReadPer1m.map (tokenCost cacheRead)).getD 0
  let cost := cost + (price.cacheWritePer1m.map (tokenCost cacheWrite)).getD 0
  return (cost, price.currency, price.pricingSource)

/-! ## Coverage -/

/-- The rule covering `(provider, model)`, with the wildcard fallback. -/
def pricingRuleFor (pricing : List PricingConfig) (provider model : String) :
    Option PricingConfig :=
  let lookup := [(provider, model), (provider, "*"), ("*", model), ("*", "*")]
  lookup.findSome? fun key =>
    pricing.find? fun rule => rule.provider = key.1 ∧ rule.model = key.2

/-- The coverage check falls back over the keys of the billing lookup. -/
theorem pricingRuleFor_keys (pricing : List PricingConfig) (provider model : String) :
    pricingRuleFor pricing provider model =
      (pricingKeys provider model).findSome? fun key =>
        pricing.find? fun rule => rule.provider = key.1 ∧ rule.model = key.2 := rfl

/-- The deployments of a model that no rule covers; empty means listable. -/
def uncoveredDeployments (model : ModelConfig) (pricing : List PricingConfig) :
    List DeploymentConfig :=
  model.deployments.filter fun deployment =>
    (pricingRuleFor pricing deployment.providerId deployment.upstreamModel).isNone

end LiteAgentify
