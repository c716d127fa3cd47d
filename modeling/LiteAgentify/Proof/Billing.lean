import LiteAgentify.Proof.Listing
import LiteAgentify.Proof.Accounting
import Mathlib.Data.List.Find

/-!
# What a reported usage costs

`calculateCost_eq`: a usage costs something when a rule is found for the deployment and the rule
prices every cache class that the usage counts (`Pricing.Prices`). The listing gate gives the rule,
so a covered deployment is billed exactly for the usages that its rule prices (`covered_billing`). A
cost is positive exactly when one of the counts it is computed from is
(`counted_tokens_billed`); the reported total is not one of them.
-/

set_option autoImplicit false

namespace LiteAgentify

/-! ## Reported usages -/

/-- The parser of a protocol. -/
def parseUsage (protocol : Protocol) (usage : Json) : Option TokenUsage :=
  match protocol with
  | .openAi => parseOpenaiUsage usage
  | .anthropic => parseAnthropicUsage usage

/-- The usages that the parser of a protocol yields, directly or merged by an observer. -/
inductive Reported (P : Packages) (protocol : Protocol) : TokenUsage → Prop
  | parsed {value : Json} {usage : TokenUsage} :
      parseUsage protocol value = some usage → Reported P protocol usage
  | observed {chunks : List Bytes} {usage : TokenUsage} :
      ((chunks.foldl (UsageObserver.feed P) (.new protocol)).finish P).2 = some usage →
      Reported P protocol usage

namespace TokenUsage

/-- The counts a usage gives. -/
def counts (u : TokenUsage) : List Int :=
  [u.inputTokens, u.outputTokens, u.cachedInputTokens, u.cacheReadTokens, u.cacheWriteTokens,
    u.totalTokens].filterMap id

/-- What a usage of a protocol looks like: it counts something, no count is negative, and only the
OpenAI protocol reports a total. -/
structure WellReported (protocol : Protocol) (u : TokenUsage) : Prop where
  hasTokens : u.hasTokens = true
  nonneg : ∀ count ∈ u.counts, 0 ≤ count
  total : protocol = .anthropic → u.totalTokens = none

theorem mem_counts {u : TokenUsage} {count : Int} :
    count ∈ u.counts ↔ u.inputTokens = some count ∨ u.outputTokens = some count ∨
      u.cachedInputTokens = some count ∨ u.cacheReadTokens = some count ∨
      u.cacheWriteTokens = some count ∨ u.totalTokens = some count := by
  simp [counts, @eq_comm _ (some count)]

theorem mem_counts_merge {u v : TokenUsage} {count : Int} (h : count ∈ (u.mergeFrom v).counts) :
    count ∈ u.counts ∨ count ∈ v.counts := by
  simp only [mem_counts, mergeFrom, Option.or_eq_some_iff] at h ⊢
  tauto

end TokenUsage

theorem number_nonneg {value : Json} {key : String} {n : Int} (h : number value key = some n) :
    0 ≤ n := by
  simp only [number, Option.bind_eq_bind, Option.bind_eq_some_iff] at h
  obtain ⟨_, _, m, _, hm⟩ := h
  split at hm
  · rename_i hpos
    cases hm
    exact hpos
  · cases hm

theorem parseUsage_wellReported {protocol : Protocol} {value : Json} {usage : TokenUsage}
    (h : parseUsage protocol value = some usage) : usage.WellReported protocol := by
  cases protocol with
  | openAi =>
    simp only [parseUsage, parseOpenaiUsage, Option.ite_none_right_eq_some, Option.some.injEq] at h
    obtain ⟨hhas, rfl⟩ := h
    refine ⟨hhas, fun count hcount => ?_, fun h => (by cases h)⟩
    simp only [TokenUsage.mem_counts, reduceCtorEq, false_or] at hcount
    rcases hcount with h | h | h | h
    · exact number_nonneg h
    · exact number_nonneg h
    · obtain ⟨details, -, h⟩ := Option.bind_eq_some_iff.1 h
      exact number_nonneg h
    · exact number_nonneg h
  | anthropic =>
    simp only [parseUsage, parseAnthropicUsage, Option.ite_none_right_eq_some,
      Option.some.injEq] at h
    obtain ⟨hhas, rfl⟩ := h
    refine ⟨hhas, fun count hcount => ?_, fun _ => rfl⟩
    simp only [TokenUsage.mem_counts, reduceCtorEq, false_or, or_false] at hcount
    rcases hcount with h | h | h | h <;> exact number_nonneg h

/-- A line reports what the parser of the protocol yields. -/
theorem reportedUsage_parsed {P : Packages} {protocol : Protocol} {line : Bytes}
    {usage : TokenUsage} (h : reportedUsage P protocol line = some usage) :
    ∃ value, parseUsage protocol value = some usage := by
  simp only [reportedUsage, Option.bind_eq_bind, Option.bind_eq_some_iff] at h
  obtain ⟨_, _, _, _, _, _, value, _, h⟩ := h
  cases protocol with
  | openAi =>
    obtain ⟨member, -, h⟩ := Option.bind_eq_some_iff.1 h
    exact ⟨member, h⟩
  | anthropic =>
    rcases Option.or_eq_some_iff.1 h with h | ⟨-, h⟩
    · obtain ⟨member, -, h⟩ := Option.bind_eq_some_iff.1 h
      exact ⟨member, h⟩
    · obtain ⟨member, -, h⟩ := Option.bind_eq_some_iff.1 h
      exact ⟨member, h⟩

/-- Merging well reported usages gives a well reported one, unless there is nothing to merge. -/
theorem foldl_wellReported {protocol : Protocol} {reports : List TokenUsage}
    (hr : ∀ report ∈ reports, report.WellReported protocol) (hne : reports ≠ []) :
    (reports.foldl TokenUsage.mergeFrom {}).WellReported protocol := by
  induction reports using List.reverseRecOn with
  | nil => exact absurd rfl hne
  | append_singleton reports report ih =>
    rw [List.foldl_append, List.foldl_cons, List.foldl_nil]
    have hlast := hr report (by simp)
    have hfirst : ∀ r ∈ reports, r.WellReported protocol := fun r h =>
      hr r (List.mem_append_left _ h)
    by_cases hnil : reports = []
    · -- the first report: merged into the empty usage
      subst hnil
      refine ⟨?_, fun count hc => ?_, fun hp => ?_⟩
      · simpa [TokenUsage.hasTokens, TokenUsage.mergeFrom] using hlast.hasTokens
      · rcases TokenUsage.mem_counts_merge hc with hc | hc
        · simp [TokenUsage.counts] at hc
        · exact hlast.nonneg count hc
      · simp [TokenUsage.mergeFrom, hlast.total hp]
    · have hprev := ih hfirst hnil
      refine ⟨?_, fun count hc => ?_, fun hp => ?_⟩
      · have := hprev.hasTokens
        simp only [TokenUsage.hasTokens, TokenUsage.mergeFrom, Option.isSome_or,
          Bool.or_eq_true] at this ⊢
        tauto
      · rcases TokenUsage.mem_counts_merge hc with hc | hc
        · exact hprev.nonneg count hc
        · exact hlast.nonneg count hc
      · simp [TokenUsage.mergeFrom, hlast.total hp, hprev.total hp]

theorem Reported.wellReported {P : Packages} {protocol : Protocol} {usage : TokenUsage}
    (h : Reported P protocol usage) : usage.WellReported protocol := by
  cases h with
  | parsed h => exact parseUsage_wellReported h
  | @observed chunks _ h =>
    rw [UsageObserver.finish_feed] at h
    simp only [streamUsage, ← foldl_mergeFrom] at h
    split at h
    · cases h
    · rename_i hne
      cases h
      refine foldl_wellReported (fun report hreport => ?_) hne
      obtain ⟨line, -, hline⟩ := List.mem_filterMap.1 hreport
      obtain ⟨value, hvalue⟩ := reportedUsage_parsed hline
      exact parseUsage_wellReported hvalue

/-! ## Costs -/

namespace Pricing

/-- Every cache class that the usage counts has a rate. -/
def Prices (price : Pricing) (usage : TokenUsage) : Prop :=
  (0 < usage.cachedInputTokens.getD 0 → price.cachedInputPer1m.isSome) ∧
    (0 < usage.cacheReadTokens.getD 0 → price.cacheReadPer1m.isSome) ∧
    (0 < usage.cacheWriteTokens.getD 0 → price.cacheWritePer1m.isSome)

instance (price : Pricing) (usage : TokenUsage) : Decidable (price.Prices usage) :=
  inferInstanceAs (Decidable (_ ∧ _))

/-- The cost of a cache class. -/
def cacheCost (tokens : Int) (rate : Option Decimal) : ℚ := (rate.map (tokenCost tokens)).getD 0

/-- The input tokens that are not cached. -/
def regularInput (usage : TokenUsage) : Int :=
  max (saturatingSub (usage.inputTokens.getD 0) (usage.cachedInputTokens.getD 0)) 0

/-- The sum over the five classes of tokens. -/
def cost (price : Pricing) (usage : TokenUsage) : ℚ :=
  tokenCost (regularInput usage) price.inputPer1m +
    tokenCost (usage.outputTokens.getD 0) price.outputPer1m +
    cacheCost (usage.cachedInputTokens.getD 0) price.cachedInputPer1m +
    cacheCost (usage.cacheReadTokens.getD 0) price.cacheReadPer1m +
    cacheCost (usage.cacheWriteTokens.getD 0) price.cacheWritePer1m

end Pricing

theorem guard_bind {α : Type} {p : Prop} [Decidable p] (x : Option α) :
    ((guard p : Option Unit).bind fun _ => x) = if p then x else none := by
  by_cases h : p
  · rw [guard, if_pos h, if_pos h]
    rfl
  · rw [guard, if_neg h, if_neg h]
    rfl

/-- A usage costs something when a rule is found and prices it. -/
theorem calculateCost_eq {pricing : PricingMap} {providerId upstreamModel : String}
    {usage : TokenUsage} (h : usage.hasTokens = true) :
    calculateCost pricing providerId (some upstreamModel) usage =
      (lookupPricing pricing providerId upstreamModel).bind fun price =>
        if price.Prices usage then
          some (price.cost usage, price.currency, price.pricingSource)
        else none := by
  simp only [calculateCost, Option.bind_eq_bind, Option.bind_some, h, guard_true, Option.pure_def]
  cases lookupPricing pricing providerId upstreamModel with
  | none => rfl
  | some price =>
    simp only [Option.bind_some]
    have hguard : ∀ (n : Int) (rate : Option Decimal),
        (0 < n → rate.isSome) ↔ ¬(n > 0 ∧ rate.isNone) := by
      intro n rate
      cases rate <;> simp
    simp only [guard_bind, ← ite_and, Pricing.Prices, hguard]
    rfl

/-- The total plays no part in the cost. -/
theorem calculateCost_ensureTotal {pricing : PricingMap} {providerId : String}
    {upstreamModel : Option String} {usage : TokenUsage} (h : usage.hasTokens = true) :
    calculateCost pricing providerId upstreamModel usage.ensureTotal =
      calculateCost pricing providerId upstreamModel usage := by
  have htotal : ∀ total, (TokenUsage.mk usage.inputTokens usage.outputTokens
      usage.cachedInputTokens usage.cacheReadTokens usage.cacheWriteTokens (some total)).hasTokens
        = true := by
    intro total
    simp [TokenUsage.hasTokens]
  cases upstreamModel with
  | none => rfl
  | some upstreamModel =>
    simp only [TokenUsage.ensureTotal]
    split
    · rfl
    · split
      · rw [calculateCost_eq (htotal _), calculateCost_eq h]
        rfl
      · rfl

/-- The lookup in the map that the rules build finds the rule that the gate finds. -/
theorem lookupPricing_eq {rules : List PricingConfig} {pricing : PricingMap}
    (h : pricingMap rules = .ok pricing) (providerId upstreamModel : String) :
    lookupPricing pricing providerId upstreamModel =
      (pricingRuleFor rules providerId upstreamModel).map PricingConfig.pricing := by
  rw [lookupPricing, pricingRuleFor_keys, List.map_findSome?]
  congr 1
  funext key
  cases hf : rules.find? fun rule => rule.provider = key.1 ∧ rule.model = key.2 with
  | some rule =>
    have hkey : (rule.provider, rule.model) = key := by
      have := List.find?_some hf
      simpa [Prod.ext_iff] using this
    have := insertPricing_inserts.lookup h (List.mem_of_find?_eq_some hf)
    simp only [Function.comp_apply, hf, Option.map_some]
    rw [← hkey]
    exact this
  | none =>
    simp only [Function.comp_apply, hf, Option.map_none, Finmap.lookup_eq_none,
      insertPricing_inserts.mem_iff h, not_exists, not_and]
    intro rule hrule hkey
    have := List.find?_eq_none.1 hf rule hrule
    simp [← hkey] at this

/-- The order of the rules does not decide which one the gate finds. -/
theorem pricingRuleFor_perm {rules rules' : List PricingConfig} {pricing : PricingMap}
    (h : pricingMap rules = .ok pricing) (hp : rules.Perm rules')
    (providerId upstreamModel : String) :
    pricingRuleFor rules providerId upstreamModel =
      pricingRuleFor rules' providerId upstreamModel := by
  obtain ⟨-, hnd, -⟩ := insertPricing_inserts.foldlM_ok.1 h
  rw [pricingRuleFor_keys, pricingRuleFor_keys]
  congr 1
  funext key
  refine List.find?_eq_find?_of_perm hp fun a ⟨ha, hka⟩ b ⟨hb, hkb⟩ => ?_
  have hkey : (a.provider, a.model) = (b.provider, b.model) := by
    obtain ⟨ha₁, ha₂⟩ := of_decide_eq_true hka
    obtain ⟨hb₁, hb₂⟩ := of_decide_eq_true hkb
    rw [ha₁, ha₂, hb₁, hb₂]
  exact List.inj_on_of_nodup_map hnd ha hb hkey

/-- **The gate and the bill find the same rule.** For every rule list that is accepted, in any
order, and every provider and model: there is a price exactly when there is a rule, and it is the
rule's. -/
theorem pricing_lookups_agree {rules : List PricingConfig} {pricing : PricingMap}
    (h : pricingMap rules = .ok pricing) (providerId upstreamModel : String) :
    ((lookupPricing pricing providerId upstreamModel).isSome ↔
        (pricingRuleFor rules providerId upstreamModel).isSome) ∧
      (∀ rule, pricingRuleFor rules providerId upstreamModel = some rule →
        lookupPricing pricing providerId upstreamModel = some rule.pricing) ∧
      ∀ rules', rules.Perm rules' → ∃ pricing', pricingMap rules' = .ok pricing' ∧
        lookupPricing pricing' providerId upstreamModel =
          lookupPricing pricing providerId upstreamModel ∧
        pricingRuleFor rules' providerId upstreamModel =
          pricingRuleFor rules providerId upstreamModel := by
  have hsame := lookupPricing_eq h providerId upstreamModel
  refine ⟨?_, fun rule hrule => ?_, fun rules' hp => ⟨pricing, ?_, rfl, ?_⟩⟩
  · rw [hsame, Option.isSome_map]
  · rw [hsame, hrule]
    rfl
  · exact insertPricing_inserts.foldlM_perm hp h
  · exact (pricingRuleFor_perm h hp providerId upstreamModel).symm

/-- A rule for all and one of a provider. -/
def twoRules : List PricingConfig :=
  [{ provider := "*", model := "*", inputPer1m := .ofUInt8 3, outputPer1m := .ofUInt8 15,
     currency := "USD" },
    { provider := "p", model := "*", inputPer1m := .ofUInt8 1, outputPer1m := .ofUInt8 2,
      currency := "EUR" }]

/-- The provider's own rule is billed, whichever of the two comes first. -/
theorem pricing_lookups_agree_sample :
    ∃ pricing, pricingMap twoRules = .ok pricing ∧ ∃ pricing',
      pricingMap twoRules.reverse = .ok pricing' ∧
      (lookupPricing pricing' "p" "u").map Pricing.currency = some "EUR" := by
  have hrule : pricingRuleFor twoRules "p" "u" = twoRules[1]? := by decide
  obtain ⟨pricing, hpricing⟩ : ∃ pricing, pricingMap twoRules = .ok pricing := ⟨_, rfl⟩
  obtain ⟨-, hprice, hperm⟩ := pricing_lookups_agree hpricing "p" "u"
  obtain ⟨pricing', hmap, hsame, -⟩ := hperm twoRules.reverse (List.reverse_perm _).symm
  refine ⟨pricing, hpricing, pricing', hmap, ?_⟩
  rw [hsame, hprice _ hrule]
  rfl

/-! ## The listing gate -/

/-- The adds of a cost to the counters of a user and a key. -/
def charges (userId apiKeyId : Option Uuid) (cost : ℚ) : List (Scope × ℚ) :=
  (userId.map fun id => (Scope.user id, cost)).toList ++
    (apiKeyId.map fun id => (Scope.key id, cost)).toList

/-- The cost that `record_usage` computes. -/
def recordedCost (state : GatewayState) (metadata : UsageMetadata) (usage : Option TokenUsage) :
    Option (ℚ × String × Option String) :=
  calculateCost state.pricing metadata.providerId metadata.upstreamModel
    (usage.getD {}).ensureTotal

theorem adds_recordUsage (state : GatewayState) (metadata : UsageMetadata) (source : UsageSource)
    (usage : Option TokenUsage) (now : DateTime) :
    adds (recordUsage state metadata source usage now) =
      match recordedCost state metadata usage with
      | some (cost, _, _) => charges metadata.userId metadata.apiKeyId cost
      | none => [] := by
  simp only [recordUsage, recordedCost]
  cases calculateCost state.pricing metadata.providerId metadata.upstreamModel
      (usage.getD {}).ensureTotal with
  | none => rfl
  | some cost => cases metadata.userId <;> cases metadata.apiKeyId <;> rfl

/-- **What the gate makes billable.** A deployment that the gate lets through has a rule; a usage of
it is billed exactly when this rule prices every cache class that the usage counts, and then the
counters advance by the cost. -/
theorem covered_billing {P : Packages} {catalog : CatalogSnapshot} {pricing : PricingMap}
    (hgate : ∀ model ∈ catalog.models, model.enabled →
      uncoveredDeployments model catalog.pricing = [])
    (hpricing : pricingMap catalog.pricing = .ok pricing) {model : ModelConfig}
    (hmodel : model ∈ catalog.models) (henabled : model.enabled) {deployment : DeploymentConfig}
    (hdeployment : deployment ∈ model.deployments) {protocol : Protocol} {usage : TokenUsage}
    (husage : Reported P protocol usage) :
    ∃ rule, pricingRuleFor catalog.pricing deployment.providerId deployment.upstreamModel =
        some rule ∧
      ((calculateCost pricing deployment.providerId (some deployment.upstreamModel) usage).isSome ↔
        rule.pricing.Prices usage) ∧
      ∀ (state : GatewayState) (metadata : UsageMetadata) (source : UsageSource) (now : DateTime),
        state.pricing = pricing → metadata.providerId = deployment.providerId →
        metadata.upstreamModel = some deployment.upstreamModel →
        adds (recordUsage state metadata source (some usage) now) =
          if rule.pricing.Prices usage then
            charges metadata.userId metadata.apiKeyId (rule.pricing.cost usage)
          else [] := by
  have hhas := husage.wellReported.hasTokens
  have hcovered := uncovered_eq_nil.1 (hgate model hmodel henabled) deployment hdeployment
  obtain ⟨rule, hrule⟩ := Option.isSome_iff_exists.1 (pricingRuleFor_isSome.2 hcovered)
  have hcost : calculateCost pricing deployment.providerId (some deployment.upstreamModel) usage =
      if rule.pricing.Prices usage then
        some (rule.pricing.cost usage, rule.currency, rule.pricingSource)
      else none := by
    rw [calculateCost_eq hhas, lookupPricing_eq hpricing, hrule]
    rfl
  refine ⟨rule, hrule, ?_, ?_⟩
  · rw [hcost]
    split <;> simp_all
  · intro state metadata source now hstate hprovider hupstream
    rw [adds_recordUsage, recordedCost, hstate, hprovider, hupstream, Option.getD_some,
      calculateCost_ensureTotal hhas, hcost]
    by_cases hprices : rule.pricing.Prices usage
    · rw [if_pos hprices, if_pos hprices]
    · rw [if_neg hprices, if_neg hprices]

def gateModel : ModelConfig := ⟨"m", true, 0, [⟨"p", "u"⟩]⟩

/-- A catalog with one enabled model, covered by a rule without cache rates. -/
def gateCatalog : CatalogSnapshot where
  providers := [{ id := "p", protocol := .openAi, baseUrl := "https://p", apiKey := "k" }]
  pricing := [{ provider := "*", model := "*", inputPer1m := .ofUInt8 3, outputPer1m := .ofUInt8 15,
                currency := "USD" }]
  models := [gateModel]

def gatePricing : PricingMap :=
  (∅ : PricingMap).insert ("*", "*")
    { inputPer1m := .ofUInt8 3, outputPer1m := .ofUInt8 15, cachedInputPer1m := none,
      cacheReadPer1m := none, cacheWritePer1m := none, currency := "USD", pricingSource := none }

def cachedUsageObject : Json :=
  .object [("completion_tokens", .number (.posInt 200)), ("prompt_tokens", .number (.posInt 1000)),
    ("prompt_tokens_details", .object [("cached_tokens", .number (.posInt 400))])]

def cachedUsage : TokenUsage :=
  { inputTokens := some 1000, outputTokens := some 200, cachedInputTokens := some 400 }

theorem gateCatalog_gate : ∀ model ∈ gateCatalog.models, model.enabled →
    uncoveredDeployments model gateCatalog.pricing = [] := by
  intro model hmodel _
  rw [List.mem_singleton.1 hmodel]
  decide

/-- The covered deployment of the sample catalog has a rule, which decides the billing of the sample
usage. -/
theorem covered_billing_sample :
    ∃ rule, pricingRuleFor gateCatalog.pricing "p" "u" = some rule ∧
      ((calculateCost gatePricing "p" (some "u") cachedUsage).isSome ↔
        rule.pricing.Prices cachedUsage) := by
  obtain ⟨rule, hrule, hbilled, -⟩ := @covered_billing default gateCatalog gatePricing
    gateCatalog_gate rfl gateModel (List.mem_singleton.2 rfl) rfl ⟨"p", "u"⟩
    (List.mem_singleton.2 rfl) .openAi cachedUsage
    (.parsed (show parseUsage .openAi cachedUsageObject = some cachedUsage by decide))
  exact ⟨rule, hrule, hbilled⟩

/-- A catalog that passes the gate, and a usage with cached tokens that its rule has no rate for:
nothing is charged, and no counter moves. -/
theorem cached_tokens_unbilled :
    (∀ model ∈ gateCatalog.models, model.enabled →
      uncoveredDeployments model gateCatalog.pricing = []) ∧
    pricingMap gateCatalog.pricing = .ok gatePricing ∧
    gateModel ∈ gateCatalog.models ∧ gateModel.enabled ∧ ⟨"p", "u"⟩ ∈ gateModel.deployments ∧
    parseUsage .openAi cachedUsageObject = some cachedUsage ∧
    calculateCost gatePricing "p" (some "u") cachedUsage = none := by
  refine ⟨gateCatalog_gate, rfl, List.mem_singleton.2 rfl, rfl, List.mem_singleton.2 rfl, ?_, ?_⟩
  · decide
  · decide +kernel

/-! ## Counted tokens -/

/-- One of the counts that the cost is computed from is positive. -/
def TokenUsage.CountsPriced (u : TokenUsage) : Prop :=
  0 < u.inputTokens.getD 0 ∨ 0 < u.outputTokens.getD 0 ∨ 0 < u.cachedInputTokens.getD 0 ∨
    0 < u.cacheReadTokens.getD 0 ∨ 0 < u.cacheWriteTokens.getD 0

/-- The rates of a price that are given. -/
def Pricing.rates (price : Pricing) : List Decimal :=
  [price.inputPer1m, price.outputPer1m] ++
    [price.cachedInputPer1m, price.cacheReadPer1m, price.cacheWritePer1m].filterMap id

theorem tokenCost_nonneg {n : Int} {rate : Decimal} (hn : 0 ≤ n) (hr : 0 ≤ rate.toRat) :
    0 ≤ tokenCost n rate := by
  have : (0 : ℚ) ≤ n := by exact_mod_cast hn
  unfold tokenCost
  positivity

theorem tokenCost_pos {n : Int} {rate : Decimal} (hn : 0 ≤ n) (hr : 0 < rate.toRat) :
    0 < tokenCost n rate ↔ 0 < n := by
  constructor
  · intro h
    rcases hn.lt_or_eq with hn | rfl
    · exact hn
    · simp [tokenCost] at h
  · intro h
    have : (0 : ℚ) < n := by exact_mod_cast h
    unfold tokenCost tokensPerMillion
    positivity

theorem Pricing.cacheCost_nonneg {n : Int} {rate : Option Decimal} (hn : 0 ≤ n)
    (hr : ∀ d ∈ rate, 0 ≤ d.toRat) : 0 ≤ cacheCost n rate := by
  cases rate with
  | none => exact le_rfl
  | some d => exact tokenCost_nonneg hn (hr d rfl)

theorem Pricing.cacheCost_pos {n : Int} {rate : Option Decimal} (hn : 0 ≤ n)
    (hr : ∀ d ∈ rate, 0 < d.toRat) (hsome : 0 < n → rate.isSome) :
    0 < cacheCost n rate ↔ 0 < n := by
  cases rate with
  | none => exact iff_of_false (by simp [cacheCost]) fun h => by simpa using hsome h
  | some d => exact tokenCost_pos hn (hr d rfl)

theorem Pricing.regularInput_nonneg (usage : TokenUsage) : 0 ≤ regularInput usage := by
  unfold regularInput
  exact le_max_right _ _

/-- The regular and the cached input tokens together are positive when one of the two counts is. -/
theorem Pricing.regularInput_pos {usage : TokenUsage} (h : 0 ≤ usage.cachedInputTokens.getD 0) :
    0 < regularInput usage ∨ 0 < usage.cachedInputTokens.getD 0 ↔
      0 < usage.inputTokens.getD 0 ∨ 0 < usage.cachedInputTokens.getD 0 := by
  unfold regularInput saturatingSub
  omega

theorem sum_pos_iff {a b c d e : ℚ} (ha : 0 ≤ a) (hb : 0 ≤ b) (hc : 0 ≤ c) (hd : 0 ≤ d)
    (he : 0 ≤ e) : 0 < a + b + c + d + e ↔ 0 < a ∨ 0 < b ∨ 0 < c ∨ 0 < d ∨ 0 < e := by
  constructor
  · intro h
    by_contra hall
    simp only [not_or, not_lt] at hall
    obtain ⟨ha', hb', hc', hd', he'⟩ := hall
    linarith
  · rintro (h | h | h | h | h) <;> linarith

theorem TokenUsage.getD_nonneg {u : TokenUsage} {count : Option Int}
    (h : ∀ count ∈ u.counts, 0 ≤ count) (hmem : ∀ n ∈ count, n ∈ u.counts) :
    0 ≤ count.getD 0 := by
  cases count with
  | none => exact le_rfl
  | some n => exact h n (hmem n rfl)

/-- The cost at positive rates is positive when a count it is computed from is. -/
theorem Pricing.cost_pos {price : Pricing} {usage : TokenUsage} (hprices : price.Prices usage)
    (hrates : ∀ rate ∈ price.rates, 0 < rate.toRat) (hnonneg : ∀ count ∈ usage.counts, 0 ≤ count) :
    0 < price.cost usage ↔ usage.CountsPriced := by
  obtain ⟨hc, hr, hw⟩ := hprices
  have hin : 0 < price.inputPer1m.toRat := hrates _ (by simp [rates])
  have hout : 0 < price.outputPer1m.toRat := hrates _ (by simp [rates])
  have hcached : ∀ d ∈ price.cachedInputPer1m, 0 < d.toRat := fun d hd =>
    hrates d (by rw [Option.mem_def] at hd; simp [rates, hd])
  have hread : ∀ d ∈ price.cacheReadPer1m, 0 < d.toRat := fun d hd =>
    hrates d (by rw [Option.mem_def] at hd; simp [rates, hd])
  have hwrite : ∀ d ∈ price.cacheWritePer1m, 0 < d.toRat := fun d hd =>
    hrates d (by rw [Option.mem_def] at hd; simp [rates, hd])
  have hreg := regularInput_nonneg usage
  have hO : 0 ≤ usage.outputTokens.getD 0 :=
    TokenUsage.getD_nonneg hnonneg fun n hn => TokenUsage.mem_counts.2 (.inr (.inl hn))
  have hC : 0 ≤ usage.cachedInputTokens.getD 0 :=
    TokenUsage.getD_nonneg hnonneg fun n hn => TokenUsage.mem_counts.2 (.inr (.inr (.inl hn)))
  have hR : 0 ≤ usage.cacheReadTokens.getD 0 := TokenUsage.getD_nonneg hnonneg fun n hn =>
    TokenUsage.mem_counts.2 (.inr (.inr (.inr (.inl hn))))
  have hW : 0 ≤ usage.cacheWriteTokens.getD 0 := TokenUsage.getD_nonneg hnonneg fun n hn =>
    TokenUsage.mem_counts.2 (.inr (.inr (.inr (.inr (.inl hn)))))
  have hinput := regularInput_pos hC
  have hsum := sum_pos_iff (tokenCost_nonneg hreg hin.le) (tokenCost_nonneg hO hout.le)
    (cacheCost_nonneg hC fun d hd => (hcached d hd).le)
    (cacheCost_nonneg hR fun d hd => (hread d hd).le)
    (cacheCost_nonneg hW fun d hd => (hwrite d hd).le)
  rw [cost, hsum, tokenCost_pos hreg hin, tokenCost_pos hO hout, cacheCost_pos hC hcached hc,
    cacheCost_pos hR hread hr, cacheCost_pos hW hwrite hw]
  unfold TokenUsage.CountsPriced
  omega

/-- A total that was not reported is positive only if one of the counts is. -/
theorem TokenUsage.countsPriced_of_derived {u : TokenUsage}
    (hnonneg : ∀ count ∈ u.counts, 0 ≤ count) (hnone : u.totalTokens = none)
    (htotal : 0 < u.ensureTotal.totalTokens.getD 0) : u.CountsPriced := by
  by_contra hzero
  simp only [CountsPriced, not_or, not_lt] at hzero
  obtain ⟨hi, ho, -, hr, hw⟩ := hzero
  have hsum : ([u.inputTokens, u.outputTokens, u.cacheReadTokens, u.cacheWriteTokens].filterMap
      id).sum = 0 := by
    refine List.sum_eq_zero fun count hcount => ?_
    have hmem : u.inputTokens = some count ∨ u.outputTokens = some count ∨
        u.cacheReadTokens = some count ∨ u.cacheWriteTokens = some count := by
      simpa [@eq_comm _ (some count)] using hcount
    have hle : count ≤ 0 := by
      rcases hmem with h | h | h | h
      · simpa [h] using hi
      · simpa [h] using ho
      · simpa [h] using hr
      · simpa [h] using hw
    have hge : 0 ≤ count := hnonneg count (mem_counts.2 (by tauto))
    omega
  simp only [ensureTotal, hsum, hnone, Option.isSome_none, Bool.false_eq_true, if_false] at htotal
  split at htotal
  · simp at htotal
  · simp [hnone] at htotal

/-- **When counted tokens are billed.** At positive rates a usage with a positive total costs
something exactly when one of the counts the cost is computed from is positive, as it is whenever
the total was derived from them. -/
theorem counted_tokens_billed {P : Packages} {pricing : PricingMap} {providerId : String}
    {upstreamModel : String}
    (hrates : ∀ price, lookupPricing pricing providerId upstreamModel = some price →
      ∀ rate ∈ price.rates, 0 < rate.toRat)
    {protocol : Protocol} {usage : TokenUsage} (husage : Reported P protocol usage)
    (htotal : 0 < usage.ensureTotal.totalTokens.getD 0) {cost : ℚ} {currency : String}
    {source : Option String}
    (hcost : calculateCost pricing providerId (some upstreamModel) usage.ensureTotal =
      some (cost, currency, source)) :
    (0 < cost ↔ usage.CountsPriced) ∧ (usage.totalTokens = none → usage.CountsPriced) := by
  have hwell := husage.wellReported
  refine ⟨?_, fun hnone => TokenUsage.countsPriced_of_derived hwell.nonneg hnone htotal⟩
  rw [calculateCost_ensureTotal hwell.hasTokens, calculateCost_eq hwell.hasTokens,
    Option.bind_eq_some_iff] at hcost
  obtain ⟨price, hprice, hcost⟩ := hcost
  rw [Option.ite_none_right_eq_some] at hcost
  obtain ⟨hprices, hcost⟩ := hcost
  cases hcost
  exact Pricing.cost_pos hprices (hrates price hprice) hwell.nonneg

/-- The usage object of the Responses API. -/
def responsesUsageObject : Json :=
  .object [("input_tokens", .number (.posInt 1000)), ("output_tokens", .number (.posInt 200)),
    ("total_tokens", .number (.posInt 1200))]

def responsesUsage : TokenUsage := { totalTokens := some 1200 }

theorem gatePricing_rates : ∀ price, lookupPricing gatePricing "p" "u" = some price →
    ∀ rate ∈ price.rates, 0 < rate.toRat := by
  have h : (lookupPricing gatePricing "p" "u").all fun price =>
      price.rates.all fun rate => 0 < rate.toRat := by decide +kernel
  intro price hprice rate hrate
  rw [hprice, Option.all_some, List.all_eq_true] at h
  exact of_decide_eq_true (h rate hrate)

/-- At the sample rates, when the sample usages with a total are billed. -/
theorem counted_tokens_billed_sample :
    ((0 : ℚ) < 0 ↔ responsesUsage.CountsPriced) ∧
      (responsesUsage.totalTokens = none → responsesUsage.CountsPriced) :=
  @counted_tokens_billed default gatePricing "p" "u" gatePricing_rates .openAi responsesUsage
    (.parsed (show parseUsage .openAi responsesUsageObject = some responsesUsage by decide))
    (by decide) 0 "USD" none (by decide +kernel)

/-- A usage of `/v1/responses` counts tokens under names that the parser does not read: at positive
rates it is priced at zero. -/
theorem responses_usage_free :
    protocolOf "/v1/responses" = some .openAi ∧
    parseUsage .openAi responsesUsageObject = some responsesUsage ∧
    (∀ price, lookupPricing gatePricing "p" "u" = some price →
      ∀ rate ∈ price.rates, 0 < rate.toRat) ∧
    0 < responsesUsage.ensureTotal.totalTokens.getD 0 ∧
    calculateCost gatePricing "p" (some "u") responsesUsage.ensureTotal =
      some (0, "USD", none) := by
  refine ⟨by decide, by decide, gatePricing_rates, by decide, by decide +kernel⟩

end LiteAgentify
