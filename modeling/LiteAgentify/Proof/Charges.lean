import LiteAgentify.Proof.Billing

/-!
# What a cost is made of

The five classes of tokens overlap: the cached input tokens are part of the input, the tokens read
from and written to the cache are not. For the counts an upstream can report (`TokenUsage.Admitted`)
the regular and the cached input tokens make up the larger of the two counts (`regularInput_add`),
so no input token is charged twice. From this the cost is the sum over the classes
(`Pricing.cost_eq`), never negative (`Pricing.cost_nonneg`) and monotone in every count but the
cached one (`Pricing.cost_mono`).
-/

set_option autoImplicit false

namespace LiteAgentify

/-! ## Counts -/

/-- The counts are nonnegative `i64`s. -/
def TokenUsage.Admitted (u : TokenUsage) : Prop := ∀ count ∈ u.counts, 0 ≤ count ∧ count < 2 ^ 63

instance (u : TokenUsage) : Decidable u.Admitted :=
  inferInstanceAs (Decidable (∀ count ∈ u.counts, 0 ≤ count ∧ count < 2 ^ 63))

namespace TokenUsage

/-- A count that is not reported is taken as zero. -/
theorem Admitted.getD {u : TokenUsage} (h : u.Admitted) {count : Option Int}
    (hmem : ∀ n ∈ count, n ∈ u.counts) : 0 ≤ count.getD 0 ∧ count.getD 0 < 2 ^ 63 := by
  cases count with
  | none => exact ⟨le_rfl, by decide⟩
  | some n => exact h n (hmem n rfl)

section

variable {u : TokenUsage} (h : u.Admitted)
include h

theorem Admitted.input : 0 ≤ u.inputTokens.getD 0 ∧ u.inputTokens.getD 0 < 2 ^ 63 :=
  h.getD fun _ hn => mem_counts.2 (.inl hn)

theorem Admitted.output : 0 ≤ u.outputTokens.getD 0 ∧ u.outputTokens.getD 0 < 2 ^ 63 :=
  h.getD fun _ hn => mem_counts.2 (.inr (.inl hn))

theorem Admitted.cachedInput :
    0 ≤ u.cachedInputTokens.getD 0 ∧ u.cachedInputTokens.getD 0 < 2 ^ 63 :=
  h.getD fun _ hn => mem_counts.2 (.inr (.inr (.inl hn)))

theorem Admitted.cacheRead : 0 ≤ u.cacheReadTokens.getD 0 ∧ u.cacheReadTokens.getD 0 < 2 ^ 63 :=
  h.getD fun _ hn => mem_counts.2 (.inr (.inr (.inr (.inl hn))))

theorem Admitted.cacheWrite : 0 ≤ u.cacheWriteTokens.getD 0 ∧ u.cacheWriteTokens.getD 0 < 2 ^ 63 :=
  h.getD fun _ hn => mem_counts.2 (.inr (.inr (.inr (.inr (.inl hn)))))

end

end TokenUsage

namespace Pricing

/-- On admitted counts the saturating subtraction is exact. -/
theorem regularInput_eq {u : TokenUsage} (h : u.Admitted) :
    regularInput u = max (u.inputTokens.getD 0 - u.cachedInputTokens.getD 0) 0 := by
  have hi := h.input
  have hc := h.cachedInput
  unfold regularInput saturatingSub
  omega

/-- **No input token twice.** The regular and the cached input tokens are together as many as the
larger of the two counts. -/
theorem regularInput_add {u : TokenUsage} (h : u.Admitted) :
    regularInput u + u.cachedInputTokens.getD 0 =
      max (u.inputTokens.getD 0) (u.cachedInputTokens.getD 0) := by
  rw [regularInput_eq h]
  omega

/-! ## Rates -/

/-- The rate of a cache class; a class without one is not charged. -/
def rateOf (rate : Option Decimal) : ℚ := (rate.map Decimal.toRat).getD 0

theorem cacheCost_eq (n : Int) (rate : Option Decimal) :
    cacheCost n rate = n * rateOf rate / tokensPerMillion := by
  cases rate <;> simp [cacheCost, rateOf, tokenCost]

theorem rateOf_nonneg {rate : Option Decimal} (h : ∀ d ∈ rate, 0 ≤ d.toRat) : 0 ≤ rateOf rate := by
  cases rate with
  | none => exact le_rfl
  | some d => exact h d rfl

/-- The cost of a million times as many tokens, class by class. -/
theorem cost_eq (price : Pricing) (u : TokenUsage) :
    price.cost u * 1000000 = regularInput u * price.inputPer1m.toRat +
      u.cachedInputTokens.getD 0 * rateOf price.cachedInputPer1m +
      u.outputTokens.getD 0 * price.outputPer1m.toRat +
      u.cacheReadTokens.getD 0 * rateOf price.cacheReadPer1m +
      u.cacheWriteTokens.getD 0 * rateOf price.cacheWritePer1m := by
  simp only [cost, cacheCost_eq, tokenCost, tokensPerMillion]
  push_cast
  ring

/-- The rates of a price are not negative. -/
structure NonNegative (price : Pricing) : Prop where
  input : 0 ≤ price.inputPer1m.toRat
  output : 0 ≤ price.outputPer1m.toRat
  cachedInput : 0 ≤ rateOf price.cachedInputPer1m
  cacheRead : 0 ≤ rateOf price.cacheReadPer1m
  cacheWrite : 0 ≤ rateOf price.cacheWritePer1m

end Pricing

theorem Decimal.toRat_nonneg {d : Decimal} (h : d.isSignNegative = false) : 0 ≤ d.toRat := by
  have h : d.negative = false := h
  unfold toRat
  rw [h, if_neg Bool.false_ne_true]
  positivity

/-- What `pricing_map` accepts has no negative rate. -/
theorem lookupPricing_nonNegative {rules : List PricingConfig} {pricing : PricingMap}
    (h : pricingMap rules = .ok pricing) {providerId upstreamModel : String} {price : Pricing}
    (hprice : lookupPricing pricing providerId upstreamModel = some price) :
    price.NonNegative := by
  rw [lookupPricing_eq h, Option.map_eq_some_iff] at hprice
  obtain ⟨rule, hrule, rfl⟩ := hprice
  have hmem : rule ∈ rules := by
    rw [pricingRuleFor_keys] at hrule
    obtain ⟨key, -, hkey⟩ := List.exists_of_findSome?_eq_some hrule
    exact List.mem_of_find?_eq_some hkey
  obtain ⟨hvalid, -⟩ := insertPricing_inserts.foldlM_ok.1 h
  obtain ⟨hi, ho, hc, hr, hw⟩ := PricingConfig.rates_iff.1 (hvalid rule hmem).rates
  exact ⟨Decimal.toRat_nonneg hi, Decimal.toRat_nonneg ho,
    Pricing.rateOf_nonneg fun d hd => Decimal.toRat_nonneg (hc d hd),
    Pricing.rateOf_nonneg fun d hd => Decimal.toRat_nonneg (hr d hd),
    Pricing.rateOf_nonneg fun d hd => Decimal.toRat_nonneg (hw d hd)⟩

/-! ## Costs -/

namespace Pricing

variable {price : Pricing} {u v : TokenUsage}

theorem cost_nonneg (hp : price.NonNegative) (hu : u.Admitted) : 0 ≤ price.cost u := by
  have hreg : (0 : ℚ) ≤ regularInput u := by exact_mod_cast regularInput_nonneg u
  have hcached : (0 : ℚ) ≤ u.cachedInputTokens.getD 0 := by exact_mod_cast hu.cachedInput.1
  have hout : (0 : ℚ) ≤ u.outputTokens.getD 0 := by exact_mod_cast hu.output.1
  have hread : (0 : ℚ) ≤ u.cacheReadTokens.getD 0 := by exact_mod_cast hu.cacheRead.1
  have hwrite : (0 : ℚ) ≤ u.cacheWriteTokens.getD 0 := by exact_mod_cast hu.cacheWrite.1
  have hsum := price.cost_eq u
  have := mul_nonneg hreg hp.input
  have := mul_nonneg hcached hp.cachedInput
  have := mul_nonneg hout hp.output
  have := mul_nonneg hread hp.cacheRead
  have := mul_nonneg hwrite hp.cacheWrite
  linarith

/-- Larger counts cost no less, at the same count of cached input tokens. -/
theorem cost_mono (hp : price.NonNegative) (hu : u.Admitted) (hv : v.Admitted)
    (hi : u.inputTokens.getD 0 ≤ v.inputTokens.getD 0)
    (hc : u.cachedInputTokens.getD 0 = v.cachedInputTokens.getD 0)
    (ho : u.outputTokens.getD 0 ≤ v.outputTokens.getD 0)
    (hr : u.cacheReadTokens.getD 0 ≤ v.cacheReadTokens.getD 0)
    (hw : u.cacheWriteTokens.getD 0 ≤ v.cacheWriteTokens.getD 0) : price.cost u ≤ price.cost v := by
  have hreg : regularInput u ≤ regularInput v := by
    rw [regularInput_eq hu, regularInput_eq hv]
    omega
  have hreg : (regularInput u : ℚ) ≤ regularInput v := by exact_mod_cast hreg
  have ho : (u.outputTokens.getD 0 : ℚ) ≤ v.outputTokens.getD 0 := by exact_mod_cast ho
  have hr : (u.cacheReadTokens.getD 0 : ℚ) ≤ v.cacheReadTokens.getD 0 := by exact_mod_cast hr
  have hw : (u.cacheWriteTokens.getD 0 : ℚ) ≤ v.cacheWriteTokens.getD 0 := by exact_mod_cast hw
  have hu := price.cost_eq u
  have hv := price.cost_eq v
  rw [hc] at hu
  have := mul_le_mul_of_nonneg_right hreg hp.input
  have := mul_le_mul_of_nonneg_right ho hp.output
  have := mul_le_mul_of_nonneg_right hr hp.cacheRead
  have := mul_le_mul_of_nonneg_right hw hp.cacheWrite
  linarith

end Pricing

/-- A cost is that of the price found, which has a rate for every cache class that is counted. -/
theorem calculateCost_some {pricing : PricingMap} {providerId : String}
    {upstreamModel : Option String} {usage : TokenUsage} {cost : ℚ} {currency : String}
    {source : Option String}
    (h : calculateCost pricing providerId upstreamModel usage = some (cost, currency, source)) :
    ∃ model price, upstreamModel = some model ∧
      lookupPricing pricing providerId model = some price ∧ price.Prices usage ∧
      cost = price.cost usage := by
  cases upstreamModel with
  | none => cases h
  | some model =>
    cases hhas : usage.hasTokens with
    | false => simp [calculateCost, hhas] at h
    | true =>
      rw [calculateCost_eq hhas, Option.bind_eq_some_iff] at h
      obtain ⟨price, hprice, h⟩ := h
      rw [Option.ite_none_right_eq_some] at h
      obtain ⟨hprices, h⟩ := h
      cases h
      exact ⟨model, price, rfl, hprice, hprices, rfl⟩

/-- **What a cost is made of.** Under accepted rules the cost of an admitted usage is not negative
and does not fall when counts other than the cached one grow. The input side of it is as many tokens
as the larger of the input and the cached count, the cached ones at the cached rate and the others
at the regular one; the tokens read from and written to the cache come on top. -/
theorem cost_composition {rules : List PricingConfig} {pricing : PricingMap}
    (hrules : pricingMap rules = .ok pricing) {providerId : String} {upstreamModel : Option String}
    {usage : TokenUsage} (husage : usage.Admitted) {cost : ℚ} {currency : String}
    {source : Option String}
    (hcost : calculateCost pricing providerId upstreamModel usage =
      some (cost, currency, source)) :
    0 ≤ cost ∧
    (∀ (raised : TokenUsage) (cost' : ℚ) (currency' : String) (source' : Option String),
      raised.Admitted → raised.cachedInputTokens = usage.cachedInputTokens →
      usage.inputTokens.getD 0 ≤ raised.inputTokens.getD 0 →
      usage.outputTokens.getD 0 ≤ raised.outputTokens.getD 0 →
      usage.cacheReadTokens.getD 0 ≤ raised.cacheReadTokens.getD 0 →
      usage.cacheWriteTokens.getD 0 ≤ raised.cacheWriteTokens.getD 0 →
      calculateCost pricing providerId upstreamModel raised = some (cost', currency', source') →
      cost ≤ cost') ∧
    ∃ price, upstreamModel.bind (lookupPricing pricing providerId) = some price ∧
      (0 < usage.cachedInputTokens.getD 0 → price.cachedInputPer1m.isSome) ∧
      (0 < usage.cacheReadTokens.getD 0 → price.cacheReadPer1m.isSome) ∧
      (0 < usage.cacheWriteTokens.getD 0 → price.cacheWritePer1m.isSome) ∧
      ∃ regular : Int, 0 ≤ regular ∧
        regular + usage.cachedInputTokens.getD 0 =
          max (usage.inputTokens.getD 0) (usage.cachedInputTokens.getD 0) ∧
        cost * 1000000 =
          (regular * price.inputPer1m.toRat +
            usage.cachedInputTokens.getD 0 * Pricing.rateOf price.cachedInputPer1m) +
          usage.outputTokens.getD 0 * price.outputPer1m.toRat +
          usage.cacheReadTokens.getD 0 * Pricing.rateOf price.cacheReadPer1m +
          usage.cacheWriteTokens.getD 0 * Pricing.rateOf price.cacheWritePer1m := by
  obtain ⟨model, price, rfl, hprice, ⟨hcached, hread, hwrite⟩, rfl⟩ := calculateCost_some hcost
  have hp := lookupPricing_nonNegative hrules hprice
  refine ⟨Pricing.cost_nonneg hp husage, ?_, price, hprice, hcached, hread, hwrite,
    Pricing.regularInput usage, Pricing.regularInput_nonneg usage,
    Pricing.regularInput_add husage, price.cost_eq usage⟩
  intro raised cost' currency' source' hraised hsame hi ho hr hw hcost'
  obtain ⟨model', price', hm, hprice', -, rfl⟩ := calculateCost_some hcost'
  cases hm
  rw [hprice] at hprice'
  cases hprice'
  exact Pricing.cost_mono hp husage hraised hi (by rw [hsame]) ho hr hw

/-- One rule with a rate for every class. -/
def fullRules : List PricingConfig :=
  [{ provider := "*", model := "*", inputPer1m := .ofUInt8 3, outputPer1m := .ofUInt8 15,
     cachedInputPer1m := some (.ofUInt8 1), cacheReadPer1m := some (.ofUInt8 2),
     cacheWritePer1m := some (.ofUInt8 4), currency := "USD" }]

def fullPricing : PricingMap :=
  (∅ : PricingMap).insert ("*", "*")
    { inputPer1m := .ofUInt8 3, outputPer1m := .ofUInt8 15,
      cachedInputPer1m := some (.ofUInt8 1), cacheReadPer1m := some (.ofUInt8 2),
      cacheWritePer1m := some (.ofUInt8 4), currency := "USD", pricingSource := none }

/-- More cached tokens than input tokens, and more read from the cache than both. -/
def cacheHeavy : TokenUsage where
  inputTokens := some 300
  outputTokens := some 200
  cachedInputTokens := some 400
  cacheReadTokens := some 1000
  cacheWriteTokens := some 100

def moreInput : TokenUsage := { cacheHeavy with inputTokens := some 500 }

/-- No regular input token is charged for the cache-heavy usage, and a hundred more cost nothing
less. -/
theorem cacheHeavy_composition :
    (0 : ℚ) ≤ 29 / 5000 ∧
      (∀ cost', calculateCost fullPricing "p" (some "u") moreInput = some (cost', "USD", none) →
        29 / 5000 ≤ cost') ∧
      ∃ regular : Int, 0 ≤ regular ∧ regular + 400 = 400 := by
  obtain ⟨hnonneg, hmono, price, -, -, -, -, regular, hregular, hsum, -⟩ :=
    @cost_composition fullRules fullPricing rfl "p" (some "u") cacheHeavy (by decide) (29 / 5000)
      "USD" none (by decide +kernel)
  refine ⟨hnonneg, fun cost' hcost' => ?_, regular, hregular, hsum⟩
  exact hmono moreInput cost' "USD" none (by decide) rfl (by decide) (by decide) (by decide)
    (by decide) hcost'

end LiteAgentify
