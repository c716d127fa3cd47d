import LiteAgentify.Lib.Keyed
import LiteAgentify.Pricing.Checked
import LiteAgentify.Proof.Charges
import Mathlib.Tactic.FieldSimp

/-!
# Where billing overflows

The counts of an upstream are bounded by `i64::MAX` each, their sum and their products with a rate
are not: `ensure_total` adds four counts in an `i64`, which wraps from `2 ^ 63` on
(`ensureTotal_exact_iff`), and a count times a rate can exceed the 96-bit mantissa of a `Decimal`,
whose operator panics (`tokenCost_ok_iff`). The division and the additions after it never overflow
(`addCost_ok_iff`), so `billing_exact_iff` says exactly which usages are billed exactly.
-/

set_option autoImplicit false

namespace LiteAgentify

open Keyed

/-! ## The derived total -/

namespace TokenUsage

/-- One of the counts that make up a total is reported. -/
def hasComponents (u : TokenUsage) : Bool :=
  u.inputTokens.isSome || u.outputTokens.isSome || u.cacheReadTokens.isSome ||
    u.cacheWriteTokens.isSome

/-- The sum of the counts that make up a total. -/
def componentSum (u : TokenUsage) : Int :=
  u.inputTokens.getD 0 + u.outputTokens.getD 0 + u.cacheReadTokens.getD 0 +
    u.cacheWriteTokens.getD 0

theorem sum_filterMap_four (a b c d : Option Int) :
    ([a, b, c, d].filterMap id).sum = a.getD 0 + b.getD 0 + c.getD 0 + d.getD 0 := by
  cases a <;> cases b <;> cases c <;> cases d <;> simp <;> omega

/-- What `ensure_total` does to a usage without a total. -/
theorem ensureTotal_none {u : TokenUsage} (h : u.totalTokens = none) :
    u.ensureTotal = if u.hasComponents then
      { u with totalTokens := some (u.componentSum.bmod (2 ^ 64)) } else u := by
  have hany : [u.inputTokens, u.outputTokens, u.cacheReadTokens, u.cacheWriteTokens].any
      Option.isSome = u.hasComponents := by
    simp [hasComponents, Bool.or_assoc]
  unfold ensureTotal
  simp only [h, hany, sum_filterMap_four, Option.isSome_none, Bool.false_eq_true, if_false]
  rfl

/-- Only the total changes, and a total is set only where something was reported. -/
theorem ensureTotal_same (u : TokenUsage) :
    ∃ total, u.ensureTotal = { u with totalTokens := total } ∧
      u.ensureTotal.hasTokens = u.hasTokens := by
  cases htotal : u.totalTokens with
  | some total =>
    have hsame : u.ensureTotal = u := by
      unfold ensureTotal
      rw [htotal]
      rfl
    exact ⟨u.totalTokens, hsame, by rw [hsame]⟩
  | none =>
    rw [ensureTotal_none htotal]
    split
    · rename_i h
      refine ⟨_, rfl, ?_⟩
      simp only [hasComponents, Bool.or_eq_true] at h
      simp only [hasTokens, Option.isSome_some, Bool.or_true]
      symm
      simp only [Bool.or_eq_true]
      tauto
    · exact ⟨u.totalTokens, rfl, rfl⟩

/-- A sum of four nonnegative counts survives the wrapping addition exactly below `2 ^ 63`. -/
theorem bmod_componentSum {u : TokenUsage} (h : u.Admitted) :
    u.componentSum.bmod (2 ^ 64) = u.componentSum ↔ u.componentSum < 2 ^ 63 := by
  have hi := h.input
  have ho := h.output
  have hr := h.cacheRead
  have hw := h.cacheWrite
  unfold componentSum
  constructor
  · intro heq
    rw [← heq]
    exact Int.bmod_lt (by decide)
  · intro hlt
    refine Int.bmod_eq_of_le ?_ ?_ <;> omega

/-- When the total that is filled in is the sum of the counts. -/
theorem ensureTotal_exact_iff {u : TokenUsage} (h : u.Admitted) (hnone : u.totalTokens = none) :
    u.ensureTotal.totalTokens = (if u.hasComponents then some u.componentSum else none) ↔
      u.componentSum < 2 ^ 63 := by
  rw [ensureTotal_none hnone]
  split
  · rw [Option.some.injEq]
    exact bmod_componentSum h
  · rename_i hno
    simp only [hnone, true_iff]
    simp only [hasComponents, Bool.or_eq_true, not_or, Option.not_isSome_iff_eq_none] at hno
    obtain ⟨⟨⟨hi, ho⟩, hr⟩, hw⟩ := hno
    simp [componentSum, hi, ho, hr, hw]

end TokenUsage

/-! ## Products -/

/-- The product of a count and a rate fits a `Decimal`, rounded to an integer at the coarsest. -/
def FitsDecimal (tokens : Int) (rate : Decimal) : Prop := |tokens * rate.toRat| < 2 ^ 96 - 1 / 2

instance (tokens : Int) (rate : Decimal) : Decidable (FitsDecimal tokens rate) :=
  inferInstanceAs (Decidable (|tokens * rate.toRat| < 2 ^ 96 - 1 / 2))

theorem Decimal.toRat_ofI64 {n : Int} (h : n.natAbs < 2 ^ 64) : (Decimal.ofI64 n).toRat = n := by
  unfold ofI64 toRat
  simp only [Nat.mod_eq_of_lt h, pow_zero, div_one, decide_eq_true_eq]
  split
  · rename_i hneg
    have : (n.natAbs : Int) = -n := by omega
    have : ((n.natAbs : Int) : ℚ) = -n := by rw [this, Int.cast_neg]
    rw [Int.cast_natCast] at this
    rw [this, neg_neg]
  · have : (n.natAbs : Int) = n := by omega
    have : ((n.natAbs : Int) : ℚ) = n := by rw [this]
    rwa [Int.cast_natCast] at this

/-- A decimal is at most its mantissa. -/
theorem Decimal.abs_toRat_le (d : Decimal) : |d.toRat| ≤ 2 ^ 96 - 1 := by
  have hm : (d.mantissa + 1 : ℚ) ≤ 2 ^ 96 := by exact_mod_cast d.mantissa_lt
  have hm : (d.mantissa : ℚ) ≤ 2 ^ 96 - 1 := by linarith
  have hs : (1 : ℚ) ≤ 10 ^ d.scale := one_le_pow₀ (by norm_num)
  have hq : (d.mantissa / 10 ^ d.scale : ℚ) ≤ 2 ^ 96 - 1 :=
    (div_le_self (by positivity) hs).trans hm
  have hpos : (0 : ℚ) ≤ d.mantissa / 10 ^ d.scale := by positivity
  unfold toRat
  split
  · rwa [abs_neg, abs_of_nonneg hpos]
  · rwa [abs_of_nonneg hpos]

theorem toRat_perMillion : (Decimal.ofI64 tokensPerMillion).toRat = 1000000 := by
  rw [Decimal.toRat_ofI64 (by decide)]
  rfl

namespace DecimalOps

variable {ops : DecimalOps}

theorem mul_ok {a b product : Decimal} :
    ops.mul a b = .ok product ↔ ops.checkedMul a b = some product := by
  unfold mul
  cases ops.checkedMul a b <;> simp

theorem div_ok {a b quotient : Decimal} :
    ops.div a b = .ok quotient ↔ ops.checkedDiv a b = some quotient := by
  unfold div
  cases ops.checkedDiv a b <;> simp

theorem add_ok {a b sum : Decimal} : ops.add a b = .ok sum ↔ ops.checkedAdd a b = some sum := by
  unfold add
  cases ops.checkedAdd a b <;> simp

section

variable (hops : ops.Lawful)
include hops

/-- Only the product of a token cost can overflow. -/
theorem tokenCost_ok_iff {tokens : Int} (htokens : tokens.natAbs < 2 ^ 64) {rate : Decimal} :
    (∃ cost, ops.tokenCost tokens rate = .ok cost) ↔ FitsDecimal tokens rate := by
  unfold FitsDecimal
  rw [← Decimal.toRat_ofI64 htokens, ← hops.mul_isSome, Option.isSome_iff_exists]
  simp only [tokenCost, bind_ok, mul_ok, div_ok]
  constructor
  · rintro ⟨cost, product, hproduct, -⟩
    exact ⟨product, hproduct⟩
  · rintro ⟨product, hproduct⟩
    obtain ⟨cost, hcost⟩ := Option.isSome_iff_exists.1
      (hops.div_isSome product (.ofI64 tokensPerMillion) (by rw [toRat_perMillion]; norm_num))
    exact ⟨cost, product, hproduct, hcost⟩

/-- A token cost is far from the largest decimal. -/
theorem tokenCost_le {tokens : Int} {rate cost : Decimal}
    (h : ops.tokenCost tokens rate = .ok cost) : |cost.toRat| ≤ 2 ^ 77 := by
  simp only [tokenCost, bind_ok, mul_ok, div_ok] at h
  obtain ⟨product, -, hcost⟩ := h
  have hnear := hops.div_near product _ cost (by rw [toRat_perMillion]; norm_num) hcost
  have hproduct := product.abs_toRat_le
  rw [toRat_perMillion] at hnear
  rw [abs_le] at hnear hproduct ⊢
  constructor <;> linarith

theorem addCost_ok_iff {bound : ℚ} (hbound : bound ≤ 2 ^ 90) {cost : Decimal}
    (hcost : |cost.toRat| ≤ bound) {tokens : Int} (htokens : tokens.natAbs < 2 ^ 64)
    {rate : Option Decimal} :
    (∃ sum, ops.addCost cost tokens rate = .ok sum) ↔ ∀ d ∈ rate, FitsDecimal tokens d := by
  cases rate with
  | none => simp [addCost]
  | some rate =>
    simp only [addCost, bind_ok, add_ok, Option.mem_def, Option.some.injEq, forall_eq',
      ← tokenCost_ok_iff hops htokens]
    constructor
    · rintro ⟨sum, part, hpart, -⟩
      exact ⟨part, hpart⟩
    · rintro ⟨part, hpart⟩
      have hle := tokenCost_le hops hpart
      have hsum : |cost.toRat + part.toRat| ≤ 2 ^ 96 - 1 := by
        refine (abs_add_le _ _).trans ?_
        linarith
      obtain ⟨sum, hadd⟩ := Option.isSome_iff_exists.1 (hops.add_isSome cost part hsum)
      exact ⟨sum, part, hpart, hadd⟩

theorem addCost_le {bound : ℚ} {cost sum : Decimal} (hcost : |cost.toRat| ≤ bound) {tokens : Int}
    {rate : Option Decimal} (h : ops.addCost cost tokens rate = .ok sum) :
    |sum.toRat| ≤ bound + 2 ^ 78 := by
  cases rate with
  | none =>
    cases h
    linarith
  | some rate =>
    simp only [addCost, bind_ok, add_ok] at h
    obtain ⟨part, hpart, hadd⟩ := h
    have hle := tokenCost_le hops hpart
    have hnear := hops.add_near cost part sum hadd
    rw [abs_le] at hnear hcost hle ⊢
    constructor <;> linarith

end

end DecimalOps

/-! ## Exact billing -/

/-- The counts that a usage is charged for, with their rates. -/
def Pricing.charges (price : Pricing) (usage : TokenUsage) : List (Int × Decimal) :=
  [(regularInput usage, price.inputPer1m), (usage.outputTokens.getD 0, price.outputPer1m)] ++
    [(usage.cachedInputTokens.getD 0, price.cachedInputPer1m),
      (usage.cacheReadTokens.getD 0, price.cacheReadPer1m),
      (usage.cacheWriteTokens.getD 0, price.cacheWritePer1m)].filterMap fun charge =>
        charge.2.map fun rate => (charge.1, rate)

theorem Pricing.charges_fit {price : Pricing} {usage : TokenUsage} :
    (∀ charge ∈ price.charges usage, FitsDecimal charge.1 charge.2) ↔
      FitsDecimal (regularInput usage) price.inputPer1m ∧
      FitsDecimal (usage.outputTokens.getD 0) price.outputPer1m ∧
      (∀ d ∈ price.cachedInputPer1m, FitsDecimal (usage.cachedInputTokens.getD 0) d) ∧
      (∀ d ∈ price.cacheReadPer1m, FitsDecimal (usage.cacheReadTokens.getD 0) d) ∧
      ∀ d ∈ price.cacheWritePer1m, FitsDecimal (usage.cacheWriteTokens.getD 0) d := by
  unfold charges
  cases price.cachedInputPer1m <;> cases price.cacheReadPer1m <;> cases price.cacheWritePer1m <;>
    simp

/-- The price that a usage is billed at: the one found, if it prices the usage. -/
def BilledAt (pricing : PricingMap) (providerId : String) (upstreamModel : Option String)
    (usage : TokenUsage) (price : Pricing) : Prop :=
  usage.hasTokens = true ∧ upstreamModel.bind (lookupPricing pricing providerId) = some price ∧
    price.Prices usage

namespace DecimalOps

variable {ops : DecimalOps}

/-- The arithmetic for one price. -/
def sumCost (ops : DecimalOps) (price : Pricing) (usage : TokenUsage) : Except Panic Decimal := do
  let cost ← ops.tokenCost (Pricing.regularInput usage) price.inputPer1m
  let cost ← ops.addCost cost (usage.outputTokens.getD 0) (some price.outputPer1m)
  let cost ← ops.addCost cost (usage.cachedInputTokens.getD 0) price.cachedInputPer1m
  let cost ← ops.addCost cost (usage.cacheReadTokens.getD 0) price.cacheReadPer1m
  ops.addCost cost (usage.cacheWriteTokens.getD 0) price.cacheWritePer1m

/-- `calculate_cost` panics only in the arithmetic for the price that the usage is billed at. -/
theorem calculateCost_ok_iff {pricing : PricingMap} {providerId : String}
    {upstreamModel : Option String} {usage : TokenUsage} :
    (∃ billed, ops.calculateCost pricing providerId upstreamModel usage = .ok billed) ↔
      ∀ price, BilledAt pricing providerId upstreamModel usage price →
        ∃ cost, ops.sumCost price usage = .ok cost := by
  unfold calculateCost BilledAt
  cases upstreamModel with
  | none => simp
  | some upstreamModel =>
    cases hhas : usage.hasTokens with
    | false => simp
    | true =>
      simp only [not_true_eq_false, if_false, true_and, Option.bind_some]
      cases lookupPricing pricing providerId upstreamModel with
      | none => simp
      | some price =>
        simp only [Option.some.injEq, and_imp, forall_eq']
        have hguard : ∀ (n : Int) (rate : Option Decimal),
            (n > 0 ∧ rate.isNone) ↔ ¬(0 < n → rate.isSome) := by
          intro n rate
          cases rate <;> simp
        simp only [hguard]
        by_cases hprices : price.Prices usage
        · simp only [hprices, true_imp_iff]
          obtain ⟨hc, hr, hw⟩ := hprices
          rw [if_neg (not_not_intro hc), if_neg (not_not_intro hr), if_neg (not_not_intro hw)]
          simp only [sumCost, bind_ok, pure, Except.pure, Except.ok.injEq]
          constructor
          · rintro ⟨_, c₁, h₁, c₂, h₂, c₃, h₃, c₄, h₄, c₅, h₅, -⟩
            exact ⟨c₅, c₁, h₁, c₂, h₂, c₃, h₃, c₄, h₄, h₅⟩
          · rintro ⟨c₅, c₁, h₁, c₂, h₂, c₃, h₃, c₄, h₄, h₅⟩
            exact ⟨_, c₁, h₁, c₂, h₂, c₃, h₃, c₄, h₄, c₅, h₅, rfl⟩
        · simp only [hprices, false_imp_iff, iff_true]
          split_ifs with hc hr hw
          · exact absurd ⟨hc, hr, hw⟩ hprices
          all_goals exact ⟨none, rfl⟩

/-- The sum of an admitted usage overflows only in its products. -/
theorem sumCost_ok_iff (hops : ops.Lawful) {price : Pricing} {usage : TokenUsage}
    (husage : usage.Admitted) :
    (∃ cost, ops.sumCost price usage = .ok cost) ↔
      ∀ charge ∈ price.charges usage, FitsDecimal charge.1 charge.2 := by
  have hreg : (Pricing.regularInput usage).natAbs < 2 ^ 64 := by
    have := Pricing.regularInput_add husage
    have := Pricing.regularInput_nonneg usage
    have := husage.input
    have := husage.cachedInput
    omega
  have hout : (usage.outputTokens.getD 0).natAbs < 2 ^ 64 := by
    have := husage.output
    omega
  have hcached : (usage.cachedInputTokens.getD 0).natAbs < 2 ^ 64 := by
    have := husage.cachedInput
    omega
  have hread : (usage.cacheReadTokens.getD 0).natAbs < 2 ^ 64 := by
    have := husage.cacheRead
    omega
  have hwrite : (usage.cacheWriteTokens.getD 0).natAbs < 2 ^ 64 := by
    have := husage.cacheWrite
    omega
  rw [Pricing.charges_fit]
  simp only [sumCost, bind_ok]
  constructor
  · rintro ⟨c₅, c₁, h₁, c₂, h₂, c₃, h₃, c₄, h₄, h₅⟩
    have b₁ := tokenCost_le hops h₁
    have b₂ := addCost_le hops b₁ h₂
    have b₃ := addCost_le hops b₂ h₃
    have b₄ := addCost_le hops b₃ h₄
    exact ⟨(tokenCost_ok_iff hops hreg).1 ⟨c₁, h₁⟩,
      (addCost_ok_iff hops (by norm_num) b₁ hout).1 ⟨c₂, h₂⟩ _ rfl,
      (addCost_ok_iff hops (by norm_num) b₂ hcached).1 ⟨c₃, h₃⟩,
      (addCost_ok_iff hops (by norm_num) b₃ hread).1 ⟨c₄, h₄⟩,
      (addCost_ok_iff hops (by norm_num) b₄ hwrite).1 ⟨c₅, h₅⟩⟩
  · rintro ⟨f₁, f₂, f₃, f₄, f₅⟩
    obtain ⟨c₁, h₁⟩ := (tokenCost_ok_iff hops hreg).2 f₁
    have b₁ := tokenCost_le hops h₁
    have f₂ : ∀ d ∈ some price.outputPer1m, FitsDecimal (usage.outputTokens.getD 0) d := by
      simpa using f₂
    obtain ⟨c₂, h₂⟩ := (addCost_ok_iff hops (by norm_num) b₁ hout).2 f₂
    have b₂ := addCost_le hops b₁ h₂
    obtain ⟨c₃, h₃⟩ := (addCost_ok_iff hops (by norm_num) b₂ hcached).2 f₃
    have b₃ := addCost_le hops b₂ h₃
    obtain ⟨c₄, h₄⟩ := (addCost_ok_iff hops (by norm_num) b₃ hread).2 f₄
    have b₄ := addCost_le hops b₃ h₄
    obtain ⟨c₅, h₅⟩ := (addCost_ok_iff hops (by norm_num) b₄ hwrite).2 f₅
    exact ⟨c₅, c₁, h₁, c₂, h₂, c₃, h₃, c₄, h₄, h₅⟩

end DecimalOps

/-- **When billing is exact.** For an admitted usage, under any prices: the total that is filled in
is the sum of the reported counts and `calculate_cost` does not panic, exactly when this sum fits an
`i64`, unless a total was reported, and every count that is billed fits a `Decimal` times its
rate. -/
theorem billing_exact_iff {ops : DecimalOps} (hops : ops.Lawful) (pricing : PricingMap)
    (providerId : String) (upstreamModel : Option String) {usage : TokenUsage}
    (husage : usage.Admitted) :
    ((usage.totalTokens = none → usage.ensureTotal.totalTokens =
        if usage.hasComponents then some usage.componentSum else none) ∧
      ∃ billed, ops.calculateCost pricing providerId upstreamModel usage.ensureTotal = .ok billed) ↔
    ((usage.totalTokens = none → usage.componentSum < 2 ^ 63) ∧
      ∀ price, BilledAt pricing providerId upstreamModel usage price →
        ∀ charge ∈ price.charges usage, FitsDecimal charge.1 charge.2) := by
  refine and_congr (forall_congr' fun hnone => TokenUsage.ensureTotal_exact_iff husage hnone) ?_
  obtain ⟨total, hsame, hhas⟩ := usage.ensureTotal_same
  have hbilled : ∀ price, BilledAt pricing providerId upstreamModel usage.ensureTotal price ↔
      BilledAt pricing providerId upstreamModel usage price := by
    intro price
    unfold BilledAt
    rw [hhas, hsame]
    rfl
  rw [DecimalOps.calculateCost_ok_iff]
  refine forall_congr' fun price => ?_
  rw [hbilled, ← DecimalOps.sumCost_ok_iff hops husage, hsame]
  rfl

/-! ## An example -/

/-- The quotient rounded to an integer, half to even. -/
def roundHalfEven (num den : Nat) : Nat :=
  if 2 * (num % den) < den then num / den
  else if den < 2 * (num % den) then num / den + 1
  else num / den + num / den % 2

theorem roundHalfEven_near (num : Nat) {den : Nat} (hden : 0 < den) :
    2 * num ≤ 2 * (roundHalfEven num den * den) + den ∧
      2 * (roundHalfEven num den * den) ≤ 2 * num + den := by
  have hsplit := Nat.div_add_mod' num den
  have hlt := Nat.mod_lt num hden
  unfold roundHalfEven
  split
  · omega
  · split
    · rw [Nat.add_mul, Nat.one_mul]
      omega
    · rcases Nat.mod_two_eq_zero_or_one (num / den) with h | h
      · rw [h, Nat.add_zero]
        omega
      · rw [h, Nat.add_mul, Nat.one_mul]
        omega

/-- The last quotients that round to less than an even bound are half below it. -/
theorem roundHalfEven_lt_iff {num den bound : Nat} (hden : 0 < den) (heven : bound % 2 = 0) :
    roundHalfEven num den < bound ↔ 2 * num + den < 2 * (bound * den) := by
  have hsplit := Nat.div_add_mod' num den
  have hlt := Nat.mod_lt num hden
  have hmul {a b : Nat} (h : a ≤ b) : a * den ≤ b * den := Nat.mul_le_mul_right den h
  unfold roundHalfEven
  generalize num / den = q at *
  rcases lt_or_ge q bound with hq | hq
  · -- below the bound: only the last quotient before it can round up to it
    rcases Nat.lt_or_ge (q + 1) bound with hq' | hq'
    · have := hmul hq'
      simp only [Nat.succ_eq_add_one, Nat.add_mul, Nat.one_mul] at this
      split_ifs <;> omega
    · obtain rfl : bound = q + 1 := by omega
      rw [Nat.add_mul, Nat.one_mul]
      split_ifs <;> omega
  · have := hmul hq
    split_ifs <;> omega

namespace Decimal

/-- The decimal of the largest scale, up to the given one, whose mantissa can hold the rounded
quotient. -/
def nearestAt (negative : Bool) (num den : Nat) : (scale : Nat) → scale ≤ 28 → Option Decimal
  | 0, hs =>
    if h : roundHalfEven (num * 10 ^ 0) den < 2 ^ 96 then some ⟨negative, _, 0, h, hs⟩ else none
  | scale + 1, hs =>
    if h : roundHalfEven (num * 10 ^ (scale + 1)) den < 2 ^ 96 then
      some ⟨negative, _, scale + 1, h, hs⟩
    else nearestAt negative num den scale ((Nat.le_succ scale).trans hs)

/-- The nearest decimal, if the number does not overflow. -/
def nearest (q : ℚ) : Option Decimal := nearestAt (q < 0) q.num.natAbs q.den 28 le_rfl

theorem nearestAt_isSome {negative : Bool} {num den : Nat} (hden : 0 < den) {scale : Nat}
    (hs : scale ≤ 28) :
    (nearestAt negative num den scale hs).isSome ↔ 2 * num + den < 2 * (2 ^ 96 * den) := by
  induction scale with
  | zero =>
    rw [nearestAt, ← roundHalfEven_lt_iff hden (by decide), pow_zero, mul_one]
    split
    · rename_i h
      exact iff_of_true rfl h
    · rename_i h
      exact iff_of_false Bool.false_ne_true h
  | succ scale ih =>
    rw [nearestAt]
    split
    · rename_i h
      rw [roundHalfEven_lt_iff hden (by decide)] at h
      have : num ≤ num * 10 ^ (scale + 1) := Nat.le_mul_of_pos_right _ (by positivity)
      simp only [Option.isSome_some, true_iff]
      omega
    · exact ih _

theorem nearestAt_near {negative : Bool} {num den : Nat} (hden : 0 < den) {scale : Nat}
    (hs : scale ≤ 28) {d : Decimal} (h : nearestAt negative num den scale hs = some d) :
    d.negative = negative ∧ |(d.mantissa / 10 ^ d.scale : ℚ) - num / den| ≤ 1 / 2 := by
  have key (scale : Nat) :
      |(roundHalfEven (num * 10 ^ scale) den / 10 ^ scale : ℚ) - num / den| ≤ 1 / 2 := by
    obtain ⟨hlow, hhigh⟩ := roundHalfEven_near (num * 10 ^ scale) hden
    have hlow : (2 * (num * 10 ^ scale) : ℚ) ≤
        2 * (roundHalfEven (num * 10 ^ scale) den * den) + den := by exact_mod_cast hlow
    have hhigh : (2 * (roundHalfEven (num * 10 ^ scale) den * den) : ℚ) ≤
        2 * (num * 10 ^ scale) + den := by exact_mod_cast hhigh
    have hd : (0 : ℚ) < den := by exact_mod_cast hden
    have hp : (1 : ℚ) ≤ 10 ^ scale := one_le_pow₀ (by norm_num)
    have hp₀ : (0 : ℚ) < 10 ^ scale := by positivity
    have hdp : (den : ℚ) ≤ den * 10 ^ scale := le_mul_of_one_le_right hd.le hp
    rw [abs_le, div_sub_div _ _ hp₀.ne' hd.ne', le_div_iff₀ (by positivity),
      div_le_iff₀ (by positivity)]
    constructor <;> linarith
  induction scale with
  | zero =>
    rw [nearestAt] at h
    split at h
    · cases h
      exact ⟨rfl, key 0⟩
    · cases h
  | succ scale ih =>
    rw [nearestAt] at h
    split at h
    · cases h
      exact ⟨rfl, key (scale + 1)⟩
    · exact ih _ h

theorem abs_eq_natAbs_div (q : ℚ) : |q| = q.num.natAbs / q.den := by
  have hd : (0 : ℚ) < q.den := by exact_mod_cast q.den_pos
  calc |q| = |(q.num : ℚ) / q.den| := by rw [Rat.num_div_den]
    _ = |(q.num : ℚ)| / q.den := by rw [abs_div, abs_of_pos hd]
    _ = q.num.natAbs / q.den := by rw [Nat.cast_natAbs, Int.cast_abs]

theorem nearest_isSome (q : ℚ) : (nearest q).isSome ↔ |q| < 2 ^ 96 - 1 / 2 := by
  have hd : (0 : ℚ) < q.den := by exact_mod_cast q.den_pos
  rw [nearest, nearestAt_isSome q.den_pos, abs_eq_natAbs_div, div_lt_iff₀ hd]
  constructor
  · intro h
    have h : (2 * q.num.natAbs + q.den : ℚ) < 2 * (2 ^ 96 * q.den) := by exact_mod_cast h
    linarith
  · intro h
    have h : (2 * q.num.natAbs + q.den : ℚ) < 2 * (2 ^ 96 * q.den) := by linarith
    exact_mod_cast h

theorem nearest_near {q : ℚ} {d : Decimal} (h : nearest q = some d) : |d.toRat - q| ≤ 1 / 2 := by
  obtain ⟨hsign, hnear⟩ := nearestAt_near q.den_pos le_rfl h
  rw [← abs_eq_natAbs_div] at hnear
  unfold toRat
  rw [hsign]
  by_cases hq : q < 0
  · rw [abs_of_neg hq] at hnear
    rw [decide_eq_true hq, if_pos rfl, ← abs_neg]
    convert hnear using 2
    ring
  · rw [abs_of_nonneg (not_lt.1 hq)] at hnear
    rwa [decide_eq_false hq, if_neg Bool.false_ne_true]

end Decimal

/-- Operations that give the nearest decimal. -/
def nearestOps : DecimalOps where
  checkedMul a b := Decimal.nearest (a.toRat * b.toRat)
  checkedDiv a b := if b.toRat = 0 then none else Decimal.nearest (a.toRat / b.toRat)
  checkedAdd a b := Decimal.nearest (a.toRat + b.toRat)

theorem nearestOps_lawful : nearestOps.Lawful where
  mul_isSome a b := Decimal.nearest_isSome _
  div_isSome a b hb := by
    have hb₀ : 0 < b.toRat := zero_lt_one.trans_le hb
    have hq : |a.toRat / b.toRat| ≤ 2 ^ 96 - 1 := by
      rw [abs_div, abs_of_pos hb₀]
      exact (div_le_self (abs_nonneg _) hb).trans a.abs_toRat_le
    rw [nearestOps]
    simp only [hb₀.ne', if_false]
    exact (Decimal.nearest_isSome _).2 (by linarith)
  div_near a b r hb h := by
    rw [nearestOps] at h
    simp only [(zero_lt_one.trans_le hb).ne', if_false] at h
    exact Decimal.nearest_near h
  add_isSome a b h := (Decimal.nearest_isSome _).2 (by linarith)
  add_near a b r h := Decimal.nearest_near h

theorem largestRate_lt : 9999999999 < 2 ^ 96 := by decide

/-- The largest rate that the column can hold. -/
def largestRate : Decimal := .ofNat 9999999999 0 largestRate_lt Decimal.zero_scale_le

/-- A rule with the largest rate. -/
def dearPricing : PricingMap :=
  (∅ : PricingMap).insert ("*", "*")
    { inputPer1m := largestRate, outputPer1m := largestRate,
      cachedInputPer1m := none, cacheReadPer1m := none, cacheWritePer1m := none,
      currency := "USD", pricingSource := none }

/-- As many input tokens as an `i64` can count, and one output token. -/
def largestCounts : TokenUsage where
  inputTokens := some 9223372036854775807
  outputTokens := some 1

/-- The filled-in total wraps to a negative number, and the product of the largest count with the
rate panics. -/
theorem largest_counts_overflow :
    largestCounts.Admitted ∧ largestCounts.totalTokens = none ∧
      largestCounts.componentSum = 9223372036854775808 ∧
      largestCounts.ensureTotal.totalTokens = some (-9223372036854775808) ∧
      nearestOps.calculateCost dearPricing "p" (some "u") largestCounts.ensureTotal =
        .error .multiplicationOverflowed := by
  refine ⟨by decide, rfl, rfl, by decide, ?_⟩
  decide +kernel

/-- One token less, at ordinary rates. -/
def largestSum : TokenUsage where
  inputTokens := some 9223372036854775806
  outputTokens := some 1

/-- The largest sum of counts is still billed exactly at ordinary rates. -/
theorem largest_sum_billed :
    largestSum.ensureTotal.totalTokens = some 9223372036854775807 ∧
      ∃ billed, nearestOps.calculateCost fullPricing "p" (some "u") largestSum.ensureTotal =
        .ok billed := by
  have hfits : ∀ price, BilledAt fullPricing "p" (some "u") largestSum price →
      ∀ charge ∈ price.charges largestSum, FitsDecimal charge.1 charge.2 := by
    rintro price ⟨-, hprice, -⟩
    have h : ((some "u").bind (lookupPricing fullPricing "p")).all fun price =>
        (price.charges largestSum).all fun charge => FitsDecimal charge.1 charge.2 := by
      decide +kernel
    rw [hprice, Option.all_some, List.all_eq_true] at h
    exact fun charge hcharge => of_decide_eq_true (h charge hcharge)
  obtain ⟨htotal, hbilled⟩ := (billing_exact_iff nearestOps_lawful fullPricing "p" (some "u")
    (show largestSum.Admitted by decide)).2 ⟨fun _ => by decide, hfits⟩
  exact ⟨htotal rfl, hbilled⟩

end LiteAgentify
