import LiteAgentify.Pricing

/-!
# The cost in decimals

`calculate_cost` as it runs on `rust_decimal`: the operators of `Decimal` panic where the checked
operations return nothing. These operations are parameters (`DecimalOps`); `DecimalOps.Lawful` says
what the crate documents of them.
-/

set_option autoImplicit false

namespace LiteAgentify

/-- The panics of the `Decimal` operators. -/
inductive Panic
  | multiplicationOverflowed
  | divisionOverflowed
  | additionOverflowed
  deriving DecidableEq

/-- `Decimal::from` of an `i64`. -/
def Decimal.ofI64 (n : Int) : Decimal :=
  ⟨n < 0, n.natAbs % 2 ^ 64, 0, (Nat.mod_lt _ (by decide)).trans (by decide), zero_scale_le⟩

/-- The checked operations of `Decimal`. -/
structure DecimalOps where
  checkedMul : Decimal → Decimal → Option Decimal
  checkedDiv : Decimal → Decimal → Option Decimal
  checkedAdd : Decimal → Decimal → Option Decimal

/-- What `rust_decimal` documents: a result is rounded to the scale that its 96-bit mantissa can
have, and an operation overflows when there is none. A product overflows exactly when it does not
fit even rounded to an integer. -/
structure DecimalOps.Lawful (ops : DecimalOps) : Prop where
  mul_isSome : ∀ a b, (ops.checkedMul a b).isSome ↔ |a.toRat * b.toRat| < 2 ^ 96 - 1 / 2
  div_isSome : ∀ a b, 1 ≤ b.toRat → (ops.checkedDiv a b).isSome
  div_near : ∀ a b r, 1 ≤ b.toRat → ops.checkedDiv a b = some r →
    |r.toRat - a.toRat / b.toRat| ≤ 1 / 2
  add_isSome : ∀ a b, |a.toRat + b.toRat| ≤ 2 ^ 96 - 1 → (ops.checkedAdd a b).isSome
  add_near : ∀ a b r, ops.checkedAdd a b = some r → |r.toRat - (a.toRat + b.toRat)| ≤ 1 / 2

namespace DecimalOps

variable (ops : DecimalOps)

def mul (a b : Decimal) : Except Panic Decimal :=
  match ops.checkedMul a b with
  | some product => .ok product
  | none => .error .multiplicationOverflowed

def div (a b : Decimal) : Except Panic Decimal :=
  match ops.checkedDiv a b with
  | some quotient => .ok quotient
  | none => .error .divisionOverflowed

def add (a b : Decimal) : Except Panic Decimal :=
  match ops.checkedAdd a b with
  | some sum => .ok sum
  | none => .error .additionOverflowed

def tokenCost (tokens : Int) (pricePer1m : Decimal) : Except Panic Decimal := do
  let product ← ops.mul (.ofI64 tokens) pricePer1m
  ops.div product (.ofI64 tokensPerMillion)

/-- `cost += token_cost(tokens, rate)`, for a class that may have no rate. -/
def addCost (cost : Decimal) (tokens : Int) (rate : Option Decimal) : Except Panic Decimal :=
  match rate with
  | some rate => do
    let part ← ops.tokenCost tokens rate
    ops.add cost part
  | none => .ok cost

/-- `calculate_cost`, with the panics of its arithmetic. -/
def calculateCost (pricing : PricingMap) (providerId : String) (upstreamModel : Option String)
    (usage : TokenUsage) : Except Panic (Option (Decimal × String × Option String)) :=
  match upstreamModel with
  | none => .ok none
  | some upstreamModel =>
    if ¬ usage.hasTokens then .ok none
    else
      match lookupPricing pricing providerId upstreamModel with
      | none => .ok none
      | some price =>
        let cachedInput := usage.cachedInputTokens.getD 0
        let cacheRead := usage.cacheReadTokens.getD 0
        let cacheWrite := usage.cacheWriteTokens.getD 0
        if cachedInput > 0 ∧ price.cachedInputPer1m.isNone then .ok none
        else if cacheRead > 0 ∧ price.cacheReadPer1m.isNone then .ok none
        else if cacheWrite > 0 ∧ price.cacheWritePer1m.isNone then .ok none
        else do
          let regularInput := max (saturatingSub (usage.inputTokens.getD 0) cachedInput) 0
          let cost ← ops.tokenCost regularInput price.inputPer1m
          let cost ← ops.addCost cost (usage.outputTokens.getD 0) (some price.outputPer1m)
          let cost ← ops.addCost cost cachedInput price.cachedInputPer1m
          let cost ← ops.addCost cost cacheRead price.cacheReadPer1m
          let cost ← ops.addCost cost cacheWrite price.cacheWritePer1m
          return some (cost, price.currency, price.pricingSource)

end DecimalOps

end LiteAgentify
