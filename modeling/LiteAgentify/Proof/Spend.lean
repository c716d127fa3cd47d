import LiteAgentify.Proof.Billing

/-!
# Spend in dollars

The counters hold bare numbers: `spend_get` says that a scope's counter is the sum of the costs
recorded for it, in whatever currency. It is the sum of the costs in dollars, throughout a sequence
of completed requests, exactly when every request that charges it is priced in dollars
(`spend_in_dollars`).
-/

set_option autoImplicit false

namespace LiteAgentify

/-- What `record_usage` is called with when a request completes. -/
structure CompletedRequest where
  metadata : UsageMetadata
  source : UsageSource
  usage : Option TokenUsage
  now : DateTime

namespace CompletedRequest

variable (state : GatewayState) (request : CompletedRequest)

/-- The adds of the request, made to the counter. -/
def charge (counter : MemoryCounter) : MemoryCounter :=
  (adds (recordUsage state request.metadata request.source request.usage request.now)).foldl
    (fun counter add => counter.add add.1 add.2) counter

/-- The request is attributed to the user, or made with the key. -/
def chargedTo : Scope → Bool
  | .user id => request.metadata.userId = some id
  | .key id => request.metadata.apiKeyId = some id

/-- The estimated cost as a number, zero when there is none. -/
def cost : ℚ := ((recordedCost state request.metadata request.usage).map (·.1)).getD 0

/-- The estimated cost when its currency is the dollar. -/
def usdCost : ℚ :=
  match recordedCost state request.metadata request.usage with
  | some (cost, currency, _) => if currency = "USD" then cost else 0
  | none => 0

/-- The rule that the price of the request comes from is in dollars. -/
def PricedInUsd : Prop :=
  ∀ upstreamModel price, request.metadata.upstreamModel = some upstreamModel →
    lookupPricing state.pricing request.metadata.providerId upstreamModel = some price →
    price.currency = "USD"

/-- The request moves a counter. -/
def Charges : Prop := request.cost state ≠ 0 ∧ ∃ scope, request.chargedTo scope = true

end CompletedRequest

/-- The counters after a sequence of completed requests. -/
def spend (state : GatewayState) (requests : List CompletedRequest) : MemoryCounter :=
  requests.foldl (fun counter request => request.charge state counter) ∅

/-- The sum of the costs in dollars of the requests charged to a scope. -/
def usdSpent (state : GatewayState) (scope : Scope) (requests : List CompletedRequest) : ℚ :=
  (requests.map fun request =>
    if request.chargedTo scope then request.usdCost state else 0).sum

variable {state : GatewayState} {request : CompletedRequest}

/-- A request adds its cost to the counters of its user and its key. -/
theorem CompletedRequest.charge_get (counter : MemoryCounter) (scope : Scope) :
    (request.charge state counter).get scope =
      counter.get scope + if request.chargedTo scope then request.cost state else 0 := by
  rw [charge, adds_recordUsage, cost]
  cases recordedCost state request.metadata request.usage with
  | none => simp
  | some priced =>
    simp only [charges, Option.map_some, Option.getD_some]
    cases scope with
    | user id =>
      cases hu : request.metadata.userId <;> cases hk : request.metadata.apiKeyId <;>
        simp [chargedTo, hu, eq_comm]
    | key id =>
      cases hu : request.metadata.userId <;> cases hk : request.metadata.apiKeyId <;>
        simp [chargedTo, hk, eq_comm]

theorem spend_snoc (requests : List CompletedRequest) (scope : Scope) :
    (spend state (requests ++ [request])).get scope =
      (spend state requests).get scope +
        if request.chargedTo scope then request.cost state else 0 := by
  simp only [spend, List.foldl_append, List.foldl_cons, List.foldl_nil]
  exact CompletedRequest.charge_get _ _

theorem usdSpent_snoc (requests : List CompletedRequest) (scope : Scope) :
    usdSpent state scope (requests ++ [request]) =
      usdSpent state scope requests +
        if request.chargedTo scope then request.usdCost state else 0 := by
  simp [usdSpent]

/-- The counter of a scope is the sum of the costs charged to it. -/
theorem spend_get (requests : List CompletedRequest) (scope : Scope) :
    (spend state requests).get scope =
      (requests.map fun request =>
        if request.chargedTo scope then request.cost state else 0).sum := by
  induction requests using List.reverseRecOn with
  | nil => rfl
  | append_singleton requests request ih =>
    rw [spend_snoc, ih]
    simp

/-- A cost is in the currency of the rule it comes from. -/
theorem recordedCost_currency {metadata : UsageMetadata} {usage : Option TokenUsage} {cost : ℚ}
    {currency : String} {source : Option String}
    (h : recordedCost state metadata usage = some (cost, currency, source)) :
    ∃ upstreamModel price, metadata.upstreamModel = some upstreamModel ∧
      lookupPricing state.pricing metadata.providerId upstreamModel = some price ∧
      price.currency = currency := by
  unfold recordedCost at h
  cases hmodel : metadata.upstreamModel with
  | none =>
    rw [hmodel] at h
    cases h
  | some upstreamModel =>
    rw [hmodel] at h
    by_cases hhas : (usage.getD {}).ensureTotal.hasTokens = true
    · rw [calculateCost_eq hhas, Option.bind_eq_some_iff] at h
      obtain ⟨price, hprice, h⟩ := h
      rw [Option.ite_none_right_eq_some] at h
      obtain ⟨-, h⟩ := h
      cases h
      exact ⟨upstreamModel, price, rfl, hprice, rfl⟩
    · simp [calculateCost, hhas] at h

/-- The cost of a request is its cost in dollars, unless it costs something in another currency. -/
theorem CompletedRequest.cost_eq_usdCost :
    request.cost state = request.usdCost state ↔
      (request.cost state ≠ 0 → request.PricedInUsd state) := by
  unfold cost usdCost PricedInUsd
  cases hr : recordedCost state request.metadata request.usage with
  | none => simp
  | some priced =>
    obtain ⟨cost, currency, source⟩ := priced
    obtain ⟨upstreamModel, price, hmodel, hprice, hcurrency⟩ := recordedCost_currency hr
    simp only [Option.map_some, Option.getD_some, hmodel, Option.some.injEq]
    constructor
    · rintro h hne _ _ rfl hprice'
      rw [hprice] at hprice'
      cases hprice'
      by_contra hnot
      rw [hcurrency] at hnot
      rw [if_neg hnot] at h
      exact hne h
    · intro h
      by_cases hzero : cost = 0
      · simp [hzero]
      · rw [← hcurrency, if_pos (h hzero _ _ rfl hprice)]

/-- **When spend is counted in dollars.** Throughout a sequence of completed requests the counter of
every user and every key is the sum of its costs in dollars exactly when every request that moves a
counter is priced by a rule in dollars. -/
theorem spend_in_dollars (state : GatewayState) (requests : List CompletedRequest) :
    (∀ pre, pre <+: requests → ∀ scope, (spend state pre).get scope = usdSpent state scope pre) ↔
      ∀ request ∈ requests, request.Charges state → request.PricedInUsd state := by
  induction requests using List.reverseRecOn with
  | nil =>
    refine iff_of_true (fun pre hpre scope => ?_) (by simp)
    rw [List.prefix_nil.1 hpre]
    rfl
  | append_singleton requests request ih =>
    have hlast : ∀ scope, (spend state requests).get scope = usdSpent state scope requests →
        ((spend state (requests ++ [request])).get scope =
            usdSpent state scope (requests ++ [request]) ↔
          (request.chargedTo scope = true → request.cost state = request.usdCost state)) := by
      intro scope hprev
      rw [spend_snoc, usdSpent_snoc, hprev, add_right_inj]
      by_cases hc : request.chargedTo scope = true <;> simp [hc]
    constructor
    · intro hall
      have hbefore := ih.1 fun pre hpre => hall pre (hpre.trans (List.prefix_append _ _))
      intro r hr
      rcases List.mem_append.1 hr with hr | hr
      · exact hbefore r hr
      · rw [List.mem_singleton.1 hr]
        rintro ⟨hne, scope, hscope⟩
        have heq := (hlast scope (hall requests (List.prefix_append _ _) scope)).1
          (hall _ (List.prefix_refl _) scope) hscope
        exact CompletedRequest.cost_eq_usdCost.1 heq hne
    · intro hall pre hpre scope
      have hbefore := ih.2 fun r hr => hall r (List.mem_append_left _ hr)
      rcases List.prefix_concat_iff.1 hpre with rfl | hpre
      · rw [hlast scope (hbefore requests (List.prefix_refl _) scope)]
        intro hscope
        exact CompletedRequest.cost_eq_usdCost.2 fun hne =>
          hall request (by simp) ⟨hne, scope, hscope⟩
      · exact hbefore pre hpre scope

/-- A catalog rule in euros. -/
def euroRule : PricingConfig :=
  { provider := "*", model := "*", inputPer1m := .ofUInt8 3, outputPer1m := .ofUInt8 15,
    currency := "EUR" }

def euroState : GatewayState :=
  { sampleState with pricing := (∅ : PricingMap).insert ("*", "*") euroRule.pricing }

/-- A request of user 1 with key 2 that used a million input tokens. -/
def euroRequest : CompletedRequest where
  metadata := ⟨"r", "p", .openAi, "/v1/chat/completions", some 1, some 2, some "m", some "u", 200, 0⟩
  source := .providerResponse
  usage := some { inputTokens := some 1000000 }
  now := 0

/-- Three euros are counted as three dollars, for the user and for the key. -/
theorem euros_counted_as_dollars :
    pricingMap [euroRule] = .ok euroState.pricing ∧
      (spend euroState [euroRequest]).get (.user 1) = 3 ∧
      usdSpent euroState (.user 1) [euroRequest] = 0 ∧
      (spend euroState [euroRequest]).get (.key 2) = 3 ∧
      usdSpent euroState (.key 2) [euroRequest] = 0 :=
  ⟨rfl, by decide +kernel, by decide +kernel, by decide +kernel, by decide +kernel⟩

end LiteAgentify
