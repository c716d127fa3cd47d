import LiteAgentify.Lib.Multimap
import LiteAgentify.Proof.Failover

/-!
# The headers that are sent upstream

`outboundHeaders_eq`: the provider's own headers (`providerHeaders`, which see nothing of the
request) are put over the allowlisted inbound ones, which are put one by one. So the outbound
headers are those of the provider and, of each allowlisted name, the last inbound value
(`values_outboundHeaders`): what is not on the allowlist has no influence
(`outboundHeaders_isolated`), and a repeated header loses all its values but one
(`outboundHeaders_complete_iff`).
-/

set_option autoImplicit false

namespace LiteAgentify

open Multimap

/-! ## The allowlist -/

/-- The headers a client authenticates with. -/
def credentialHeaders : List String := ["authorization", "x-api-key", "api-key", "cookie"]

theorem credential_not_forwardable :
    ∀ name ∈ credentialHeaders, isRequestHeaderForwardable name = false := by decide

/-! ## Two parts -/

/-- The headers a provider's requests get: its credentials and its version. -/
def providerHeaders (P : Packages) (provider : Provider) : Except String HeaderMap := do
  let bearer ← headerValue P s!"Bearer {provider.apiKey}" "invalid provider API key header"
  match provider.protocol with
  | .openAi => return [("authorization", bearer)]
  | .anthropic =>
    let key ← headerValue P provider.apiKey "invalid Anthropic API key header"
    match provider.anthropicVersion with
    | none => return [("authorization", bearer), ("x-api-key", key)]
    | some version =>
      let version ← headerValue P version "invalid Anthropic version header"
      return [("authorization", bearer), ("x-api-key", key), ("anthropic-version", version)]

/-- The allowlisted headers. -/
def allowed (inbound : HeaderMap) : HeaderMap :=
  inbound.filter fun header => isRequestHeaderForwardable header.1

variable {P : Packages} {inbound inbound' headers own : HeaderMap} {provider : Provider}
  {name : String}

/-- **The provider's headers are put over the allowlisted ones.** -/
theorem outboundHeaders_eq (P : Packages) (inbound : HeaderMap) (provider : Provider) :
    outboundHeaders P inbound provider =
      (providerHeaders P provider).map fun own => putAll own (putAll (allowed inbound) []) := by
  unfold outboundHeaders providerHeaders
  cases hb : headerValue P s!"Bearer {provider.apiKey}" "invalid provider API key header" with
  | error e => rfl
  | ok bearer =>
    cases hp : provider.protocol with
    | openAi => rfl
    | anthropic =>
      cases hk : headerValue P provider.apiKey "invalid Anthropic API key header" with
      | error e => rfl
      | ok key =>
        cases hv : provider.anthropicVersion with
        | none => rfl
        | some version =>
          cases hver : headerValue P version "invalid Anthropic version header" with
          | error e =>
            simp only [bind, Except.bind, hver]
            rfl
          | ok version =>
            simp only [bind, Except.bind, hver]
            rfl

theorem headerValue_ok {value context : String} {bytes : Bytes} :
    headerValue P value context = .ok bytes ↔ P.headerFromStr value = some bytes := by
  unfold headerValue
  cases P.headerFromStr value <;> simp

/-- What a provider's headers are. -/
theorem providerHeaders_ok (h : providerHeaders P provider = .ok own) :
    ∃ bearer, P.headerFromStr s!"Bearer {provider.apiKey}" = some bearer ∧
      ((provider.protocol = .openAi ∧ own = [("authorization", bearer)]) ∨
        (provider.protocol = .anthropic ∧ ∃ key, P.headerFromStr provider.apiKey = some key ∧
          ((provider.anthropicVersion = none ∧
              own = [("authorization", bearer), ("x-api-key", key)]) ∨
            ∃ version value, provider.anthropicVersion = some version ∧
              P.headerFromStr version = some value ∧
              own = [("authorization", bearer), ("x-api-key", key),
                ("anthropic-version", value)]))) := by
  unfold providerHeaders at h
  obtain ⟨bearer, hb, h⟩ := Keyed.bind_ok.1 h
  refine ⟨bearer, headerValue_ok.1 hb, ?_⟩
  split at h
  · rename_i hp
    cases h
    exact .inl ⟨hp, rfl⟩
  · rename_i hp
    obtain ⟨key, hk, h⟩ := Keyed.bind_ok.1 h
    refine .inr ⟨hp, key, headerValue_ok.1 hk, ?_⟩
    split at h
    · rename_i hv
      cases h
      exact .inl ⟨hv, rfl⟩
    · rename_i version hv
      obtain ⟨value, hval, h⟩ := Keyed.bind_ok.1 h
      cases h
      exact .inr ⟨version, value, hv, headerValue_ok.1 hval, rfl⟩

/-- The provider's own headers: one `authorization`, and of the rest only what its protocol has. -/
theorem values_providerHeaders (h : providerHeaders P provider = .ok own) :
    (∃ bearer, P.headerFromStr s!"Bearer {provider.apiKey}" = some bearer ∧
      values own "authorization" = [bearer]) ∧
    (provider.protocol = .anthropic → ∃ key, P.headerFromStr provider.apiKey = some key ∧
      values own "x-api-key" = [key]) ∧
    (provider.protocol = .openAi → values own "x-api-key" = []) ∧
    ∀ name ∉ ["authorization", "x-api-key", "anthropic-version"], values own name = [] := by
  have hnone : ∀ {entries : HeaderMap},
      entries.map Prod.fst ⊆ ["authorization", "x-api-key", "anthropic-version"] →
      ∀ name ∉ ["authorization", "x-api-key", "anthropic-version"], values entries name = [] := by
    intro entries hsub name hname
    rw [List.eq_nil_iff_forall_not_mem]
    intro value hvalue
    exact hname (hsub (List.mem_map_of_mem (f := Prod.fst) (mem_values.1 hvalue)))
  obtain ⟨bearer, hb, ⟨hp, rfl⟩ | ⟨hp, key, hk, ⟨-, rfl⟩ | ⟨version, value, -, -, rfl⟩⟩⟩ :=
    providerHeaders_ok h
  · exact ⟨⟨bearer, hb, rfl⟩, fun ha => by simp [hp] at ha, fun _ => rfl, hnone (by simp)⟩
  · exact ⟨⟨bearer, hb, rfl⟩, fun _ => ⟨key, hk, rfl⟩, fun ho => by simp [hp] at ho,
      hnone (by simp)⟩
  · exact ⟨⟨bearer, hb, rfl⟩, fun _ => ⟨key, hk, rfl⟩, fun ho => by simp [hp] at ho,
      hnone (by simp)⟩

/-! ## The outbound headers -/

theorem outboundHeaders_ok (h : outboundHeaders P inbound provider = .ok headers) :
    ∃ own, providerHeaders P provider = .ok own ∧
      headers = putAll own (putAll (allowed inbound) []) := by
  rw [outboundHeaders_eq] at h
  cases hown : providerHeaders P provider with
  | error e =>
    rw [hown] at h
    cases h
  | ok own =>
    rw [hown] at h
    cases h
    exact ⟨own, rfl, rfl⟩

/-- A name the provider has no header for: the last inbound value, when the name is allowlisted. -/
theorem values_outboundHeaders (h : outboundHeaders P inbound provider = .ok headers)
    (hname : name ∉ ["authorization", "x-api-key", "anthropic-version"]) :
    values headers name = values (putAll (allowed inbound) []) name := by
  obtain ⟨own, hown, rfl⟩ := outboundHeaders_ok h
  rw [values_putAll, (values_providerHeaders hown).2.2.2 name hname]
  rfl

theorem values_allowed :
    values (allowed inbound) name =
      if isRequestHeaderForwardable name then values inbound name else [] :=
  values_filter isRequestHeaderForwardable

/-- Nothing is forwarded under a name that is not allowlisted. -/
theorem values_putAll_allowed (h : isRequestHeaderForwardable name = false) :
    values (putAll (allowed inbound) []) name = [] := by
  rw [values_putAll, values_allowed, h]
  rfl

/-- Two results are the same: the same error, or header maps with the same values of every name. -/
def SameResult : Except String HeaderMap → Except String HeaderMap → Prop
  | .ok headers, .ok headers' => Same headers headers'
  | .error e, .error e' => e = e'
  | _, _ => False

theorem sameResult_of_allowed (P : Packages) (provider : Provider)
    (h : Same (allowed inbound) (allowed inbound')) :
    SameResult (outboundHeaders P inbound provider) (outboundHeaders P inbound' provider) := by
  rw [outboundHeaders_eq, outboundHeaders_eq]
  cases providerHeaders P provider with
  | error e => rfl
  | ok own => exact (same_putAll h).putAll

/-- **Client credentials never reach an upstream.** Header maps that agree on the allowlist, in
particular any that differ in credential headers only, have the same result; with the order of the
allowlisted headers it is even the same list. The `authorization` header, and the `x-api-key` of an
Anthropic provider, is the provider's and occurs once; the other credential headers do not occur. -/
theorem outboundHeaders_isolated (P : Packages) (provider : Provider) :
    (∀ inbound inbound' : HeaderMap,
      (∀ name, isRequestHeaderForwardable name = true →
        values inbound name = values inbound' name) →
      SameResult (outboundHeaders P inbound provider) (outboundHeaders P inbound' provider)) ∧
    (∀ inbound inbound' : HeaderMap, allowed inbound = allowed inbound' →
      outboundHeaders P inbound provider = outboundHeaders P inbound' provider) ∧
    (∀ inbound inbound' : HeaderMap,
      (∀ name ∉ credentialHeaders, values inbound name = values inbound' name) →
      SameResult (outboundHeaders P inbound provider) (outboundHeaders P inbound' provider)) ∧
    ∀ inbound headers : HeaderMap, outboundHeaders P inbound provider = .ok headers →
      (∃ bearer, P.headerFromStr s!"Bearer {provider.apiKey}" = some bearer ∧
        values headers "authorization" = [bearer]) ∧
      (provider.protocol = .anthropic → ∃ key, P.headerFromStr provider.apiKey = some key ∧
        values headers "x-api-key" = [key]) ∧
      (provider.protocol = .openAi → values headers "x-api-key" = []) ∧
      values headers "api-key" = [] ∧ values headers "cookie" = [] := by
  refine ⟨fun inbound inbound' h => sameResult_of_allowed P provider (same_filter h), ?_, ?_, ?_⟩
  · intro inbound inbound' h
    rw [outboundHeaders_eq, outboundHeaders_eq, h]
  · intro inbound inbound' h
    refine sameResult_of_allowed P provider (same_filter fun name hname => h name fun hcred => ?_)
    rw [credential_not_forwardable name hcred] at hname
    cases hname
  · intro inbound headers h
    have hapi : values headers "api-key" = [] := by
      rw [values_outboundHeaders h (by decide), values_putAll_allowed (by decide)]
    have hcookie : values headers "cookie" = [] := by
      rw [values_outboundHeaders h (by decide), values_putAll_allowed (by decide)]
    obtain ⟨own, hown, rfl⟩ := outboundHeaders_ok h
    obtain ⟨⟨bearer, hb, hbearer⟩, hanthropic, hopenAi, -⟩ := values_providerHeaders hown
    refine ⟨⟨bearer, hb, ?_⟩, fun hp => ?_, fun hp => ?_, hapi, hcookie⟩
    · rw [values_putAll, hbearer]
      rfl
    · obtain ⟨key, hk, hkey⟩ := hanthropic hp
      refine ⟨key, hk, ?_⟩
      rw [values_putAll, hkey]
      rfl
    · rw [values_putAll, hopenAi hp]
      exact values_putAll_allowed (by decide)

/-- A provider and the request headers of a client that authenticates in three ways. -/
def sampleProvider : Provider := ⟨"p", .anthropic, "https://a", "s", some "2023-06-01"⟩

def sampleInbound : HeaderMap :=
  [("authorization", Text.asBytes "Bearer k"), ("x-api-key", Text.asBytes "k"),
    ("cookie", Text.asBytes "k"), ("anthropic-beta", Text.asBytes "a"),
    ("anthropic-beta", Text.asBytes "b")]

/-- Without its credentials the client's request has the same outbound headers. -/
theorem outboundHeaders_isolated_sample :
    SameResult (outboundHeaders samplePackages sampleInbound sampleProvider)
      (outboundHeaders samplePackages [("anthropic-beta", Text.asBytes "a"),
        ("anthropic-beta", Text.asBytes "b")] sampleProvider) :=
  (outboundHeaders_isolated samplePackages sampleProvider).1 _ _ fun name hname => by
    have hne : ∀ cred ∈ credentialHeaders, cred ≠ name := by
      rintro cred hcred rfl
      rw [credential_not_forwardable _ hcred] at hname
      cases hname
    rw [sampleInbound, values_cons, if_neg (hne "authorization" (by decide)), values_cons,
      if_neg (hne "x-api-key" (by decide)), values_cons, if_neg (hne "cookie" (by decide))]

/-! ## Repeated headers -/

/-- A forwardable name is not one that the provider sets. -/
theorem not_provider_of_forwardable (h : isRequestHeaderForwardable name = true) :
    name ∉ ["authorization", "x-api-key", "anthropic-version"] := by
  have hall : ∀ name ∈ ["authorization", "x-api-key", "anthropic-version"],
      isRequestHeaderForwardable name = false := by decide
  intro hmem
  rw [hall name hmem] at h
  cases h

/-- **A forwardable header is forwarded completely exactly when it has at most one value**: the copy
loop replaces the earlier values of a name. -/
theorem outboundHeaders_complete_iff (h : outboundHeaders P inbound provider = .ok headers)
    (hname : isRequestHeaderForwardable name = true) :
    values headers name = values inbound name ↔ (values inbound name).length ≤ 1 := by
  have hallowed : values (allowed inbound) name = values inbound name := by
    rw [values_allowed, if_pos hname]
  rw [values_outboundHeaders h (not_provider_of_forwardable hname), ← hallowed]
  exact values_putAll_nil_eq

theorem outboundHeaders_complete_iff_sample :
    outboundHeaders samplePackages [("user-agent", Text.asBytes "c")] sampleProvider =
        .ok [("user-agent", Text.asBytes "c"), ("authorization", Text.asBytes "Bearer s"),
          ("x-api-key", Text.asBytes "s"), ("anthropic-version", Text.asBytes "2023-06-01")] ∧
      (values [("user-agent", Text.asBytes "c"), ("authorization", Text.asBytes "Bearer s"),
          ("x-api-key", Text.asBytes "s"), ("anthropic-version", Text.asBytes "2023-06-01")]
          "user-agent" = values [("user-agent", Text.asBytes "c")] "user-agent" ↔
        (values [("user-agent", Text.asBytes "c")] "user-agent").length ≤ 1) :=
  ⟨by decide, @outboundHeaders_complete_iff samplePackages _ _ sampleProvider _ (by decide)
    (by decide)⟩

/-- Of two `anthropic-beta` headers the second one is sent alone. -/
theorem repeated_header_lost :
    ¬ ∀ (P : Packages) (inbound headers : HeaderMap) (provider : Provider) (name : String),
      outboundHeaders P inbound provider = .ok headers → isRequestHeaderForwardable name = true →
      values headers name = values inbound name := by
  intro h
  have hlost := h samplePackages sampleInbound
    [("anthropic-beta", Text.asBytes "b"), ("authorization", Text.asBytes "Bearer s"),
      ("x-api-key", Text.asBytes "s"), ("anthropic-version", Text.asBytes "2023-06-01")]
    sampleProvider "anthropic-beta" (by decide) (by decide)
  revert hlost
  decide

end LiteAgentify
