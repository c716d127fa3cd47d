import LiteAgentify.Proof.Contact
import LiteAgentify.Proof.Snapshot

/-!
# What is listed can be called

`listable_models` and `resolve` decide over the same map with different filters. A snapshot's
deployments all have their provider (`fromParts_provider`), so an enabled model with a deployment
is on some protocol, and the two agree (`listed_iff_callable`).
-/

set_option autoImplicit false

namespace LiteAgentify

namespace GatewayState

variable {state : GatewayState}

/-! ## The listing -/

theorem mem_listableModels {identity : KeyIdentity} {name : String} {entry : ModelEntry} :
    (name, entry) ∈ state.listableModels identity ↔
      state.models.lookup name = some entry ∧ entry.enabled ∧ identity.mayCall name := by
  simp only [listableModels, List.mem_filterMap, Finset.mem_sort, Finmap.mem_keys,
    Option.bind_eq_some_iff, Option.ite_none_right_eq_some, Option.some.injEq, Prod.mk.injEq,
    Bool.and_eq_true]
  constructor
  · rintro ⟨_, -, _, hl, hc, rfl, rfl⟩
    exact ⟨hl, hc⟩
  · rintro ⟨hl, hc⟩
    exact ⟨name, Finmap.mem_iff.2 ⟨entry, hl⟩, entry, hl, hc, rfl, rfl⟩

/-- The listing is in the order of the names, each once. -/
theorem listableModels_sorted (identity : KeyIdentity) :
    (state.listableModels identity).Pairwise (·.1 < ·.1) := by
  rw [listableModels, List.pairwise_filterMap]
  refine (Finset.sortedLT_sort state.models.keys).pairwise.imp fun {a b} hab => ?_
  simp only [Option.bind_eq_some_iff, Option.ite_none_right_eq_some, Option.some.injEq]
  rintro _ ⟨_, -, -, rfl⟩ _ ⟨_, -, -, rfl⟩
  exact hab

/-! ## The other protocols -/

/-- The protocols that a walk over the deployments finds besides the endpoint's. -/
theorem filterDeployments_snd (protocol : Protocol) (deployments : List Deployment) :
    (state.filterDeployments protocol deployments).2.Nodup ∧
      ∀ q, q ∈ (state.filterDeployments protocol deployments).2 ↔
        q ≠ protocol ∧ state.matching q deployments ≠ [] := by
  induction deployments using List.reverseRecOn with
  | nil => simp [filterDeployments, matching]
  | append_singleton deployments deployment ih =>
    rw [filterDeployments] at ih ⊢
    rw [List.foldl_append, List.foldl_cons, List.foldl_nil]
    generalize deployments.foldl _ _ = found at ih ⊢
    obtain ⟨hnd, hmem⟩ := ih
    have hmatch : ∀ q, state.matching q (deployments ++ [deployment]) ≠ [] ↔
        state.matching q deployments ≠ [] ∨ state.matching q [deployment] ≠ [] := by
      intro q
      rw [matching, List.filterMap_append, ← matching, ← matching, Ne, List.append_eq_nil_iff,
        not_and_or]
    simp only [hmatch]
    cases h : state.providers.lookup deployment.providerId with
    | none =>
      have hone : ∀ q, ¬ state.matching q [deployment] ≠ [] := by
        intro q
        simp [matching, h]
      simp only [hone, or_false]
      exact ⟨hnd, hmem⟩
    | some provider =>
      have hone : ∀ q, state.matching q [deployment] ≠ [] ↔ provider.protocol = q := by
        intro q
        simp [matching, h]
      simp only [hone]
      by_cases hp : provider.protocol = protocol
      · refine ⟨by simpa [hp] using hnd, fun q => ?_⟩
        simp only [hp, if_true]
        grind
      · by_cases ha : provider.protocol ∈ found.2
        · refine ⟨by simpa [hp, ha] using hnd, fun q => ?_⟩
          simp only [hp, ha, not_true, if_false]
          grind
        · refine ⟨?_, fun q => ?_⟩
          · simp only [hp, ha, not_false_iff, if_false, if_true]
            exact List.nodup_append_comm.1 (by simpa using ⟨ha, hnd⟩)
          · simp only [hp, ha, not_false_iff, if_false, if_true, List.mem_append,
              List.mem_singleton]
            grind

/-- When `resolve` gives the other protocols, and which. -/
theorem resolve_wrongProtocol {protocol : Protocol} {model : String} {identity : KeyIdentity}
    {available : List Protocol}
    (h : state.resolve protocol model identity = .wrongProtocol available) :
    ∃ entry, state.models.lookup model = some entry ∧ entry.enabled ∧ identity.mayCall model ∧
      state.matching protocol entry.deployments = [] ∧
      available = (state.filterDeployments protocol entry.deployments).2 := by
  unfold resolve at h
  cases hm : state.models.lookup model with
  | none => simp [hm] at h
  | some entry =>
    simp only [hm] at h
    split at h
    · cases h
    · rename_i he
      split at h
      · cases h
      · rename_i hc
        split at h
        · rename_i hn
          cases h
          rw [List.isEmpty_iff, filterDeployments_fst] at hn
          exact ⟨entry, rfl, not_not.1 he, not_not.1 hc, hn, rfl⟩
        · cases h

/-- What is not enabled and permitted is unknown or forbidden, on every endpoint. -/
theorem resolve_unlisted {model : String} {identity : KeyIdentity}
    (h : ¬ ∃ entry, state.models.lookup model = some entry ∧ entry.enabled ∧
      identity.mayCall model) (protocol : Protocol) :
    state.resolve protocol model identity = .unknownModel ∨
      state.resolve protocol model identity = .forbidden := by
  unfold resolve
  cases hm : state.models.lookup model with
  | none => exact .inl rfl
  | some entry =>
    by_cases he : entry.enabled
    · have hc : ¬ identity.mayCall model := fun hc => h ⟨entry, hm, he, hc⟩
      exact .inr (by simp [he, hc])
    · exact .inl (by simp [he])

end GatewayState

/-! ## Listing and resolution -/

section
variable {P : Packages} {config : GatewayConfig} {catalog : CatalogSnapshot}
  {upstream usageRecorder : Handle} {state : GatewayState}
  (hbuilt : GatewayState.fromParts P config catalog upstream usageRecorder = .ok state)
  {name : String} {entry : ModelEntry} (hentry : state.models.lookup name = some entry)
include hbuilt hentry

/-- Every entry of a snapshot is a model of the catalog. -/
theorem fromParts_model : ∃ model ∈ catalog.models, model.name = name ∧ model.entry = entry ∧
    model.Valid (· ∈ state.providers) := by
  simp only [GatewayState.fromParts, Keyed.bind_ok, pure, Except.pure, Except.ok.injEq] at hbuilt
  obtain ⟨_, -, providers, -, models, hmodels, _, -, rfl⟩ := hbuilt
  obtain ⟨model, hmodel, hname, hmentry⟩ :=
    ((insertModel_inserts providers).lookup_eq_some hmodels).1 hentry
  exact ⟨model, hmodel, hname, hmentry,
    ((insertModel_inserts providers).foldlM_ok.1 hmodels).1 model hmodel⟩

/-- In a snapshot every deployment has its provider. -/
theorem fromParts_provider {deployment : Deployment} (hd : deployment ∈ entry.deployments) :
    ∃ provider, state.providers.lookup deployment.providerId = some provider := by
  obtain ⟨model, -, -, rfl, hvalid⟩ := fromParts_model hbuilt hentry
  obtain ⟨deployment', hd', rfl⟩ := List.mem_map.1 hd
  exact Finmap.mem_iff.1 (hvalid.deployments deployment' hd').provider

end

/-- **Listed and callable are the same.** In every snapshot whose enabled models have deployments,
for every key and name: what is listed is what some endpoint resolves to a chain; what is not listed
is unknown or forbidden everywhere; a model asked for on the wrong protocol comes with the protocols
that do resolve, each once; and the listing is strictly sorted. -/
theorem listed_iff_callable {P : Packages} {config : GatewayConfig} {catalog : CatalogSnapshot}
    {upstream usageRecorder : Handle} {state : GatewayState}
    (hbuilt : GatewayState.fromParts P config catalog upstream usageRecorder = .ok state)
    (hdeployed : ∀ name entry, state.models.lookup name = some entry → entry.enabled →
      entry.deployments ≠ []) (identity : KeyIdentity) (name : String) :
    ((∃ entry, (name, entry) ∈ state.listableModels identity) ↔
        ∃ protocol chain, state.resolve protocol name identity = .chain chain) ∧
      ((¬ ∃ entry, (name, entry) ∈ state.listableModels identity) →
        ∀ protocol, state.resolve protocol name identity = .unknownModel ∨
          state.resolve protocol name identity = .forbidden) ∧
      (∀ protocol available,
        state.resolve protocol name identity = .wrongProtocol available →
          available.Nodup ∧ ∀ q, q ∈ available ↔
            ∃ chain, state.resolve q name identity = .chain chain) ∧
      (state.listableModels identity).Pairwise (·.1 < ·.1) := by
  simp only [GatewayState.mem_listableModels]
  refine ⟨⟨?_, ?_⟩, GatewayState.resolve_unlisted, ?_,
    GatewayState.listableModels_sorted identity⟩
  · rintro ⟨entry, hentry, henabled, hmay⟩
    obtain ⟨deployment, hd⟩ := List.exists_mem_of_ne_nil _ (hdeployed name entry hentry henabled)
    obtain ⟨provider, hprovider⟩ := fromParts_provider hbuilt hentry hd
    -- the endpoint of the first provider's protocol
    have hmatch : (⟨provider, deployment.upstreamModel⟩ : ResolvedDeployment) ∈
        state.matching provider.protocol entry.deployments :=
      GatewayState.mem_matching.2 ⟨deployment, hd, hprovider, rfl, rfl⟩
    exact ⟨provider.protocol, _, GatewayState.resolve_chain.2
      ⟨entry, hentry, henabled, hmay, rfl, List.ne_nil_of_mem hmatch⟩⟩
  · rintro ⟨protocol, chain, h⟩
    obtain ⟨entry, hentry, henabled, hmay, -⟩ := GatewayState.resolve_chain.1 h
    exact ⟨entry, hentry, henabled, hmay⟩
  · intro protocol available h
    obtain ⟨entry, hentry, henabled, hmay, hnone, rfl⟩ := GatewayState.resolve_wrongProtocol h
    obtain ⟨hnd, hmem⟩ := state.filterDeployments_snd protocol entry.deployments
    refine ⟨hnd, fun q => ?_⟩
    rw [hmem]
    constructor
    · rintro ⟨-, hne⟩
      exact ⟨_, GatewayState.resolve_chain.2 ⟨entry, hentry, henabled, hmay, rfl, hne⟩⟩
    · rintro ⟨chain, hchain⟩
      obtain ⟨entry', hentry', -, -, rfl, hne⟩ := GatewayState.resolve_chain.1 hchain
      obtain rfl : entry = entry' := Option.some.inj (hentry.symm.trans hentry')
      exact ⟨fun hq => hne (hq ▸ hnone), hne⟩

/-- An enabled model on one provider, and a disabled one without deployments. -/
def smallCatalog : CatalogSnapshot where
  providers := [{ id := "p", protocol := .openAi, baseUrl := "https://p", apiKey := "k" }]
  models := [⟨"n", false, 0, []⟩, ⟨"m", true, 0, [⟨"p", "u"⟩]⟩]

def smallPackages : Packages :=
  { (default : Packages) with uriFromStr := fun text => some ⟨text, some "https", some "p"⟩ }

/-- The enabled model is listed, so some endpoint resolves it. -/
theorem listed_iff_callable_sample :
    ∃ state, GatewayState.fromParts smallPackages {} smallCatalog 0 0 = .ok state ∧
      ∃ protocol chain, state.resolve protocol "m" ⟨1, 2, none, none⟩ = .chain chain := by
  obtain ⟨state, hbuilt, hentry⟩ : ∃ state,
      GatewayState.fromParts smallPackages {} smallCatalog 0 0 = .ok state ∧
        state.models.lookup "m" = some ⟨true, 0, [⟨"p", "u"⟩]⟩ := ⟨_, rfl, rfl⟩
  refine ⟨state, hbuilt, (listed_iff_callable hbuilt ?_ ⟨1, 2, none, none⟩ "m").1.1
    ⟨_, GatewayState.mem_listableModels.2 ⟨hentry, rfl, rfl⟩⟩⟩
  intro name entry hentry henabled
  obtain ⟨model, hmodel, -, rfl, -⟩ := fromParts_model hbuilt hentry
  rcases List.mem_cons.1 hmodel with rfl | hmodel
  · cases henabled
  · obtain rfl := List.mem_singleton.1 hmodel
    simp [ModelConfig.entry]

end LiteAgentify
