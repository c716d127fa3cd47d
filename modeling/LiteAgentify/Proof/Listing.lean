import LiteAgentify.Proof.Catalog
import LiteAgentify.Proof.Snapshot
import LiteAgentify.Lib.Run

/-!
# The listing gate

`CatalogDb.Listed`: every enabled model has a non-empty deployment chain on existing providers and
every deployment of it is priced. Whether a deployment is priced depends on the `(provider, model)`
pairs of the stored rules only (`uncovered_eq_nil`), and a pricing gate that passes decides it for
the pairs its store call leaves (`simulated_pairs`). Every handler keeps the invariant
(`Effect.listed`); the route migration establishes it (`migrateRoutesOnce_listed`).
-/

set_option autoImplicit false

namespace LiteAgentify

/-! ## Coverage -/

/-- The key of a pricing rule. -/
def PricingConfig.pair (entry : PricingConfig) : String × String := (entry.provider, entry.model)

/-- One of the keys that a lookup of the deployment tries is a pair. -/
def DeploymentConfig.Covered (pairs : List (String × String)) (deployment : DeploymentConfig) :
    Prop :=
  ∃ key ∈ pricingKeys deployment.providerId deployment.upstreamModel, key ∈ pairs

theorem DeploymentConfig.Covered.mono {pairs pairs' : List (String × String)}
    {deployment : DeploymentConfig} (h : deployment.Covered pairs) (hsub : pairs ⊆ pairs') :
    deployment.Covered pairs' := by
  obtain ⟨key, hkey, hmem⟩ := h
  exact ⟨key, hkey, hsub hmem⟩

theorem pricingRuleFor_isSome {rules : List PricingConfig} {deployment : DeploymentConfig} :
    (pricingRuleFor rules deployment.providerId deployment.upstreamModel).isSome ↔
      deployment.Covered (rules.map PricingConfig.pair) := by
  simp only [pricingRuleFor_keys, DeploymentConfig.Covered, List.findSome?_isSome_iff, List.mem_map,
    List.find?_isSome, decide_eq_true_eq]
  refine exists_congr fun key => and_congr_right fun _ => ?_
  simp only [PricingConfig.pair, Prod.ext_iff]

/-- A model is covered when each of its deployments is. -/
theorem uncovered_eq_nil {model : ModelConfig} {rules : List PricingConfig} :
    uncoveredDeployments model rules = [] ↔
      ∀ deployment ∈ model.deployments, deployment.Covered (rules.map PricingConfig.pair) := by
  unfold uncoveredDeployments
  rw [List.filter_eq_nil_iff]
  refine forall₂_congr fun deployment _ => ?_
  rw [← pricingRuleFor_isSome]
  cases pricingRuleFor rules deployment.providerId deployment.upstreamModel <;> simp

/-- A chain that may be enabled. -/
structure ListableChain (pairs : List (String × String)) (chain : List DeploymentConfig) :
    Prop where
  nonempty : chain ≠ []
  covered : ∀ deployment ∈ chain, deployment.Covered pairs

theorem ListableChain.mono {pairs pairs' : List (String × String)} {chain : List DeploymentConfig}
    (h : ListableChain pairs chain) (hsub : pairs ⊆ pairs') : ListableChain pairs' chain :=
  ⟨h.nonempty, fun deployment hd => (h.covered deployment hd).mono hsub⟩

namespace CatalogDb

/-- The keys of the stored rules. -/
def pairs (db : CatalogDb) : List (String × String) := db.pricing.map fun row => row.config.pair

theorem pairs_congr {db db' : CatalogDb} (h : db'.pricing = db.pricing) : db'.pairs = db.pairs := by
  rw [pairs, pairs, h]

theorem mem_listPricing_pair {db : CatalogDb} {pair : String × String} :
    pair ∈ (db.listPricing.map PricingRecord.config).map PricingConfig.pair ↔ pair ∈ db.pairs := by
  rw [List.map_map, pairs, List.mem_map, List.mem_map]
  exact exists_congr fun row => and_congr_left fun _ => mem_listPricing

/-- Every enabled model has a non-empty chain on existing providers that is priced in full. -/
def Listed (db : CatalogDb) : Prop :=
  ∀ model ∈ db.listModels, model.enabled = true →
    model.deployments ≠ [] ∧
    (∀ deployment ∈ model.deployments,
      deployment.providerId ∈ db.listProviders.map ProviderConfig.id) ∧
    uncoveredDeployments model (db.listPricing.map PricingRecord.config) = []

variable {db db' : CatalogDb}

/-- The schema keeps the providers of a chain in the database. -/
theorem chain_provider {name : String} {deployment : DeploymentConfig}
    (h : deployment ∈ db.chain name) :
    deployment.providerId ∈ db.listProviders.map ProviderConfig.id := by
  obtain ⟨row, hrow, -, rfl⟩ := mem_chain.1 h
  obtain ⟨provider, hp, hid⟩ := List.mem_map.1 (db.constraints.deploymentProviders row hrow)
  exact List.mem_map.2 ⟨provider, mem_listProviders.2 hp, hid⟩

/-- The invariant on the rows. -/
theorem listed_iff :
    db.Listed ↔
      ∀ row ∈ db.models, row.enabled = true → ListableChain db.pairs (db.chain row.name) := by
  have hcovered : ∀ deployment : DeploymentConfig,
      deployment.Covered ((db.listPricing.map PricingRecord.config).map PricingConfig.pair) ↔
        deployment.Covered db.pairs := fun deployment =>
    exists_congr fun key => and_congr_right fun _ => mem_listPricing_pair
  constructor
  · intro h row hrow he
    obtain ⟨hne, -, hu⟩ := h _ (mem_listModels.2 ⟨row, hrow, rfl⟩) he
    exact ⟨hne, fun deployment hd => (hcovered _).1 (uncovered_eq_nil.1 hu deployment hd)⟩
  · rintro h model hmodel he
    obtain ⟨row, hrow, rfl⟩ := mem_listModels.1 hmodel
    obtain ⟨hne, hc⟩ := h row hrow he
    exact ⟨hne, fun deployment hd => chain_provider hd,
      uncovered_eq_nil.2 fun deployment hd => (hcovered _).2 (hc deployment hd)⟩

/-- A write that leaves models and deployments alone and keeps the pairs. -/
theorem Listed.frame (h : db.Listed) (hm : db'.models = db.models)
    (hd : db'.deployments = db.deployments) (hp : db.pairs ⊆ db'.pairs) : db'.Listed := by
  rw [listed_iff] at h ⊢
  intro row hrow he
  rw [hm] at hrow
  rw [chain_congr hd]
  exact (h row hrow he).mono hp

/-- A write of providers. -/
theorem Listed.congr (h : db.Listed) (hm : db'.models = db.models)
    (hd : db'.deployments = db.deployments) (hp : db'.pricing = db.pricing) : db'.Listed :=
  h.frame hm hd fun _ hpair => (pairs_congr hp).symm ▸ hpair

end CatalogDb

/-! ## Gates -/

section
variable {db db' : CatalogDb}

/-- A pricing gate that passes has found every enabled model covered by the simulated rules. -/
theorem ensurePricingGate_ok {mutate : List PricingRecord → List PricingRecord}
    (h : Admin.ensurePricingGate db mutate = .ok ()) {row : ModelRow} (hrow : row ∈ db.models)
    (he : row.enabled = true) : ∀ deployment ∈ db.chain row.name,
      deployment.Covered (((mutate db.listPricing).map PricingRecord.config).map
        PricingConfig.pair) := by
  simp only [Admin.ensurePricingGate] at h
  split at h
  · cases h
  · rename_i hnone
    have hmodel : db.modelConfig row ∈ db.listModels.filter (·.enabled) :=
      List.mem_filter.2 ⟨CatalogDb.mem_listModels.2 ⟨row, hrow, rfl⟩, he⟩
    have hhead := List.findSome?_eq_none_iff.1 hnone _ hmodel
    rw [Option.map_eq_none_iff, List.head?_eq_none_iff] at hhead
    exact uncovered_eq_nil.1 hhead

/-- A listing gate that passes has found the chain listable. -/
theorem ensureListable_ok {name : String} {deployments : List (String × String)} {now : DateTime}
    (h : Admin.ensureListable db name deployments now = .ok ()) :
    ListableChain db.pairs (deploymentsOf deployments) := by
  simp only [Admin.ensureListable] at h
  split at h
  · cases h
  · rename_i hne
    split at h
    · cases h
    · rename_i hu
      refine ⟨fun hnil => hne ?_, fun deployment hd => ?_⟩
      · rw [deploymentsOf, List.map_eq_nil_iff] at hnil
        rw [hnil, List.isEmpty_nil]
      · obtain ⟨key, hkey, hmem⟩ := uncovered_eq_nil.1 hu deployment hd
        exact ⟨key, hkey, CatalogDb.mem_listPricing_pair.1 hmem⟩

theorem stored_pair {config stored : PricingConfig} (h : config.stored = some stored) :
    stored.pair = config.pair := by
  simp only [PricingConfig.stored, Option.bind_eq_bind, Option.bind_eq_some_iff, Option.pure_def,
    Option.some.injEq] at h
  obtain ⟨_, -, _, -, _, -, _, -, _, -, rfl⟩ := h
  rfl

/-- The rules that `update_pricing` simulates have the pairs that its store call leaves. -/
theorem updated_pairs {id : Uuid} {config : PricingConfig}
    (h : db.updatePricing id config = .ok (db', true)) (pair : String × String) :
    pair ∈ ((db.listPricing.filter (·.id ≠ id) ++ [{ id := id, config := config }] :
        List PricingRecord).map PricingRecord.config).map PricingConfig.pair ↔
      pair ∈ db'.pairs := by
  rcases CatalogDb.updatePricing_ok h with ⟨hf, -⟩ | ⟨-, ⟨old, hold, hid⟩, stored, hs, ht⟩
  · cases hf
  · simp only [CatalogDb.pairs, ht, List.map_append, List.map_map, List.mem_append, List.mem_map,
      List.mem_filter, CatalogDb.mem_listPricing, decide_eq_true_eq, List.map_cons, List.map_nil,
      List.mem_singleton, Function.comp_apply]
    constructor
    · rintro (⟨row, ⟨hrow, hne⟩, rfl⟩ | rfl)
      · exact ⟨row, hrow, by rw [if_neg hne]⟩
      · exact ⟨old, hold, by rw [if_pos hid]; exact stored_pair hs⟩
    · rintro ⟨row, hrow, rfl⟩
      by_cases hr : row.id = id
      · exact .inr (by rw [if_pos hr]; exact stored_pair hs)
      · exact .inl ⟨row, ⟨hrow, hr⟩, by rw [if_neg hr]⟩

/-- The rules that `delete_pricing` simulates have the pairs that its store call leaves. -/
theorem deleted_pairs {id : Uuid} {found : Bool} (h : db.deletePricing id = .ok (db', found))
    (pair : String × String) :
    pair ∈ ((db.listPricing.filter (·.id ≠ id)).map PricingRecord.config).map PricingConfig.pair ↔
      pair ∈ db'.pairs := by
  simp only [CatalogDb.pairs, (CatalogDb.deletePricing_ok h).1, List.map_map, List.mem_map,
    List.mem_filter, CatalogDb.mem_listPricing, Function.comp_apply]

/-- What a gate has checked holds once the simulated pairs are the stored ones. -/
theorem listed_of_gate {mutate : List PricingRecord → List PricingRecord}
    (hg : Admin.ensurePricingGate db mutate = .ok ()) (hl : db.Listed)
    (hm : db'.models = db.models) (hd : db'.deployments = db.deployments)
    (hpairs : ∀ pair, pair ∈ ((mutate db.listPricing).map PricingRecord.config).map
      PricingConfig.pair ↔ pair ∈ db'.pairs) : db'.Listed := by
  rw [CatalogDb.listed_iff] at hl ⊢
  intro row hrow he
  rw [hm] at hrow
  rw [CatalogDb.chain_congr hd]
  exact ⟨(hl row hrow he).nonempty, fun deployment hdep =>
    (ensurePricingGate_ok hg hrow he deployment hdep).mono fun pair hp => (hpairs pair).1 hp⟩

/-! ## Chains and statuses -/

/-- A replaced chain of a disabled model. -/
theorem listed_setDeployments {name : String} {deployments : List (String × String)} {found : Bool}
    (h : db.setDeployments name deployments = .ok (db', found)) (hl : db.Listed)
    (hoff : ∀ row ∈ db.models, row.name = name → row.enabled = false) : db'.Listed := by
  rcases CatalogDb.setDeployments_ok h with ⟨rfl, -⟩ | ht
  · exact hl
  · rw [CatalogDb.listed_iff] at hl ⊢
    intro row hrow he
    rw [ht] at hrow
    have hne : row.name ≠ name := by
      intro hn
      rw [hoff row hrow hn] at he
      cases he
    rw [CatalogDb.chain_setDeployments_of_ne ht hne]
    rw [CatalogDb.pairs_congr (show db'.pricing = db.pricing by rw [ht])]
    exact hl row hrow he

/-- A replaced chain whose model then gets a status: what is left enabled is listable. -/
theorem listed_setModelStatus {name : String} {deployments : List (String × String)}
    {saved : CatalogDb} {enabled found found' : Bool}
    (hs : db.setDeployments name deployments = .ok (saved, found))
    (hu : saved.setModelStatus name enabled = .ok (db', found')) (hl : db.Listed)
    (hgate : enabled = true → ListableChain db.pairs (deploymentsOf deployments)) :
    db'.Listed := by
  have ht' := CatalogDb.setModelStatus_tables hu
  rw [CatalogDb.listed_iff] at hl ⊢
  intro row hrow he
  rw [ht'] at hrow
  obtain ⟨old, hold, rfl⟩ := List.mem_map.1 hrow
  have hchain : ∀ other, db'.chain other = saved.chain other :=
    fun other => CatalogDb.chain_congr (by rw [ht']; rfl) other
  have hpairs : db'.pairs = saved.pairs := CatalogDb.pairs_congr (by rw [ht']; rfl)
  rw [hchain, hpairs]
  rcases CatalogDb.setDeployments_ok hs with ⟨rfl, hnone⟩ | ht
  · rw [if_neg (hnone old hold)] at he ⊢
    exact hl old hold he
  · have hp : saved.pairs = db.pairs := CatalogDb.pairs_congr (by rw [ht])
    rw [hp]
    rw [ht] at hold
    -- `name` has the chain that the gate checked, the others keep theirs
    by_cases hn : old.name = name
    · rw [if_pos hn] at he ⊢
      subst hn
      rw [CatalogDb.chain_setDeployments ht]
      exact hgate he
    · rw [if_neg hn] at he ⊢
      rw [CatalogDb.chain_setDeployments_of_ne ht hn]
      exact hl old hold he

/-- A new model is a draft. -/
theorem listed_createModel {name : String} {now : DateTime}
    (h : db.createModel name now = .ok db') (hl : db.Listed) :
    db'.Listed ∧ db'.pairs = db.pairs ∧
      ∀ row ∈ db'.models, row.name = name → row.enabled = false := by
  obtain ⟨hnew, ht⟩ := CatalogDb.createModel_ok h
  have hp : db'.pairs = db.pairs := CatalogDb.pairs_congr (by rw [ht])
  refine ⟨?_, hp, ?_⟩
  · rw [CatalogDb.listed_iff] at hl ⊢
    intro row hrow he
    have hd : db'.deployments = db.deployments := by rw [ht]
    rw [hp, CatalogDb.chain_congr hd]
    rw [ht] at hrow
    rcases List.mem_append.1 hrow with hrow | hrow
    · exact hl row hrow he
    · rw [List.mem_singleton] at hrow
      subst hrow
      cases he
  · intro row hrow hn
    rw [ht] at hrow
    rcases List.mem_append.1 hrow with hrow | hrow
    · exact absurd hn (hnew row hrow)
    · rw [List.mem_singleton] at hrow
      rw [hrow]

theorem listed_deleteModel {name : String} {found : Bool}
    (h : db.deleteModel name = .ok (db', found)) (hl : db.Listed) : db'.Listed := by
  have ht := (CatalogDb.deleteModel_ok h).1
  have hp : db'.pairs = db.pairs := CatalogDb.pairs_congr (by rw [ht])
  rw [CatalogDb.listed_iff] at hl ⊢
  intro row hrow he
  rw [ht] at hrow
  obtain ⟨hrow, hne⟩ := List.mem_filter.1 hrow
  rw [hp, CatalogDb.chain_deleteModel (of_decide_eq_true hne) h]
  exact hl row hrow he

end

/-! ## Handlers -/

/-- **One handler keeps the invariant**, whatever it answers. -/
theorem effect_listed {P : Packages} {db : CatalogDb} {request : CatalogRequest}
    {out : Admin.Outcome} (h : request.Effect P db out) (hl : db.Listed) : out.1.Listed := by
  cases h with
  | rejected => exact hl
  | createProvider _ _ hw | updateProvider _ _ hw =>
    obtain ⟨rows, ht, -, -⟩ := CatalogDb.upsertProvider_ok hw
    exact hl.congr (by rw [ht]) (by rw [ht]) (by rw [ht])
  | deleteProvider _ hw =>
    have ht := (CatalogDb.deleteProvider_ok hw).1
    exact hl.congr (by rw [ht]) (by rw [ht]) (by rw [ht])
  | createPricing _ hw =>
    obtain ⟨stored, -, ht⟩ := CatalogDb.createPricing_ok hw
    refine hl.frame (by rw [ht]) (by rw [ht]) ?_
    rw [CatalogDb.pairs, CatalogDb.pairs, ht, List.map_append]
    exact List.subset_append_left _ _
  | updatePricing _ hg hw =>
    refine listed_of_gate hg hl ?_ ?_ (updated_pairs hw)
    all_goals
      rcases CatalogDb.updatePricing_ok hw with ⟨hf, -⟩ | ⟨-, -, stored, -, ht⟩
      · cases hf
      · rw [ht]
  | deletePricing hg hw =>
    have ht := (CatalogDb.deletePricing_ok hw).1
    exact listed_of_gate hg hl (by rw [ht]) (by rw [ht]) (deleted_pairs hw)
  | unsavedModel hc => exact (listed_createModel hc hl).1
  | createDraft _ _ _ hc hs =>
    obtain ⟨hcreated, -, hoff⟩ := listed_createModel hc hl
    exact listed_setDeployments hs hcreated hoff
  | createListed _ _ hg hc hs hu =>
    -- the gate ran before the draft was created, on the same rules
    obtain ⟨hcreated, hp, -⟩ := listed_createModel hc hl
    exact listed_setModelStatus hs hu hcreated fun _ => hp ▸ ensureListable_ok hg
  | updateModel _ hg hs hu =>
    exact listed_setModelStatus hs hu hl fun he => ensureListable_ok (hg he)
  | deleteModel hw => exact listed_deleteModel hw hl

theorem AdminState.refreshAndRespond_db (P : Packages) (file : Except String GatewayConfig)
    (s : AdminState) (status : Nat) : (s.refreshAndRespond P file status).1.db = s.db := by
  unfold refreshAndRespond
  split <;> rfl

/-- Only the database changes in a call before its refresh, and the refresh leaves it alone. -/
theorem handle_db (P : Packages) (file : Except String GatewayConfig) (s : AdminState)
    (call : CatalogCall) :
    (s.handle P file call).1.db = s.db ∨
      (s.handle P file call).1.db = (call.request.run P s.db).1 := by
  unfold AdminState.handle
  split
  · exact .inl rfl
  · split
    · rename_i db rejection hrun
      exact .inr (by rw [hrun])
    · rename_i db status hrun
      exact .inr (by rw [AdminState.refreshAndRespond_db, hrun])

/-! ## The route migration -/

/-- A migrated chain has a deployment. -/
theorem deriveChains_nonempty (db : CatalogDb) (routes : List RouteConfig) :
    ∀ entry ∈ deriveChains db routes, entry.2 ≠ [] := by
  have halias : ∀ (providerId : String) (chains : List NamedChain) (a : String × String),
      (∀ entry ∈ chains, entry.2 ≠ []) → ∀ entry ∈ addAlias providerId chains a, entry.2 ≠ [] := by
    intro providerId chains a hc entry hentry
    unfold addAlias at hentry
    split at hentry
    · obtain ⟨⟨name, chain⟩, hold, rfl⟩ := List.mem_map.1 hentry
      dsimp only
      split
      · simp
      · exact hc _ hold
    · rcases List.mem_append.1 hentry with hold | hnew
      · exact hc _ hold
      · rw [List.mem_singleton] at hnew
        simp [hnew]
  have hprovider : ∀ (chains : List NamedChain) (providerId : String),
      (∀ entry ∈ chains, entry.2 ≠ []) →
        ∀ entry ∈ addProvider db chains providerId, entry.2 ≠ [] := by
    intro chains providerId hc
    unfold addProvider
    split
    · exact hc
    · exact List.foldlRecOn _ _ hc fun chains hc a _ => halias providerId chains a hc
  exact List.foldlRecOn _ _ (by simp) fun chains hc route _ =>
    List.foldlRecOn _ _ hc fun chains hc providerId _ => hprovider chains providerId hc

theorem migrateModel_listed {pricing : List PricingConfig} {now : DateTime} {db db' : CatalogDb}
    {entry : NamedChain} (hne : entry.2 ≠ [])
    (hp : ∀ pair, pair ∈ pricing.map PricingConfig.pair ↔ pair ∈ db.pairs) (hl : db.Listed)
    (h : db.migrateModel pricing now entry = .ok db') : db'.Listed ∧ db'.pairs = db.pairs := by
  obtain ⟨name, chain⟩ := entry
  simp only [CatalogDb.migrateModel, Keyed.bind_ok] at h
  obtain ⟨created, hc, ⟨saved, found⟩, hs, h⟩ := h
  obtain ⟨hcreated, hpc, hoff⟩ := listed_createModel hc hl
  have hps : saved.pairs = created.pairs := by
    rcases CatalogDb.setDeployments_ok hs with ⟨rfl, -⟩ | ht
    · rfl
    · exact CatalogDb.pairs_congr (by rw [ht])
  split at h
  · rename_i hcov
    obtain ⟨⟨listed, found'⟩, hu, h⟩ := Keyed.bind_ok.1 h
    cases h
    refine ⟨listed_setModelStatus hs hu hcreated fun _ => ⟨?_, fun deployment hd => ?_⟩, ?_⟩
    · simpa [deploymentsOf] using hne
    · obtain ⟨key, hkey, hmem⟩ := uncovered_eq_nil.1 (List.isEmpty_iff.1 hcov) deployment hd
      exact ⟨key, hkey, hpc ▸ (hp key).1 hmem⟩
    · rw [← hpc, ← hps]
      exact CatalogDb.pairs_congr (by rw [CatalogDb.setModelStatus_tables hu]; rfl)
  · cases h
    exact ⟨listed_setDeployments hs hcreated hoff, hps.trans hpc⟩

/-- The migration enables only models that are priced in full. -/
theorem migrateRoutesOnce_listed {db db' : CatalogDb} {config : GatewayConfig} {now : DateTime}
    (hl : db.Listed) (h : db.migrateRoutesOnce config now = .ok db') : db'.Listed := by
  unfold CatalogDb.migrateRoutesOnce at h
  split at h
  · cases h
    exact hl
  · have hinv := Keyed.foldlM_inv (I := fun u : CatalogDb => u.Listed ∧ u.pairs = db.pairs) ?_
      ⟨hl, rfl⟩ h
    · exact hinv.1
    · rintro u entry u' hentry ⟨hu, hp⟩ hstep
      obtain ⟨hl', hp'⟩ := migrateModel_listed (deriveChains_nonempty db config.routes entry hentry)
        (fun pair => by rw [hp]; exact CatalogDb.mem_listPricing_pair) hu hstep
      exact ⟨hl', hp'.trans hp⟩

/-- The import writes providers and pricing. -/
theorem importConfigOnce_models {db db' : CatalogDb} {config : GatewayConfig} {newId : Nat → Uuid}
    (h : db.importConfigOnce config newId = .ok db') : db'.models = db.models := by
  obtain ⟨imported, hi, h⟩ := Keyed.bind_ok.1 h
  have hproviders : imported.models = db.models := by
    unfold CatalogDb.importProviders at hi
    split at hi
    · refine Keyed.foldlM_inv (I := fun u : CatalogDb => u.models = db.models) ?_ rfl hi
      intro u provider u' _ hu hstep
      obtain ⟨rows, ht, -, -⟩ := CatalogDb.upsertProvider_ok hstep
      rw [ht]
      exact hu
    · cases hi
      rfl
  unfold CatalogDb.importPricing at h
  split at h
  · refine Keyed.foldlM_inv (I := fun u : CatalogDb => u.models = db.models) ?_ hproviders h
    rintro u ⟨entry, n⟩ u' _ hu hstep
    obtain ⟨stored, -, ht⟩ := CatalogDb.createPricing_ok hstep
    rw [ht]
    exact hu
  · cases h
    exact hproviders

/-! ## Runs -/

/-- The databases that the management API starts from: the empty one, and what the startup imports
make of one without models. -/
inductive CatalogDb.Initial : CatalogDb → Prop
  | empty (collation : String → String → Bool) : Initial (.empty collation)
  | imported {db imported : CatalogDb} {config : GatewayConfig} {newId : Nat → Uuid}
      {now : DateTime} :
      db.models = [] → db.importOnce config newId now = .ok imported → Initial imported

theorem initial_listed {db : CatalogDb} (h : db.Initial) : db.Listed := by
  have hempty : ∀ u : CatalogDb, u.models = [] → u.Listed := by
    intro u hu
    rw [CatalogDb.listed_iff, hu]
    intro row hrow
    cases hrow
  cases h with
  | empty collation => exact hempty _ rfl
  | imported hm hi =>
    obtain ⟨filled, hf, hr⟩ := Keyed.bind_ok.1 hi
    exact migrateRoutesOnce_listed (hempty _ ((importConfigOnce_models hf).trans hm)) hr

/-- **The listing gate.** After any calls, one after another, with any bodies and by anyone, every
enabled model has a non-empty chain on existing providers that the stored rules price in full. -/
theorem listing_gate {P : Packages} {s v : AdminState}
    {tr : List (CatalogCall × Except String GatewayConfig)} (h0 : s.db.Initial)
    (h : Lts.Steps (AdminState.step P) s tr v) : v.db.Listed := by
  refine h.inv (I := fun u => u.db.Listed) (initial_listed h0) ?_
  rintro u ⟨call, file⟩ w hu - hstep
  cases hstep
  rcases handle_db P file u call with hdb | hdb
  · rw [hdb]
    exact hu
  · rw [hdb]
    exact effect_listed (run_effect call.request) hu

/-! ## A run -/

/-- `https://a` is a URI with scheme and host, `a` one without a scheme; `1` is a decimal. -/
def catalogPackages : Packages :=
  { (default : Packages) with
    uriFromStr := fun text =>
      if text = "https://a" then some ⟨text, some "https", some "a"⟩
      else if text = "a" then some ⟨text, none, some "a"⟩ else none
    decimalFromStr := fun text => if text = "1" then some (.ofNat 1 0) else none }

/-- A file whose provider `p` serves the model `m`, priced by a wildcard rule. -/
def catalogConfig : GatewayConfig where
  providers := [
    { id := "p", protocol := .openAi, baseUrl := "https://a", apiKey := "k",
      modelAliases := [("m", "x")] }]
  pricing := [
    { provider := "p", model := "*", inputPer1m := .ofNat 1 0, outputPer1m := .ofNat 1 0,
      currency := "USD" }]
  routes := [{ pathPrefix := "/v1", providers := ["p"] }]

def importedDb : CatalogDb :=
  match (CatalogDb.empty fun a b => a ≤ b).importOnce catalogConfig (fun n => n) 0 with
  | .ok db => db
  | .error _ => .empty fun a b => a ≤ b

/-- The gateway has started on it. -/
def importedState : AdminState where
  db := importedDb
  shared := ⟨.ofRouting (routingOf importedDb.snapshot {}) 0 0, importedDb.snapshot⟩

def catalogAdmin : SessionIdentity := ⟨1, "admin", .admin⟩

/-- A second model is listed on the wildcard rule, and then the rule cannot be deleted. -/
def catalogCalls : List (CatalogCall × Except String GatewayConfig) :=
  [(⟨catalogAdmin, .createModel
      { name := "n", deployments := [⟨"p", "y"⟩], enabled := true } 0⟩, .ok catalogConfig),
    (⟨catalogAdmin, .deletePricing 0⟩, .ok catalogConfig)]

theorem importedDb_initial : importedDb.Initial := by
  unfold importedDb
  split
  · rename_i db h
    exact .imported rfl h
  · exact .empty _

/-- Both models are enabled after the calls. -/
theorem listing_gate_sample : ∃ v,
    Lts.exec (AdminState.step catalogPackages) importedState catalogCalls = some v ∧
      (v.db.listModels.filter (·.enabled)).map (·.name) = ["m", "n"] ∧ v.db.Listed :=
  ⟨_, rfl, by decide +kernel,
    @listing_gate catalogPackages importedState _ catalogCalls importedDb_initial
      (Lts.steps_of_exec rfl)⟩

end LiteAgentify
