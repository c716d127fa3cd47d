import LiteAgentify.Admin.ModelsApi
import LiteAgentify.Lib.Keyed

/-!
# What a catalog write does

One lemma for each store call that returns, `chain_setDeployments` for the deployments a model then
has, and `Effect`: everything a handler can do to the database (`run_effect`). The invariants of the
catalog are derived from these, no handler is unfolded again.
-/

set_option autoImplicit false

namespace LiteAgentify

theorem CatalogTables.texts_iff {t : CatalogTables} :
    (∀ text ∈ t.texts, isText text) ↔
      (∀ provider ∈ t.providers, ∀ text ∈ provider.texts, isText text) ∧
        (∀ row ∈ t.pricing, ∀ text ∈ row.config.texts, isText text) ∧
        (∀ row ∈ t.models, isText row.name) ∧
        ∀ row ∈ t.deployments, ∀ text ∈ row.texts, isText text := by
  simp only [texts, List.mem_append, List.mem_flatMap, List.mem_map]
  constructor
  · intro h
    exact ⟨fun provider hp text ht => h text (.inl (.inl (.inl ⟨provider, hp, ht⟩))),
      fun row hr text ht => h text (.inl (.inl (.inr ⟨row, hr, ht⟩))),
      fun row hr => h row.name (.inl (.inr ⟨row, hr, rfl⟩)),
      fun row hr text ht => h text (.inr ⟨row, hr, ht⟩)⟩
  · rintro ⟨hp, hpr, hm, hd⟩ text
      (((⟨provider, h, ht⟩ | ⟨row, h, ht⟩) | ⟨row, h, rfl⟩) | ⟨row, h, ht⟩)
    · exact hp provider h text ht
    · exact hpr row h text ht
    · exact hm row h
    · exact hd row h text ht

namespace CatalogDb

variable {db db' : CatalogDb}

/-- A database is its rows and its collation. -/
theorem ext_tables (ht : db'.toCatalogTables = db.toCatalogTables)
    (hc : db'.collation = db.collation) : db' = db := by
  cases db
  cases db'
  cases ht
  cases hc
  rfl

theorem commit_ok {write : CatalogTables → CatalogTables} (h : db.commit write = .ok db') :
    db'.toCatalogTables = write db.toCatalogTables ∧ db'.collation = db.collation := by
  unfold commit at h
  split at h
  · cases h
    exact ⟨rfl, rfl⟩
  · cases h

/-- Rows that meet the constraints are committed. -/
theorem commit_of {write : CatalogTables → CatalogTables} {t : CatalogTables} (h : t.Constraints)
    (ht : write db.toCatalogTables = t) : db.commit write = .ok ⟨t, db.collation, h⟩ := by
  subst ht
  exact dif_pos h

/-- A call that returns whether it found a row commits its rows. -/
theorem commit_found {write : CatalogTables → CatalogTables} {found found' : Bool}
    (h : (do let db' ← db.commit write; return (db', found) :
      Except StoreError (CatalogDb × Bool)) = .ok (db', found')) :
    db'.toCatalogTables = write db.toCatalogTables ∧ db'.collation = db.collation ∧
      found' = found := by
  obtain ⟨u, hu, h⟩ := Keyed.bind_ok.1 h
  cases h
  obtain ⟨ht, hc⟩ := commit_ok hu
  exact ⟨ht, hc, rfl⟩

/-! ## Providers -/

theorem mem_listProviders {provider : ProviderConfig} :
    provider ∈ db.listProviders ↔ provider ∈ db.providers := by
  simp [listProviders, orderBy]

theorem getProvider_some {id : String} {provider : ProviderConfig}
    (h : db.getProvider id = some provider) : provider ∈ db.providers ∧ provider.id = id :=
  ⟨List.mem_of_find?_eq_some h, by simpa using List.find?_some h⟩

/-- Ids are unique. -/
theorem getProvider_of_mem {provider : ProviderConfig} (h : provider ∈ db.providers) :
    db.getProvider provider.id = some provider := by
  cases hget : db.getProvider provider.id with
  | none =>
    rw [getProvider, List.find?_eq_none] at hget
    exact absurd (decide_eq_true rfl) (hget provider h)
  | some found =>
    obtain ⟨hmem, hid⟩ := getProvider_some hget
    rw [List.inj_on_of_nodup_map db.constraints.providerIds hmem h hid]

/-- The provider is stored, every other row is left alone. -/
theorem upsertProvider_ok {provider : ProviderConfig} {isNew : Bool}
    (h : db.upsertProvider provider isNew = .ok db') :
    ∃ rows, db'.toCatalogTables = ⟨rows, db.pricing, db.models, db.deployments⟩ ∧
      provider ∈ rows ∧ ∀ row ∈ rows, row = provider ∨ row ∈ db.providers := by
  simp only [upsertProvider] at h
  split at h
  · cases h
  · split at h
    · rename_i existing he
      obtain ⟨hmem, hid⟩ := getProvider_some he
      refine ⟨_, (commit_ok h).1, List.mem_map.2 ⟨existing, hmem, if_pos hid⟩, fun row hrow => ?_⟩
      obtain ⟨old, hold, rfl⟩ := List.mem_map.1 hrow
      split
      · exact .inl rfl
      · exact .inr hold
    · exact ⟨_, (commit_ok h).1, by simp, fun row hrow => by simpa [or_comm] using hrow⟩

theorem deleteProvider_ok {id : String} {found : Bool}
    (h : db.deleteProvider id = .ok (db', found)) :
    db'.toCatalogTables =
        ⟨db.providers.filter (·.id ≠ id), db.pricing, db.models, db.deployments⟩ ∧
      (found = false → db' = db) := by
  obtain ⟨ht, hc, rfl⟩ := commit_found h
  refine ⟨ht, fun hf => ext_tables ?_ hc⟩
  have : db.providers.filter (·.id ≠ id) = db.providers := by
    rw [List.filter_eq_self]
    simpa using hf
  rw [ht, this]

/-! ## Pricing -/

theorem mem_listPricing {row : PricingRecord} : row ∈ db.listPricing ↔ row ∈ db.pricing := by
  simp [listPricing]

theorem createPricing_ok {id : Uuid} {config : PricingConfig}
    (h : db.createPricing id config = .ok db') :
    ∃ stored, config.stored = some stored ∧ db'.toCatalogTables =
      ⟨db.providers, db.pricing ++ [{ id := id, config := stored }], db.models,
        db.deployments⟩ := by
  unfold createPricing at h
  split at h
  · cases h
  · split at h
    · cases h
    · rename_i stored hs
      exact ⟨stored, hs, (commit_ok h).1⟩

theorem updatePricing_ok {id : Uuid} {config : PricingConfig} {found : Bool}
    (h : db.updatePricing id config = .ok (db', found)) :
    (found = false ∧ db' = db) ∨
      (found = true ∧ (∃ row ∈ db.pricing, row.id = id) ∧ ∃ stored,
        config.stored = some stored ∧ db'.toCatalogTables =
          ⟨db.providers, db.pricing.map fun row =>
              if row.id = id then { row with config := stored } else row, db.models,
            db.deployments⟩) := by
  unfold updatePricing at h
  split at h
  · cases h
    exact .inl ⟨rfl, rfl⟩
  · rename_i row hrow
    split at h
    · cases h
    · split at h
      · cases h
      · rename_i stored hs
        obtain ⟨ht, -, rfl⟩ := commit_found h
        exact .inr ⟨rfl, ⟨row, List.mem_of_find?_eq_some hrow, by simpa using List.find?_some hrow⟩,
          stored, hs, ht⟩

theorem deletePricing_ok {id : Uuid} {found : Bool}
    (h : db.deletePricing id = .ok (db', found)) :
    db'.toCatalogTables =
        ⟨db.providers, db.pricing.filter (·.id ≠ id), db.models, db.deployments⟩ ∧
      (found = false → db' = db) := by
  obtain ⟨ht, hc, rfl⟩ := commit_found h
  refine ⟨ht, fun hf => ext_tables ?_ hc⟩
  have : db.pricing.filter (·.id ≠ id) = db.pricing := by
    rw [List.filter_eq_self]
    simpa using hf
  rw [ht, this]

/-! ## Models -/

theorem mem_listModels {model : ModelConfig} :
    model ∈ db.listModels ↔ ∃ row ∈ db.models, db.modelConfig row = model := by
  simp [listModels, orderBy]

theorem mem_chain {name : String} {deployment : DeploymentConfig} :
    deployment ∈ db.chain name ↔
      ∃ row ∈ db.deployments, row.modelName = name ∧ row.config = deployment := by
  simp [chain, and_assoc]

theorem chain_congr (h : db'.deployments = db.deployments) (name : String) :
    db'.chain name = db.chain name := by
  rw [chain, chain, h]

theorem createModel_ok {name : String} {now : DateTime} (h : db.createModel name now = .ok db') :
    (∀ row ∈ db.models, row.name ≠ name) ∧ db'.toCatalogTables =
      ⟨db.providers, db.pricing,
        db.models ++ [{ name := name, enabled := false, createdAt := now }],
        db.deployments⟩ := by
  unfold createModel at h
  split at h
  · cases h
  · rename_i hnew
    exact ⟨by simpa using hnew, (commit_ok h).1⟩

/-- The rows after a status update. -/
def withStatus (db : CatalogDb) (name : String) (enabled : Bool) : CatalogTables :=
  ⟨db.providers, db.pricing, db.models.map fun row =>
    if row.name = name then { row with enabled := enabled } else row, db.deployments⟩

theorem withStatus_names (name : String) (enabled : Bool) :
    (db.withStatus name enabled).models.map ModelRow.name = db.models.map ModelRow.name := by
  rw [withStatus, List.map_map]
  refine List.map_congr_left fun row _ => ?_
  rw [Function.comp_apply]
  split <;> rfl

/-- A status breaks no constraint. -/
theorem withStatus_constraints (name : String) (enabled : Bool) :
    (db.withStatus name enabled).Constraints := by
  have hnames := @withStatus_names db name enabled
  have hc := db.constraints
  refine ⟨hc.providerIds, hc.pricingIds, hc.pricingPairs, ?_, hc.deploymentPairs, ?_,
    hc.deploymentProviders, ?_⟩
  · rw [hnames]
    exact hc.modelNames
  · rw [hnames]
    exact hc.deploymentModels
  · unfold CatalogTables.texts
    rw [hnames]
    exact hc.texts

/-- A status update does not fail. -/
theorem setModelStatus_ok (name : String) (enabled : Bool) :
    ∃ db' found, db.setModelStatus name enabled = .ok (db', found) ∧
      db'.toCatalogTables = db.withStatus name enabled := by
  unfold setModelStatus
  split
  · refine ⟨⟨db.withStatus name enabled, db.collation, withStatus_constraints name enabled⟩, true,
      ?_, rfl⟩
    have hw : db.commit (fun t => { t with
        models := t.models.map fun row =>
          if row.name = name then { row with enabled := enabled } else row }) =
        .ok ⟨db.withStatus name enabled, db.collation, withStatus_constraints name enabled⟩ :=
      dif_pos (withStatus_constraints name enabled)
    rw [hw]
    rfl
  · rename_i hnone
    refine ⟨db, false, rfl, ?_⟩
    have : db.models.map (fun row =>
        if row.name = name then { row with enabled := enabled } else row) = db.models := by
      conv_rhs => rw [← List.map_id db.models]
      refine List.map_congr_left fun row hrow => if_neg fun hn => hnone ?_
      exact List.any_eq_true.2 ⟨row, hrow, decide_eq_true hn⟩
    rw [withStatus, this]

theorem setModelStatus_tables {name : String} {enabled found : Bool}
    (h : db.setModelStatus name enabled = .ok (db', found)) :
    db'.toCatalogTables = db.withStatus name enabled := by
  obtain ⟨u, found', hu, ht⟩ := @setModelStatus_ok db name enabled
  rw [hu] at h
  cases h
  exact ht

theorem deleteModel_ok {name : String} {found : Bool}
    (h : db.deleteModel name = .ok (db', found)) :
    db'.toCatalogTables =
        ⟨db.providers, db.pricing, db.models.filter (·.name ≠ name),
          db.deployments.filter (·.modelName ≠ name)⟩ ∧
      (found = false → db' = db) := by
  obtain ⟨ht, hc, rfl⟩ := commit_found h
  refine ⟨ht, fun hf => ext_tables ?_ hc⟩
  have hm : ∀ row ∈ db.models, row.name ≠ name := by simpa using hf
  have hd : ∀ row ∈ db.deployments, row.modelName ≠ name := by
    intro row hrow hn
    obtain ⟨model, hmodel, hname⟩ := List.mem_map.1 (db.constraints.deploymentModels row hrow)
    exact hm model hmodel (hname.trans hn)
  have hmodels : db.models.filter (·.name ≠ name) = db.models := by simpa using hm
  have hdeployments : db.deployments.filter (·.modelName ≠ name) = db.deployments := by
    simpa using hd
  rw [ht, hmodels, hdeployments]

/-- Deployment rows of other models than `name` make up the chains of these models. -/
theorem chain_of_ne {name other : String} {rows : List DeploymentRow} (hne : other ≠ name)
    (hrows : ∀ row ∈ rows, row.modelName = name)
    (h : db'.deployments = db.deployments.filter (·.modelName ≠ name) ++ rows) :
    db'.chain other = db.chain other := by
  have hfilter : db'.deployments.filter (·.modelName = other) =
      db.deployments.filter (·.modelName = other) := by
    rw [h, List.filter_append, List.filter_filter]
    have hnil : rows.filter (·.modelName = other) = [] := by
      rw [List.filter_eq_nil_iff]
      intro row hrow
      simp [hrows row hrow, hne.symm]
    rw [hnil, List.append_nil]
    refine List.filter_congr fun row _ => ?_
    by_cases hr : row.modelName = other <;> simp [hr, hne]
  rw [chain, chain, hfilter]

theorem chain_deleteModel {name other : String} {found : Bool} (hne : other ≠ name)
    (h : db.deleteModel name = .ok (db', found)) : db'.chain other = db.chain other := by
  have hnone : ∀ row ∈ ([] : List DeploymentRow), row.modelName = name :=
    fun _ hrow => by cases hrow
  refine chain_of_ne hne hnone ?_
  rw [(deleteModel_ok h).1, List.append_nil]

/-! ## Deployment chains -/

theorem mem_deploymentRows {name : String} {deployments : List (String × String)}
    {row : DeploymentRow} (h : row ∈ deploymentRows name deployments) :
    row.modelName = name ∧ (row.providerId, row.upstreamModel) ∈ deployments := by
  obtain ⟨⟨d, n⟩, hd, rfl⟩ := List.mem_map.1 h
  exact ⟨rfl, List.fst_mem_of_mem_zipIdx hd⟩

/-- The rows of a chain are in the order of their priorities. -/
theorem deploymentRows_sorted (name : String) (deployments : List (String × String)) :
    (deploymentRows name deployments).Pairwise fun a b => a.priority ≤ b.priority := by
  have hp : (deploymentRows name deployments).map DeploymentRow.priority =
      List.range' 0 deployments.length := by
    rw [deploymentRows, List.map_map]
    exact List.zipIdx_map_snd 0 deployments
  have hs : ((deploymentRows name deployments).map DeploymentRow.priority).Pairwise (· ≤ ·) := by
    rw [hp]
    exact (List.pairwise_lt_range' (s := 0) (n := deployments.length)).imp Nat.le_of_lt
  exact List.pairwise_map.1 hs

theorem deploymentRows_config (name : String) (deployments : List (String × String)) :
    (deploymentRows name deployments).map DeploymentRow.config = deploymentsOf deployments := by
  have h := List.zipIdx_map_fst 0 deployments
  conv_rhs => rw [← h]
  rw [deploymentRows, deploymentsOf, List.map_map, List.map_map]
  rfl

theorem setDeployments_ok {name : String} {deployments : List (String × String)} {found : Bool}
    (h : db.setDeployments name deployments = .ok (db', found)) :
    (db' = db ∧ ∀ row ∈ db.models, row.name ≠ name) ∨
      db'.toCatalogTables =
        ⟨db.providers, db.pricing, db.models,
          db.deployments.filter (·.modelName ≠ name) ++ deploymentRows name deployments⟩ := by
  unfold setDeployments at h
  split at h
  · cases h
  · split at h
    · exact .inr (commit_found h).1
    · rename_i hnone
      cases h
      exact .inl ⟨rfl, by simpa using hnone⟩

/-- The call says whether it found the model. -/
theorem setDeployments_found {name : String} {deployments : List (String × String)} {found : Bool}
    (h : db.setDeployments name deployments = .ok (db', found)) :
    found = db.models.any (·.name = name) := by
  unfold setDeployments at h
  split at h
  · cases h
  · split at h
    · rename_i hany
      rw [(commit_found h).2.2, hany]
    · rename_i hany
      cases h
      simpa using hany

/-- The chains of other models stay. -/
theorem chain_setDeployments_of_ne {name other : String} {deployments : List (String × String)}
    (h : db'.toCatalogTables = ⟨db.providers, db.pricing, db.models,
      db.deployments.filter (·.modelName ≠ name) ++ deploymentRows name deployments⟩)
    (hne : other ≠ name) : db'.chain other = db.chain other :=
  chain_of_ne hne (fun _ hrow => (mem_deploymentRows hrow).1) (by rw [h])

/-- A replaced chain is the given one, in the given order. -/
theorem chain_setDeployments {name : String} {deployments : List (String × String)}
    (h : db'.toCatalogTables = ⟨db.providers, db.pricing, db.models,
      db.deployments.filter (·.modelName ≠ name) ++ deploymentRows name deployments⟩) :
    db'.chain name = deploymentsOf deployments := by
  have hfilter : db'.deployments.filter (·.modelName = name) = deploymentRows name deployments := by
    rw [h, List.filter_append, List.filter_filter]
    have hold : db.deployments.filter (fun row => decide (row.modelName = name) &&
        decide (row.modelName ≠ name)) = [] := by
      rw [List.filter_eq_nil_iff]
      simp
    rw [hold, List.nil_append, List.filter_eq_self]
    intro row hrow
    exact decide_eq_true (mem_deploymentRows hrow).1
  rw [chain, hfilter, (deploymentRows_sorted name deployments).insertionSort_eq,
    deploymentRows_config]

theorem firstRepeated_none {seen texts : List String} (hnd : texts.Nodup)
    (hseen : ∀ text ∈ texts, text ∉ seen) : firstRepeated seen texts = none := by
  induction texts generalizing seen with
  | nil => rfl
  | cons text texts ih =>
    obtain ⟨hnot, hnd⟩ := List.nodup_cons.1 hnd
    rw [firstRepeated, if_neg (hseen text (List.mem_cons_self ..))]
    refine ih hnd fun t ht hm => ?_
    rcases List.mem_cons.1 hm with rfl | hm
    · exact hnot ht
    · exact hseen t (List.mem_cons_of_mem _ ht) hm

theorem deploymentRows_pairs (name : String) (chain : List (String × String)) :
    (deploymentRows name chain).map (fun row => (row.modelName, row.providerId)) =
      chain.map fun d => (name, d.1) := by
  have h := List.zipIdx_map_fst 0 chain
  conv_rhs => rw [← h]
  rw [deploymentRows, List.map_map, List.map_map]
  rfl

/-- The rows of one model break no key when its chain names no provider twice. -/
theorem deploymentRows_pairs_nodup (name : String) (chain : List (String × String)) :
    ((deploymentRows name chain).map fun row => (row.modelName, row.providerId)).Nodup ↔
      (chain.map Prod.fst).Nodup := by
  have hmap : chain.map (fun d => (name, d.1)) = (chain.map Prod.fst).map (Prod.mk name) := by
    rw [List.map_map]
    rfl
  rw [deploymentRows_pairs, hmap]
  exact List.nodup_map_iff (Prod.mk_right_injective name)

theorem exists_deploymentRow (name : String) {deployments : List (String × String)}
    {d : String × String} (h : d ∈ deployments) :
    ∃ row ∈ deploymentRows name deployments, row.providerId = d.1 ∧ row.upstreamModel = d.2 := by
  have hfst : d ∈ deployments.zipIdx.map Prod.fst := by rwa [List.zipIdx_map_fst]
  obtain ⟨entry, hentry, rfl⟩ := List.mem_map.1 hfst
  exact ⟨_, List.mem_map_of_mem hentry, rfl, rfl⟩

/-! ## Calls that succeed -/

/-- A model is created under any text that no other model has. -/
theorem createModel_of {name : String} (hnew : ∀ row ∈ db.models, row.name ≠ name)
    (htext : isText name) (now : DateTime) :
    ∃ created, db.createModel name now = .ok created ∧ created.toCatalogTables =
      ⟨db.providers, db.pricing,
        db.models ++ [{ name := name, enabled := false, createdAt := now }], db.deployments⟩ := by
  have hc := db.constraints
  obtain ⟨hp, hpr, hm, hd⟩ := CatalogTables.texts_iff.1 hc.texts
  have hconstraints : (CatalogTables.mk db.providers db.pricing
      (db.models ++ [{ name := name, enabled := false, createdAt := now }])
      db.deployments).Constraints := by
    refine ⟨hc.providerIds, hc.pricingIds, hc.pricingPairs, ?_, hc.deploymentPairs,
      fun row hrow => ?_, hc.deploymentProviders,
      CatalogTables.texts_iff.2 ⟨hp, hpr, List.forall_mem_append.2 ⟨hm, ?_⟩, hd⟩⟩
    · rw [List.map_append, List.nodup_append]
      refine ⟨hc.modelNames, List.nodup_singleton _, fun a ha b hb => ?_⟩
      obtain ⟨row, hrow, rfl⟩ := List.mem_map.1 ha
      rw [List.map_singleton, List.mem_singleton] at hb
      rw [hb]
      exact hnew row hrow
    · exact List.map_append ▸ List.mem_append_left _ (hc.deploymentModels row hrow)
    · exact List.forall_mem_singleton.2 htext
  have hcommit : db.commit (fun t => { t with
      models := t.models ++ [{ name := name, enabled := false, createdAt := now }] }) =
      .ok ⟨_, db.collation, hconstraints⟩ := commit_of hconstraints rfl
  have hnone : ¬ db.models.any (·.name = name) := by simpa using hnew
  refine ⟨⟨_, db.collation, hconstraints⟩, ?_, rfl⟩
  rw [createModel, if_neg hnone]
  exact hcommit

/-- A chain of distinct known providers, with texts as their models, replaces that of a model. -/
theorem setDeployments_of {name : String} {deployments : List (String × String)}
    (hname : name ∈ db.models.map ModelRow.name) (honce : (deployments.map Prod.fst).Nodup)
    (hchain : ∀ d ∈ deployments, d.1 ∈ db.providers.map ProviderConfig.id ∧ isText d.2) :
    ∃ saved, db.setDeployments name deployments = .ok (saved, true) ∧ saved.toCatalogTables =
      ⟨db.providers, db.pricing, db.models,
        db.deployments.filter (·.modelName ≠ name) ++ deploymentRows name deployments⟩ := by
  have hc := db.constraints
  obtain ⟨hp, hpr, hm, hd⟩ := CatalogTables.texts_iff.1 hc.texts
  have hkept : ∀ row ∈ db.deployments.filter (·.modelName ≠ name), row ∈ db.deployments :=
    fun row hrow => (List.mem_filter.1 hrow).1
  have hpairs : ((db.deployments.filter (·.modelName ≠ name) ++
      deploymentRows name deployments).map fun row => (row.modelName, row.providerId)).Nodup := by
    rw [List.map_append, List.nodup_append]
    refine ⟨hc.deploymentPairs.sublist (List.filter_sublist.map _),
      (deploymentRows_pairs_nodup name deployments).2 honce, fun a ha b hb => ?_⟩
    rw [deploymentRows_pairs] at hb
    obtain ⟨row, hrow, rfl⟩ := List.mem_map.1 ha
    obtain ⟨d, -, rfl⟩ := List.mem_map.1 hb
    have hne : row.modelName ≠ name := by simpa using (List.mem_filter.1 hrow).2
    exact fun heq => hne (congrArg Prod.fst heq)
  have hconstraints : (CatalogTables.mk db.providers db.pricing db.models
      (db.deployments.filter (·.modelName ≠ name) ++
        deploymentRows name deployments)).Constraints := by
    refine ⟨hc.providerIds, hc.pricingIds, hc.pricingPairs, hc.modelNames, hpairs,
      List.forall_mem_append.2 ⟨fun row hrow => hc.deploymentModels row (hkept row hrow),
        fun row hrow => ?_⟩,
      List.forall_mem_append.2 ⟨fun row hrow => hc.deploymentProviders row (hkept row hrow),
        fun row hrow => (hchain _ (mem_deploymentRows hrow).2).1⟩,
      CatalogTables.texts_iff.2 ⟨hp, hpr, hm,
        List.forall_mem_append.2 ⟨fun row hrow => hd row (hkept row hrow),
          fun row hrow text ht => ?_⟩⟩⟩
    · rw [(mem_deploymentRows hrow).1]
      exact hname
    · obtain ⟨hmodel, hmem⟩ := mem_deploymentRows hrow
      simp only [DeploymentRow.texts, List.mem_cons, List.not_mem_nil, or_false] at ht
      rcases ht with rfl | rfl | rfl
      · obtain ⟨model, hmem, hmodelName⟩ := List.mem_map.1 hname
        rw [hmodel, ← hmodelName]
        exact hm model hmem
      · obtain ⟨provider, hprovider, hid⟩ := List.mem_map.1 (hchain _ hmem).1
        exact hp provider hprovider _ (by simp [ProviderConfig.texts, hid])
      · exact (hchain _ hmem).2
  have hcommit : db.commit (fun t => { t with
      deployments := t.deployments.filter (·.modelName ≠ name) ++
        deploymentRows name deployments }) = .ok ⟨_, db.collation, hconstraints⟩ :=
    commit_of hconstraints rfl
  have hany : db.models.any (·.name = name) := by
    obtain ⟨row, hrow, hrn⟩ := List.mem_map.1 hname
    exact List.any_eq_true.2 ⟨row, hrow, decide_eq_true hrn⟩
  refine ⟨⟨_, db.collation, hconstraints⟩, ?_, rfl⟩
  rw [setDeployments, firstRepeated_none honce (fun _ _ => List.not_mem_nil), if_pos hany]
  exact congrArg (Except.map (·, true)) hcommit

end CatalogDb

/-! ## Handlers -/

/-- What a handler can do: nothing, when it rejects the request; what its store calls do, when it
succeeds; and a draft that `create_model` leaves when its deployments are not stored. -/
inductive CatalogRequest.Effect (P : Packages) (db : CatalogDb) :
    CatalogRequest → Admin.Outcome → Prop
  | rejected {request : CatalogRequest} {rejection : Rejection} :
      Effect P db request (db, .error rejection)
  | createProvider {body : Admin.CreateProviderBody} {provider : ProviderConfig} {db' : CatalogDb} :
      Text.trim body.id ≠ "" →
      Admin.buildProvider (Text.trim body.id) body.fields none = .ok provider →
      db.upsertProvider provider true = .ok db' →
      Effect P db (.createProvider body) (db', .ok 201)
  | updateProvider {id : String} {fields : Admin.ProviderBody} {current provider : ProviderConfig}
      {db' : CatalogDb} :
      db.getProvider id = some current →
      Admin.buildProvider id fields (some current.apiKey) = .ok provider →
      db.upsertProvider provider false = .ok db' →
      Effect P db (.updateProvider id fields) (db', .ok 200)
  | deleteProvider {id : String} {db' : CatalogDb} :
      db.providerInUse id = none → db.deleteProvider id = .ok (db', true) →
      Effect P db (.deleteProvider id) (db', .ok 200)
  | createPricing {body : Admin.PricingBody} {newId : Uuid} {config : PricingConfig}
      {db' : CatalogDb} :
      Admin.buildPricing P body = .ok config → db.createPricing newId config = .ok db' →
      Effect P db (.createPricing body newId) (db', .ok 201)
  | updatePricing {id : Uuid} {body : Admin.PricingBody} {config : PricingConfig}
      {db' : CatalogDb} :
      Admin.buildPricing P body = .ok config →
      Admin.ensurePricingGate db (fun rules =>
        rules.filter (·.id ≠ id) ++ [{ id := id, config := config }]) = .ok () →
      db.updatePricing id config = .ok (db', true) →
      Effect P db (.updatePricing id body) (db', .ok 200)
  | deletePricing {id : Uuid} {db' : CatalogDb} :
      Admin.ensurePricingGate db (fun rules => rules.filter (·.id ≠ id)) = .ok () →
      db.deletePricing id = .ok (db', true) → Effect P db (.deletePricing id) (db', .ok 200)
  | unsavedModel {body : Admin.CreateModelBody} {now : DateTime} {created : CatalogDb}
      {rejection : Rejection} :
      db.createModel (Text.trim body.name) now = .ok created →
      Effect P db (.createModel body now) (created, .error rejection)
  | createDraft {body : Admin.CreateModelBody} {now : DateTime}
      {deployments : List (String × String)} {created saved : CatalogDb} {found : Bool} :
      Text.trim body.name ≠ "" → Admin.validateDeployments db body.deployments = .ok deployments →
      body.enabled = false → db.createModel (Text.trim body.name) now = .ok created →
      created.setDeployments (Text.trim body.name) deployments = .ok (saved, found) →
      Effect P db (.createModel body now) (saved, .ok 201)
  | createListed {body : Admin.CreateModelBody} {now : DateTime}
      {deployments : List (String × String)} {created saved listed : CatalogDb}
      {found found' : Bool} :
      Text.trim body.name ≠ "" → Admin.validateDeployments db body.deployments = .ok deployments →
      Admin.ensureListable db (Text.trim body.name) deployments now = .ok () →
      db.createModel (Text.trim body.name) now = .ok created →
      created.setDeployments (Text.trim body.name) deployments = .ok (saved, found) →
      saved.setModelStatus (Text.trim body.name) true = .ok (listed, found') →
      Effect P db (.createModel body now) (listed, .ok 201)
  | updateModel {name : String} {body : Admin.UpdateModelBody} {now : DateTime}
      {deployments : List (String × String)} {saved updated : CatalogDb} {found found' : Bool} :
      Admin.validateDeployments db body.deployments = .ok deployments →
      (body.enabled = true → Admin.ensureListable db name deployments now = .ok ()) →
      db.setDeployments name deployments = .ok (saved, found) →
      saved.setModelStatus name body.enabled = .ok (updated, found') →
      Effect P db (.updateModel name body now) (updated, .ok 200)
  | deleteModel {name : String} {db' : CatalogDb} :
      db.deleteModel name = .ok (db', true) → Effect P db (.deleteModel name) (db', .ok 200)

section
variable {P : Packages} {db : CatalogDb}

/-- A store call that may miss its row: a success, or a rejection that changes nothing. -/
theorem ofFound_effect {request : CatalogRequest} {status : Nat} {missing : String}
    {failed : StoreError → Rejection} {call : Except StoreError (CatalogDb × Bool)}
    (hmiss : ∀ db', call = .ok (db', false) → db' = db)
    (hok : ∀ db', call = .ok (db', true) → request.Effect P db (db', .ok status)) :
    request.Effect P db (Admin.ofFound db status missing failed call) := by
  rcases call with e | ⟨db', found⟩
  · exact .rejected
  · cases found with
    | false =>
      rw [hmiss db' rfl]
      exact .rejected
    | true => exact hok db' rfl

theorem createModel_effect (body : Admin.CreateModelBody) (now : DateTime) :
    (CatalogRequest.createModel body now).Effect P db (Admin.createModel db body now) := by
  simp only [Admin.createModel]
  split
  · exact .rejected
  · rename_i hn
    split
    · exact .rejected
    · rename_i deployments hv
      split
      · exact .rejected
      · rename_i hg
        split
        · exact .rejected
        · rename_i created hc
          split
          · exact .unsavedModel hc
          · rename_i saved found hs
            split
            · rename_i he
              -- the third store call cannot fail after the first two
              obtain ⟨listed, found', hl, -⟩ := saved.setModelStatus_ok (Text.trim body.name) true
              rw [hl]
              rw [Admin.ensureListableIf, if_pos he] at hg
              exact .createListed (fun h => hn (.inl h)) hv hg hc hs hl
            · rename_i he
              exact .createDraft (fun h => hn (.inl h)) hv (by simpa using he) hc hs

theorem updateModel_effect (name : String) (body : Admin.UpdateModelBody) (now : DateTime) :
    (CatalogRequest.updateModel name body now).Effect P db
      (Admin.updateModel db name body now) := by
  unfold Admin.updateModel
  split
  · exact .rejected
  · split
    · exact .rejected
    · rename_i deployments hv
      split
      · exact .rejected
      · rename_i hg
        split
        · exact .rejected
        · rename_i saved found hs
          obtain ⟨updated, found', hl, -⟩ := saved.setModelStatus_ok name body.enabled
          rw [hl]
          refine .updateModel hv (fun he => ?_) hs hl
          rwa [Admin.ensureListableIf, if_pos he] at hg

theorem createProvider_effect (body : Admin.CreateProviderBody) :
    (CatalogRequest.createProvider body).Effect P db (Admin.createProvider db body) := by
  simp only [Admin.createProvider]
  split
  · exact .rejected
  · rename_i hid
    split
    · exact .rejected
    · rename_i provider hb
      split
      · rename_i db' hw
        exact .createProvider hid hb hw
      · exact .rejected

theorem updateProvider_effect (id : String) (fields : Admin.ProviderBody) :
    (CatalogRequest.updateProvider id fields).Effect P db (Admin.updateProvider db id fields) := by
  unfold Admin.updateProvider
  split
  · exact .rejected
  · rename_i current hc
    split
    · exact .rejected
    · rename_i provider hb
      split
      · rename_i db' hw
        exact .updateProvider hc hb hw
      · exact .rejected

theorem deleteProvider_effect (id : String) :
    (CatalogRequest.deleteProvider id).Effect P db (Admin.deleteProvider db id) := by
  unfold Admin.deleteProvider
  split
  · exact .rejected
  · rename_i hu
    exact ofFound_effect (fun _ h => (CatalogDb.deleteProvider_ok h).2 rfl)
      fun _ hw => .deleteProvider hu hw

theorem createPricing_effect (body : Admin.PricingBody) (newId : Uuid) :
    (CatalogRequest.createPricing body newId).Effect P db
      (Admin.createPricing P db body newId) := by
  unfold Admin.createPricing
  split
  · exact .rejected
  · rename_i config hb
    split
    · rename_i db' hw
      exact .createPricing hb hw
    · exact .rejected

theorem updatePricing_effect (id : Uuid) (body : Admin.PricingBody) :
    (CatalogRequest.updatePricing id body).Effect P db (Admin.updatePricing P db id body) := by
  unfold Admin.updatePricing
  split
  · exact .rejected
  · rename_i config hb
    split
    · exact .rejected
    · rename_i hg
      refine ofFound_effect (fun db' h => ?_) fun _ hw => .updatePricing hb hg hw
      rcases CatalogDb.updatePricing_ok h with ⟨-, rfl⟩ | ⟨hf, -⟩
      · rfl
      · cases hf

theorem deletePricing_effect (id : Uuid) :
    (CatalogRequest.deletePricing id).Effect P db (Admin.deletePricing db id) := by
  unfold Admin.deletePricing
  split
  · exact .rejected
  · rename_i hg
    exact ofFound_effect (fun _ h => (CatalogDb.deletePricing_ok h).2 rfl)
      fun _ hw => .deletePricing hg hw

theorem deleteModel_effect (name : String) :
    (CatalogRequest.deleteModel name).Effect P db (Admin.deleteModel db name) :=
  ofFound_effect (fun _ h => (CatalogDb.deleteModel_ok h).2 rfl) fun _ hw => .deleteModel hw

/-- **Everything a handler can do.** -/
theorem run_effect (request : CatalogRequest) : request.Effect P db (request.run P db) := by
  cases request with
  | createProvider body => exact createProvider_effect body
  | updateProvider id fields => exact updateProvider_effect id fields
  | deleteProvider id => exact deleteProvider_effect id
  | createPricing body newId => exact createPricing_effect body newId
  | updatePricing id body => exact updatePricing_effect id body
  | deletePricing id => exact deletePricing_effect id
  | createModel body now => exact createModel_effect body now
  | updateModel name body now => exact updateModel_effect name body now
  | deleteModel name => exact deleteModel_effect name

end

end LiteAgentify
