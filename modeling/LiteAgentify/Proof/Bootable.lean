import LiteAgentify.Proof.Listing

/-!
# What the management API accepts can be served

`from_parts` accepts the snapshot of a database exactly when its rows pass the row checks
(`snapshot_valid`): the schema keeps the keys distinct and the references alive. The handlers check
every column that `from_parts` checks, except that the base URL of a provider only has to be
non-blank. So a successful call keeps the rows valid exactly when a base URL that it writes has
scheme and host (`effect_rowsValid`).
-/

set_option autoImplicit false

namespace LiteAgentify

/-! ## What `from_parts` asks of the rows -/

namespace CatalogTables

structure RowsValid (P : Packages) (t : CatalogTables) : Prop where
  pricing : ∀ row ∈ t.pricing, row.config.Valid
  providers : ∀ provider ∈ t.providers, provider.Valid P
  modelNames : ∀ row ∈ t.models, Text.trim row.name ≠ ""
  upstreamModels : ∀ row ∈ t.deployments, Text.trim row.upstreamModel ≠ ""

/-- Rows that were there, or are valid themselves. -/
theorem RowsValid.of_rows {P : Packages} {t t' : CatalogTables} (hv : t.RowsValid P)
    (hpricing : ∀ row ∈ t'.pricing, row ∈ t.pricing ∨ row.config.Valid)
    (hproviders : ∀ provider ∈ t'.providers, provider ∈ t.providers ∨ provider.Valid P)
    (hmodels : ∀ row ∈ t'.models, (∃ old ∈ t.models, old.name = row.name) ∨ Text.trim row.name ≠ "")
    (hdeployments : ∀ row ∈ t'.deployments,
      row ∈ t.deployments ∨ Text.trim row.upstreamModel ≠ "") : t'.RowsValid P where
  pricing row hrow := (hpricing row hrow).elim (hv.pricing row) fun h => h
  providers provider hp := (hproviders provider hp).elim (hv.providers provider) fun h => h
  modelNames row hrow := by
    rcases hmodels row hrow with ⟨old, hold, hname⟩ | hn
    · exact hname ▸ hv.modelNames old hold
    · exact hn
  upstreamModels row hrow := (hdeployments row hrow).elim (hv.upstreamModels row) fun h => h

/-- Rows that were there. -/
theorem RowsValid.of_subset {P : Packages} {t t' : CatalogTables} (hv : t.RowsValid P)
    (hpricing : t'.pricing ⊆ t.pricing) (hproviders : t'.providers ⊆ t.providers)
    (hmodels : t'.models ⊆ t.models) (hdeployments : t'.deployments ⊆ t.deployments) :
    t'.RowsValid P :=
  hv.of_rows (fun _ h => .inl (hpricing h)) (fun _ h => .inl (hproviders h))
    (fun row h => .inl ⟨row, hmodels h, rfl⟩) fun _ h => .inl (hdeployments h)

end CatalogTables

namespace CatalogDb

variable {P : Packages} {db : CatalogDb}

theorem listProviders_perm : db.listProviders.Perm db.providers :=
  List.perm_insertionSort _ _

theorem listPricing_perm : db.listPricing.Perm db.pricing := List.perm_insertionSort _ _

theorem listModels_names :
    (db.listModels.map ModelConfig.name).Perm (db.models.map ModelRow.name) := by
  rw [listModels, List.map_map]
  exact (List.perm_insertionSort _ _).map ModelRow.name

/-- **The snapshot of a database is accepted when its rows are.** -/
theorem snapshot_valid : db.snapshot.Valid P ↔ db.RowsValid P := by
  have hc := db.constraints
  have hids : (db.listProviders.map ProviderConfig.id).Perm (db.providers.map ProviderConfig.id) :=
    listProviders_perm.map _
  constructor
  · intro h
    refine ⟨fun row hrow => ?_, fun provider hp => ?_, fun row hrow => ?_, fun row hrow => ?_⟩
    · exact h.pricing _ (List.mem_map.2 ⟨row, mem_listPricing.2 hrow, rfl⟩)
    · exact h.providers _ (mem_listProviders.2 hp)
    · exact (h.models _ (mem_listModels.2 ⟨row, hrow, rfl⟩)).name
    · -- a deployment row belongs to a model, and is checked with it
      obtain ⟨model, hmodel, hname⟩ := List.mem_map.1 (hc.deploymentModels row hrow)
      have hchain : row.config ∈ db.chain model.name := mem_chain.2 ⟨row, hrow, hname.symm, rfl⟩
      have hmodel := h.models _ (mem_listModels.2 ⟨model, hmodel, rfl⟩)
      exact (hmodel.deployments _ hchain).upstreamModel
  · intro h
    refine ⟨?_, ?_, fun provider hp => h.providers _ (mem_listProviders.1 hp),
      hids.nodup_iff.2 hc.providerIds, ?_, listModels_names.nodup_iff.2 hc.modelNames⟩
    · intro entry hentry
      obtain ⟨row, hrow, rfl⟩ := List.mem_map.1 hentry
      exact h.pricing row (mem_listPricing.1 hrow)
    · have hpairs : ((db.listPricing.map PricingRecord.config).map fun entry =>
          (entry.provider, entry.model)).Perm
          (db.pricing.map fun row => (row.config.provider, row.config.model)) := by
        rw [List.map_map]
        exact listPricing_perm.map _
      exact hpairs.nodup_iff.2 hc.pricingPairs
    · intro model hmodel
      obtain ⟨row, hrow, rfl⟩ := mem_listModels.1 hmodel
      refine ⟨h.modelNames row hrow, fun deployment hd => ⟨chain_provider hd, ?_⟩⟩
      obtain ⟨drow, hdrow, -, rfl⟩ := mem_chain.1 hd
      exact h.upstreamModels drow hdrow

theorem rowsValid_empty (collation : String → String → Bool) :
    (CatalogDb.empty collation).RowsValid P := by
  refine ⟨?_, ?_, ?_, ?_⟩ <;> exact fun _ h => by cases h

end CatalogDb

/-! ## What the handlers check -/

theorem buildProvider_ok {id : String} {body : Admin.ProviderBody} {currentKey : Option String}
    {provider : ProviderConfig} (h : Admin.buildProvider id body currentKey = .ok provider) :
    provider.id = id ∧ provider.baseUrl = body.baseUrl ∧
      provider.modelAliases = body.modelAliases ∧ Text.trim provider.apiKey ≠ "" := by
  unfold Admin.buildProvider at h
  split at h
  · cases h
  · split at h
    · cases h
    · split at h
      · cases h
      · split at h
        · cases h
        · rename_i apiKey _ hkey
          cases h
          exact ⟨rfl, rfl, rfl, hkey⟩

/-- All that a built provider lacks is a checked base URL. -/
theorem buildProvider_valid {P : Packages} {id : String} {body : Admin.ProviderBody}
    {currentKey : Option String} {provider : ProviderConfig} (hid : Text.trim id ≠ "")
    (h : Admin.buildProvider id body currentKey = .ok provider) :
    provider.Valid P ↔ IsBaseUrl P body.baseUrl := by
  obtain ⟨hid', hurl, -, hkey⟩ := buildProvider_ok h
  refine ⟨fun hv => hurl ▸ hv.baseUrl, fun hb => ⟨hid'.symm ▸ hid, hurl.symm ▸ hb, hkey⟩⟩

theorem parseRate_ok {P : Packages} {name value : String} {rate : Decimal}
    (h : Admin.parseRate P name value = .ok rate) : rate.isSignNegative = false := by
  unfold Admin.parseRate at h
  split at h
  · cases h
  · split at h
    · cases h
    · rename_i hsign
      cases h
      simpa using hsign

theorem parseOptionalRate_ok {P : Packages} {name : String} {value : Option String}
    {rate : Option Decimal} (h : Admin.parseOptionalRate P name value = .ok rate) :
    ∀ d ∈ rate, d.isSignNegative = false := by
  unfold Admin.parseOptionalRate at h
  split at h
  · cases h
    exact fun d hd => by cases hd
  · rename_i text
    split at h
    · cases h
      exact fun d hd => by cases hd
    · cases hr : Admin.parseRate P name text with
      | error rejection =>
        rw [hr] at h
        cases h
      | ok d =>
        rw [hr] at h
        cases h
        rintro _ ⟨⟩
        exact parseRate_ok hr

/-- Three upper-case letters that trimming leaves alone are a currency code. -/
theorem isCurrency_trim {currency : String}
    (h : ¬((Text.trim currency).utf8ByteSize ≠ 3 ∨
      ¬ (Text.trim currency).toList.all Text.isAsciiUppercase)) :
    IsCurrency (Text.trim currency) := by
  rintro (hempty | hrest)
  · rw [Text.trim_trim] at hempty
    rw [hempty] at h
    exact h (.inl (by decide))
  · exact h hrest

/-- Every pricing rule a handler builds passes the checks of `from_parts`. -/
theorem buildPricing_valid {P : Packages} {body : Admin.PricingBody} {config : PricingConfig}
    (h : Admin.buildPricing P body = .ok config) : config.Valid := by
  simp only [Admin.buildPricing] at h
  split at h
  · cases h
  · rename_i hp
    split at h
    · cases h
    · rename_i hm
      split at h
      · cases h
      · rename_i hc
        simp only [Keyed.bind_ok] at h
        obtain ⟨i, hi, o, ho, ci, hci, cr, hcr, cw, hcw, h⟩ := h
        cases h
        exact ⟨hp, hm, isCurrency_trim hc, PricingConfig.rates_iff.2 ⟨parseRate_ok hi,
          parseRate_ok ho, parseOptionalRate_ok hci, parseOptionalRate_ok hcr,
          parseOptionalRate_ok hcw⟩⟩

/-- A stored rate keeps its sign. -/
theorem toNumeric_sign {d stored : Decimal} (h : d.toNumeric = some stored)
    (hd : d.isSignNegative = false) : stored.isSignNegative = false := by
  simp only [Decimal.toNumeric, Option.dite_none_right_eq_some, Option.some.injEq] at h
  obtain ⟨-, rfl⟩ := h
  simp only [Decimal.isSignNegative] at hd ⊢
  rw [hd, Bool.false_and]

theorem mapM_toNumeric_sign {rate stored : Option Decimal}
    (h : rate.mapM Decimal.toNumeric = some stored) (hr : ∀ d ∈ rate, d.isSignNegative = false) :
    ∀ d ∈ stored, d.isSignNegative = false := by
  cases rate with
  | none =>
    cases h
    exact fun d hd => by cases hd
  | some d =>
    obtain ⟨e, he, rfl⟩ := Option.map_eq_some_iff.1 h
    rintro _ ⟨⟩
    exact toNumeric_sign he (hr d rfl)

/-- Storing a rule keeps it valid. -/
theorem stored_valid {config stored : PricingConfig} (h : config.stored = some stored)
    (hv : config.Valid) : stored.Valid := by
  obtain ⟨hp, hm, hc, hrates⟩ := hv
  obtain ⟨hi, ho, hci, hcr, hcw⟩ := PricingConfig.rates_iff.1 hrates
  simp only [PricingConfig.stored, Option.bind_eq_bind, Option.bind_eq_some_iff, Option.pure_def,
    Option.some.injEq] at h
  obtain ⟨i, hi', o, ho', ci, hci', cr, hcr', cw, hcw', rfl⟩ := h
  exact ⟨hp, hm, hc, PricingConfig.rates_iff.2 ⟨toNumeric_sign hi' hi, toNumeric_sign ho' ho,
    mapM_toNumeric_sign hci' hci, mapM_toNumeric_sign hcr' hcr, mapM_toNumeric_sign hcw' hcw⟩⟩

/-- The upstream models of a checked deployment list are not blank. -/
theorem validateDeployments_ok {providers : List ProviderConfig}
    {bodies : List Admin.DeploymentBody} {deployments : List (String × String)}
    (h : bodies.foldlM (Admin.validateDeployment providers) [] = .ok deployments) :
    ∀ deployment ∈ deployments, Text.trim deployment.2 ≠ "" := by
  refine Keyed.foldlM_inv (I := fun resolved : List (String × String) =>
    ∀ deployment ∈ resolved, Text.trim deployment.2 ≠ "") ?_ (by simp) h
  intro resolved body resolved' _ hr hstep
  simp only [Admin.validateDeployment] at hstep
  split at hstep
  · cases hstep
  · split at hstep
    · cases hstep
    · rename_i hu
      split at hstep
      · cases hstep
      · split at hstep
        · cases hstep
        · cases hstep
          intro deployment hd
          rcases List.mem_append.1 hd with hd | hd
          · exact hr deployment hd
          · rw [List.mem_singleton] at hd
            rw [hd, Text.trim_trim]
            exact hu

/-! ## The calls -/

/-- The base URL that a request writes has scheme and host. -/
def CatalogRequest.HasBaseUrl (P : Packages) : CatalogRequest → Prop
  | .createProvider body => IsBaseUrl P body.fields.baseUrl
  | .updateProvider _ fields => IsBaseUrl P fields.baseUrl
  | _ => True

namespace CatalogDb

variable {P : Packages} {db db' : CatalogDb}

/-- Storing a provider keeps the rows valid exactly when it is valid. -/
theorem rowsValid_upsertProvider {provider : ProviderConfig} {isNew : Bool} (hv : db.RowsValid P)
    (h : db.upsertProvider provider isNew = .ok db') : db'.RowsValid P ↔ provider.Valid P := by
  obtain ⟨rows, ht, hmem, hrows⟩ := upsertProvider_ok h
  rw [ht]
  refine ⟨fun hv' => hv'.providers provider hmem, fun hp => ?_⟩
  refine hv.of_rows (fun _ h => .inl h) (fun row hrow => ?_) (fun row h => .inl ⟨row, h, rfl⟩)
    fun _ h => .inl h
  rcases hrows row hrow with rfl | hold
  · exact .inr hp
  · exact .inl hold

theorem rowsValid_createPricing {id : Uuid} {config : PricingConfig} (hv : db.RowsValid P)
    (hc : config.Valid) (h : db.createPricing id config = .ok db') : db'.RowsValid P := by
  obtain ⟨stored, hs, ht⟩ := createPricing_ok h
  rw [ht]
  refine hv.of_rows (fun row hrow => ?_) (fun _ h => .inl h) (fun row h => .inl ⟨row, h, rfl⟩)
    fun _ h => .inl h
  rcases List.mem_append.1 hrow with hrow | hrow
  · exact .inl hrow
  · rw [List.mem_singleton] at hrow
    rw [hrow]
    exact .inr (stored_valid hs hc)

theorem rowsValid_updatePricing {id : Uuid} {config : PricingConfig} {found : Bool}
    (hv : db.RowsValid P) (hc : config.Valid)
    (h : db.updatePricing id config = .ok (db', found)) : db'.RowsValid P := by
  rcases updatePricing_ok h with ⟨-, rfl⟩ | ⟨-, -, stored, hs, ht⟩
  · exact hv
  · rw [ht]
    refine hv.of_rows (fun row hrow => ?_) (fun _ h => .inl h) (fun row h => .inl ⟨row, h, rfl⟩)
      fun _ h => .inl h
    obtain ⟨old, hold, rfl⟩ := List.mem_map.1 hrow
    split
    · exact .inr (stored_valid hs hc)
    · exact .inl hold

theorem rowsValid_createModel {name : String} {now : DateTime} (hv : db.RowsValid P)
    (hn : Text.trim name ≠ "") (h : db.createModel name now = .ok db') : db'.RowsValid P := by
  obtain ⟨-, ht⟩ := createModel_ok h
  rw [ht]
  refine hv.of_rows (fun _ h => .inl h) (fun _ h => .inl h) (fun row hrow => ?_) fun _ h => .inl h
  rcases List.mem_append.1 hrow with hrow | hrow
  · exact .inl ⟨row, hrow, rfl⟩
  · rw [List.mem_singleton] at hrow
    rw [hrow]
    exact .inr hn

theorem rowsValid_setDeployments {name : String} {deployments : List (String × String)}
    {found : Bool} (hv : db.RowsValid P)
    (hd : ∀ deployment ∈ deployments, Text.trim deployment.2 ≠ "")
    (h : db.setDeployments name deployments = .ok (db', found)) : db'.RowsValid P := by
  rcases setDeployments_ok h with ⟨rfl, -⟩ | ht
  · exact hv
  · rw [ht]
    refine hv.of_rows (fun _ h => .inl h) (fun _ h => .inl h) (fun row h => .inl ⟨row, h, rfl⟩)
      fun row hrow => ?_
    rcases List.mem_append.1 hrow with hrow | hrow
    · exact .inl (List.mem_filter.1 hrow).1
    · exact .inr (hd (row.providerId, row.upstreamModel) (mem_deploymentRows hrow).2)

theorem rowsValid_setModelStatus {name : String} {enabled found : Bool} (hv : db.RowsValid P)
    (h : db.setModelStatus name enabled = .ok (db', found)) : db'.RowsValid P := by
  rw [setModelStatus_tables h]
  refine hv.of_rows (fun _ h => .inl h) (fun _ h => .inl h) (fun row hrow => ?_) fun _ h => .inl h
  obtain ⟨old, hold, rfl⟩ := List.mem_map.1 hrow
  refine .inl ⟨old, hold, ?_⟩
  split <;> rfl

end CatalogDb

/-- **One successful call** keeps the rows valid exactly when a base URL that it writes has scheme
and host. -/
theorem effect_rowsValid {P : Packages} {db db' : CatalogDb} {request : CatalogRequest}
    {status : Nat} (h : request.Effect P db (db', .ok status)) (hv : db.RowsValid P) :
    db'.RowsValid P ↔ request.HasBaseUrl P := by
  cases h with
  | createProvider hid hb hw =>
    rw [CatalogDb.rowsValid_upsertProvider hv hw]
    exact buildProvider_valid (by rwa [Text.trim_trim]) hb
  | updateProvider hc hb hw =>
    rw [CatalogDb.rowsValid_upsertProvider hv hw]
    -- the id of the path is not checked again: it is that of a row
    obtain ⟨hmem, rfl⟩ := CatalogDb.getProvider_some hc
    exact buildProvider_valid (hv.providers _ hmem).id hb
  | deleteProvider _ hw =>
    rw [(CatalogDb.deleteProvider_ok hw).1]
    refine iff_of_true (hv.of_subset ?_ ?_ ?_ ?_) trivial
    exacts [List.Subset.refl _, List.filter_subset_self _, List.Subset.refl _, List.Subset.refl _]
  | createPricing hb hw =>
    exact iff_of_true (CatalogDb.rowsValid_createPricing hv (buildPricing_valid hb) hw) trivial
  | updatePricing hb _ hw =>
    exact iff_of_true (CatalogDb.rowsValid_updatePricing hv (buildPricing_valid hb) hw) trivial
  | deletePricing _ hw =>
    rw [(CatalogDb.deletePricing_ok hw).1]
    refine iff_of_true (hv.of_subset ?_ ?_ ?_ ?_) trivial
    exacts [List.filter_subset_self _, List.Subset.refl _, List.Subset.refl _, List.Subset.refl _]
  | createDraft hn hd _ hc hs =>
    have hcreated := CatalogDb.rowsValid_createModel hv (by rwa [Text.trim_trim]) hc
    exact iff_of_true
      (CatalogDb.rowsValid_setDeployments hcreated (validateDeployments_ok hd) hs) trivial
  | createListed hn hd _ hc hs hu =>
    have hcreated := CatalogDb.rowsValid_createModel hv (by rwa [Text.trim_trim]) hc
    have hsaved := CatalogDb.rowsValid_setDeployments hcreated (validateDeployments_ok hd) hs
    exact iff_of_true (CatalogDb.rowsValid_setModelStatus hsaved hu) trivial
  | updateModel hd _ hs hu =>
    have hsaved := CatalogDb.rowsValid_setDeployments hv (validateDeployments_ok hd) hs
    exact iff_of_true (CatalogDb.rowsValid_setModelStatus hsaved hu) trivial
  | deleteModel hw =>
    rw [(CatalogDb.deleteModel_ok hw).1]
    refine iff_of_true (hv.of_subset ?_ ?_ ?_ ?_) trivial
    exacts [List.Subset.refl _, List.Subset.refl _, List.filter_subset_self _,
      List.filter_subset_self _]

end LiteAgentify
