import LiteAgentify.Admin.CatalogThread
import LiteAgentify.Proof.NextStart

/-!
# Catalog requests that run at the same time

A statement keeps the rows valid, and the aliases that a start may read named, when the row that it
writes is (`CatalogSql.run_sound`), whatever the others have written since the handler read:
the checks of a handler are about what it writes, except that `update_provider` takes its id from a
row that it has read. The cells hold what `from_parts` has checked. So every handler is safe
(`handle_safe`), and any number of them, interleaved step by step, leave a database that the gateway
can be started on (`interleaved_can_restart`). The listing gate is about other rows, and holds of
calls that run one after another only (`listing_gate_crossed`).
-/

set_option autoImplicit false

namespace LiteAgentify

open Threads Lts

/-! ## Statements -/

/-- The row is valid, and its aliases have names when a route of the file lists the provider. -/
structure ProviderConfig.Sound (P : Packages) (file : GatewayConfig) (provider : ProviderConfig) :
    Prop where
  valid : provider.Valid P
  aliases : file.Routes provider.id → AliasesNamed provider.modelAliases

/-- What a start with the file asks of the rows, whether there is a model or not. -/
structure CatalogTables.Sound (P : Packages) (file : GatewayConfig) (t : CatalogTables) : Prop where
  rows : t.RowsValid P
  aliases : file.RoutedNamed t.providers

/-- The row that a statement writes is valid. -/
def CatalogSql.Writes (P : Packages) (file : GatewayConfig) : CatalogSql → Prop
  | insertProvider provider | updateProvider provider => provider.Sound P file
  | insertPricing _ config | updatePricing _ config => config.Valid
  | insertModel name _ => Text.trim name ≠ ""
  | replaceDeployments _ deployments => ∀ deployment ∈ deployments, Text.trim deployment.2 ≠ ""
  | _ => True

/-- The routing is that of a catalog and a retry section that pass the checks of a start. -/
def GatewayState.Routed (P : Packages) (state : GatewayState) : Prop :=
  ∃ catalog : CatalogSnapshot, ∃ retry : RetryConfig,
    catalog.Valid P ∧ retry.Valid ∧ state.routing = routingOf catalog retry

def CatalogStep.Writes (P : Packages) (file : GatewayConfig) : CatalogStep → Prop
  | sql q => q.Writes P file
  | storeCatalog catalog => catalog.Valid P
  | storeState next => next.Routed P
  | _ => True

/-- The gateway can be started on the database, and what the two cells hold has passed the checks
of a start. -/
structure AdminState.Servable (P : Packages) (file : GatewayConfig) (s : AdminState) : Prop where
  tables : s.db.Sound P file
  catalog : s.shared.catalog.Valid P
  state : s.shared.state.Routed P

namespace CatalogSql

variable {P : Packages} {file : GatewayConfig} {db db' : CatalogDb} {t : CatalogTables}
  {unseen : DeploymentRow → Bool} {choice : StepChoice}

theorem write_sound {R : Type} {reply reply' : R} {f : CatalogTables → CatalogTables}
    (hf : (f db.toCatalogTables).Sound P file) (hw : db.write reply f = some (db', reply')) :
    db'.Sound P file := by
  unfold CatalogDb.write at hw
  split at hw
  · rename_i committed hcommit
    cases hw
    rw [(CatalogDb.commit_ok hcommit).1]
    exact hf
  · cases hw

theorem updateOne_sound {found : Bool} {reply : Unit} {f : CatalogTables → CatalogTables}
    (hf : (f db.toCatalogTables).Sound P file) (hw : db.updateOne found f = some (db', reply)) :
    db'.Sound P file := by
  unfold CatalogDb.updateOne at hw
  split at hw
  · exact write_sound hf hw
  · cases hw

/-- Provider rows that were there, or are sound themselves. -/
theorem sound_providers {rows : List ProviderConfig} (hv : t.Sound P file)
    (hrows : ∀ row ∈ rows, row ∈ t.providers ∨ row.Sound P file) :
    ({ t with providers := rows } : CatalogTables).Sound P file := by
  refine ⟨hv.rows.of_rows (fun _ h => .inl h) (fun row hrow => ?_) (fun row h => .inl ⟨row, h, rfl⟩)
    fun _ h => .inl h, fun row hrow => ?_⟩
  · exact (hrows row hrow).imp_right ProviderConfig.Sound.valid
  · exact (hrows row hrow).elim (hv.aliases row) ProviderConfig.Sound.aliases

theorem sound_pricing {rows : List PricingRecord} (hv : t.Sound P file)
    (hrows : ∀ row ∈ rows, row ∈ t.pricing ∨ row.config.Valid) :
    ({ t with pricing := rows } : CatalogTables).Sound P file :=
  ⟨hv.rows.of_rows hrows (fun _ h => .inl h) (fun row h => .inl ⟨row, h, rfl⟩) fun _ h => .inl h,
    hv.aliases⟩

theorem sound_models {rows : List ModelRow} (hv : t.Sound P file)
    (hrows : ∀ row ∈ rows, (∃ old ∈ t.models, old.name = row.name) ∨ Text.trim row.name ≠ "") :
    ({ t with models := rows } : CatalogTables).Sound P file :=
  ⟨hv.rows.of_rows (fun _ h => .inl h) (fun _ h => .inl h) hrows fun _ h => .inl h, hv.aliases⟩

theorem sound_deployments {rows : List DeploymentRow} (hv : t.Sound P file)
    (hrows : ∀ row ∈ rows, row ∈ t.deployments ∨ Text.trim row.upstreamModel ≠ "") :
    ({ t with deployments := rows } : CatalogTables).Sound P file :=
  ⟨hv.rows.of_rows (fun _ h => .inl h) (fun _ h => .inl h) (fun row h => .inl ⟨row, h, rfl⟩) hrows,
    hv.aliases⟩

/-- **A statement that writes a sound row.** -/
theorem run_sound {q : CatalogSql} {reply : q.Reply} (hq : q.Writes P file)
    (hv : db.Sound P file) (hrun : q.run unseen db = some (db', reply)) : db'.Sound P file := by
  cases q with
  | listProviders | findProvider | providerInUse | listPricing | findRule | findPricing
  | listModelRows | listDeploymentRows | findModel | findChain =>
    cases hrun
    exact hv
  | insertProvider provider =>
    refine write_sound (sound_providers hv fun row hrow => ?_) hrun
    rcases List.mem_append.1 hrow with hrow | hrow
    · exact .inl hrow
    · exact .inr (List.mem_singleton.1 hrow ▸ hq)
  | updateProvider provider =>
    refine updateOne_sound (sound_providers hv fun row hrow => ?_) hrun
    obtain ⟨old, hold, rfl⟩ := List.mem_map.1 hrow
    split
    · exact .inr hq
    · exact .inl hold
  | deleteProvider id =>
    exact write_sound
      (sound_providers hv fun row hrow => .inl (List.mem_filter.1 hrow).1) hrun
  | insertPricing id config =>
    obtain ⟨stored, hstored, hrun⟩ := Option.bind_eq_some_iff.1 hrun
    refine write_sound (sound_pricing hv fun row hrow => ?_) hrun
    rcases List.mem_append.1 hrow with hrow | hrow
    · exact .inl hrow
    · rw [List.mem_singleton.1 hrow]
      exact .inr (stored_valid hstored hq)
  | updatePricing id config =>
    obtain ⟨stored, hstored, hrun⟩ := Option.bind_eq_some_iff.1 hrun
    refine updateOne_sound (sound_pricing hv fun row hrow => ?_) hrun
    obtain ⟨old, hold, rfl⟩ := List.mem_map.1 hrow
    split
    · exact .inr (stored_valid hstored hq)
    · exact .inl hold
  | deletePricing id =>
    exact write_sound
      (sound_pricing hv fun row hrow => .inl (List.mem_filter.1 hrow).1) hrun
  | insertModel name now =>
    refine write_sound (sound_models hv fun row hrow => ?_) hrun
    rcases List.mem_append.1 hrow with hrow | hrow
    · exact .inl ⟨row, hrow, rfl⟩
    · rw [List.mem_singleton.1 hrow]
      exact .inr hq
  | updateStatus name enabled =>
    refine updateOne_sound (sound_models hv fun row hrow => ?_) hrun
    obtain ⟨old, hold, rfl⟩ := List.mem_map.1 hrow
    refine .inl ⟨old, hold, ?_⟩
    split <;> rfl
  | deleteModel name =>
    refine write_sound ⟨hv.rows.of_subset ?_ ?_ ?_ ?_, hv.aliases⟩ hrun
    exacts [List.Subset.refl _, List.Subset.refl _, List.filter_subset_self _,
      List.filter_subset_self _]
  | replaceDeployments name deployments =>
    simp only [run] at hrun
    split at hrun
    · refine write_sound (sound_deployments hv fun row hrow => ?_) hrun
      rcases List.mem_append.1 hrow with hrow | hrow
      · exact .inl (List.mem_filter.1 hrow).1
      · have hmem := (CatalogDb.mem_deploymentRows hrow).2
        exact .inr (hq (row.providerId, row.upstreamModel) hmem)
    · cases hrun
      exact hv

/-- A statement that has failed did nothing, or what it does. -/
theorem exec_cases (q : CatalogSql) (choice : StepChoice) (db : CatalogDb) :
    q.exec choice db = (db, none) ∨ ∃ db' reply, q.run choice.unseen db = some (db', reply) ∧
      (q.exec choice db = (db', some reply) ∨ q.exec choice db = (db', none)) := by
  unfold exec
  cases hrun : q.run choice.unseen db with
  | none => exact .inl (by cases choice.ending <;> rfl)
  | some out =>
    cases hending : choice.ending with
    | answered => exact .inr ⟨out.1, out.2, rfl, .inl rfl⟩
    | lost => exact .inr ⟨out.1, out.2, rfl, .inr rfl⟩
    | fails => exact .inl rfl

theorem exec_sound {q : CatalogSql} (hq : q.Writes P file) (hv : db.Sound P file) :
    (q.exec choice db).1.Sound P file := by
  rcases exec_cases q choice db with hexec | ⟨db', reply, hrun, hexec⟩
  · rw [hexec]
    exact hv
  · have hv' := run_sound hq hv hrun
    rcases hexec with hexec | hexec <;> rwa [hexec]

/-- A provider that was found. -/
theorem findProvider_reply {id : String} {provider : ProviderConfig} (hv : db.RowsValid P)
    (hreply : ((findProvider id).exec choice db).2 = some (some provider)) :
    provider.Valid P ∧ provider.id = id := by
  rcases exec_cases (findProvider id) choice db with hexec | ⟨db', reply, hrun, hexec | hexec⟩
  · rw [hexec] at hreply
    cases hreply
  · cases hrun
    rw [hexec, Option.some.injEq] at hreply
    obtain ⟨hmem, hid⟩ := CatalogDb.getProvider_some hreply
    exact ⟨hv.providers _ hmem, hid⟩
  · rw [hexec] at hreply
    cases hreply

end CatalogSql

/-- **A step that writes what is valid.** -/
theorem CatalogStep.exec_servable {P : Packages} {file : GatewayConfig} {s : AdminState}
    {q : CatalogStep} {choice : StepChoice} (hq : q.Writes P file) (h : s.Servable P file) :
    (q.exec choice s).1.Servable P file := by
  cases q with
  | sql q => exact ⟨CatalogSql.exec_sound hq h.tables, h.catalog, h.state⟩
  | readFile | loadState => exact h
  | storeCatalog catalog => exact ⟨h.tables, hq, h.state⟩
  | storeState next => exact ⟨h.tables, h.catalog, hq⟩

/-! ## Handlers -/

namespace CatalogThread

variable {P : Packages} {file : GatewayConfig} {R R' : Type}

/-- A program that writes what is valid. -/
abbrev Safe (P : Packages) (file : GatewayConfig) (p : CatalogProgram R) (post : R → Prop) : Prop :=
  p.Safe CatalogStep.exec (AdminState.Servable P file) post

theorem safe_step {q : CatalogStep} {k : q.Answer → CatalogProgram R} {post : R → Prop}
    (hq : q.Writes P file) (hk : ∀ answer, Safe P file (k answer) post) :
    Safe P file (Program.query q >>= k) post :=
  fun _ _ h => ⟨CatalogStep.exec_servable hq h, hk _⟩

theorem safe_query {q : CatalogSql} {k : Option q.Reply → CatalogProgram R} {post : R → Prop}
    (hq : q.Writes P file) (hk : ∀ reply, Safe P file (k reply) post) :
    Safe P file (query q >>= k) post :=
  safe_step (q := .sql q) hq hk

namespace Store

theorem listModels_safe : Safe P file listModels fun _ => True := by
  refine safe_query trivial fun models => ?_
  split
  · refine safe_query trivial fun deployments => ?_
    split <;> exact trivial
  · exact trivial

theorem snapshot_safe : Safe P file snapshot fun _ => True := by
  refine safe_query trivial fun providers => ?_
  split
  · refine safe_query trivial fun pricing => ?_
    split
    · refine listModels_safe.bind fun models _ => ?_
      split <;> exact trivial
    · exact trivial
  · exact trivial

theorem upsertProvider_safe {provider : ProviderConfig} (isNew : Bool) (h : provider.Sound P file) :
    Safe P file (upsertProvider provider isNew) fun _ => True := by
  refine safe_query trivial fun existing => ?_
  split
  · split
    · exact trivial
    · split
      · exact safe_query h fun _ => trivial
      · exact safe_query h fun _ => trivial
  · exact trivial

theorem createPricing_safe {config : PricingConfig} (id : Uuid) (h : config.Valid) :
    Safe P file (createPricing id config) fun _ => True := by
  refine safe_query trivial fun taken => ?_
  split
  · split
    · exact trivial
    · exact safe_query h fun _ => trivial
  · exact trivial

theorem collides_safe (row : PricingRecord) (config : PricingConfig) :
    Safe P file (collides row config) fun _ => True := by
  unfold collides
  split
  · exact safe_query trivial fun _ => trivial
  · exact trivial

theorem updatePricing_safe {config : PricingConfig} (id : Uuid) (h : config.Valid) :
    Safe P file (updatePricing id config) fun _ => True := by
  refine safe_query trivial fun found => ?_
  split
  · split
    · exact trivial
    · refine (collides_safe _ config).bind fun taken _ => ?_
      split
      · exact trivial
      · exact trivial
      · exact safe_query h fun _ => trivial
  · exact trivial

theorem getModel_safe (name : String) : Safe P file (getModel name) fun _ => True := by
  refine safe_query trivial fun found => ?_
  split
  · split
    · exact safe_query trivial fun _ => trivial
    · exact trivial
  · exact trivial

theorem createModel_safe {name : String} (now : DateTime) (h : Text.trim name ≠ "") :
    Safe P file (createModel name now) fun _ => True := by
  refine safe_query trivial fun found => ?_
  split
  · split
    · exact trivial
    · exact safe_query h fun _ => trivial
  · exact trivial

theorem setModelStatus_safe (name : String) (enabled : Bool) :
    Safe P file (setModelStatus name enabled) fun _ => True := by
  refine safe_query trivial fun found => ?_
  split
  · split
    · exact safe_query trivial fun _ => trivial
    · exact trivial
  · exact trivial

theorem setDeployments_safe (name : String) {deployments : List (String × String)}
    (h : ∀ deployment ∈ deployments, Text.trim deployment.2 ≠ "") :
    Safe P file (setDeployments name deployments) fun _ => True := by
  unfold setDeployments
  split
  · exact trivial
  · exact safe_query h fun _ => trivial

end Store

/-- A built provider is sound when the request writes what a start accepts. -/
theorem buildProvider_sound {id : String} {body : Admin.ProviderBody} {currentKey : Option String}
    {provider : ProviderConfig} (hid : Text.trim id ≠ "") (hurl : IsBaseUrl P body.baseUrl)
    (hnames : file.Routes id → AliasesNamed body.modelAliases)
    (h : Admin.buildProvider id body currentKey = .ok provider) : provider.Sound P file := by
  refine ⟨(buildProvider_valid hid h).2 hurl, ?_⟩
  obtain ⟨hid', -, haliases, -⟩ := buildProvider_ok h
  rwa [hid', haliases]

theorem createProvider_safe {body : Admin.CreateProviderBody}
    (hurl : IsBaseUrl P body.fields.baseUrl)
    (hnames : file.Routes (Text.trim body.id) → AliasesNamed body.fields.modelAliases) :
    Safe P file (createProvider body) fun _ => True := by
  unfold createProvider
  dsimp only
  split
  · exact trivial
  · rename_i hid
    split
    · exact trivial
    · rename_i provider hprovider
      have hsound := buildProvider_sound (by rwa [Text.trim_trim]) hurl hnames hprovider
      refine (Store.upsertProvider_safe true hsound).bind fun result _ => ?_
      split <;> exact trivial

/-- The id of the path is that of a row that was there when the handler looked. -/
theorem updateProvider_safe (id : String) {fields : Admin.ProviderBody}
    (hurl : IsBaseUrl P fields.baseUrl)
    (hnames : file.Routes id → AliasesNamed fields.modelAliases) :
    Safe P file (updateProvider id fields) fun _ => True := by
  intro choice s h
  refine ⟨CatalogStep.exec_servable (q := .sql (.findProvider id)) trivial h, ?_⟩
  have hanswer (current : ProviderConfig)
      (hreply : (CatalogStep.exec (.sql (.findProvider id)) choice s).2 = some (some current)) :=
    CatalogSql.findProvider_reply h.tables.rows hreply
  generalize (CatalogStep.exec (.sql (.findProvider id)) choice s).2 = found at hanswer ⊢
  rcases found with _ | _ | current
  · exact trivial
  · exact trivial
  · obtain ⟨hcurrent, rfl⟩ := hanswer current rfl
    dsimp only [Program.bind]
    split
    · exact trivial
    · rename_i provider hprovider
      have hsound := buildProvider_sound hcurrent.id hurl hnames hprovider
      refine (Store.upsertProvider_safe false hsound).bind fun result _ => ?_
      split <;> exact trivial

theorem deleteProvider_safe (id : String) : Safe P file (deleteProvider id) fun _ => True := by
  refine safe_query trivial fun used => ?_
  split
  · exact trivial
  · exact trivial
  · exact safe_query trivial fun _ => trivial

theorem ensurePricingGate_safe (mutate : List PricingRecord → List PricingRecord) :
    Safe P file (ensurePricingGate mutate) fun _ => True := by
  refine safe_query trivial fun rules => ?_
  split
  · refine Store.listModels_safe.bind fun models _ => ?_
    split
    · exact trivial
    · dsimp only
      split <;> exact trivial
  · exact trivial

theorem createPricing_safe (body : Admin.PricingBody) (newId : Uuid) :
    Safe P file (createPricing P body newId) fun _ => True := by
  unfold createPricing
  split
  · exact trivial
  · rename_i config hconfig
    refine (Store.createPricing_safe newId (buildPricing_valid hconfig)).bind fun result _ => ?_
    split <;> exact trivial

theorem updatePricing_safe (id : Uuid) (body : Admin.PricingBody) :
    Safe P file (updatePricing P id body) fun _ => True := by
  unfold updatePricing
  split
  · exact trivial
  · rename_i config hconfig
    refine (ensurePricingGate_safe _).bind fun gate _ => ?_
    split
    · exact trivial
    · refine (Store.updatePricing_safe id (buildPricing_valid hconfig)).bind fun result _ => ?_
      split <;> exact trivial

theorem deletePricing_safe (id : Uuid) : Safe P file (deletePricing id) fun _ => True := by
  refine (ensurePricingGate_safe _).bind fun gate _ => ?_
  split
  · exact trivial
  · exact safe_query trivial fun _ => trivial

theorem validateDeployments_safe (deployments : List Admin.DeploymentBody) :
    Safe P file (validateDeployments deployments) fun result => ∀ resolved, result = .ok resolved →
      ∀ deployment ∈ resolved, Text.trim deployment.2 ≠ "" := by
  refine safe_query trivial fun providers => ?_
  split
  · exact fun resolved h => validateDeployments_ok h
  · intro resolved h
    cases h

theorem ensureListable_safe (name : String) (deployments : List (String × String))
    (now : DateTime) : Safe P file (ensureListable name deployments now) fun _ => True := by
  unfold ensureListable
  split
  · exact trivial
  · refine safe_query trivial fun rules => ?_
    split
    · dsimp only
      split <;> exact trivial
    · exact trivial

theorem ensureListableIf_safe (enabled : Bool) (name : String)
    (deployments : List (String × String)) (now : DateTime) :
    Safe P file (ensureListableIf enabled name deployments now) fun _ => True := by
  unfold ensureListableIf
  split
  · exact ensureListable_safe name deployments now
  · exact trivial

theorem enableIf_safe (enabled : Bool) (name : String) :
    Safe P file (enableIf enabled name) fun _ => True := by
  unfold enableIf
  split
  · refine (Store.setModelStatus_safe name true).bind fun result _ => ?_
    split <;> exact trivial
  · exact trivial

theorem createModel_safe (body : Admin.CreateModelBody) (now : DateTime) :
    Safe P file (createModel body now) fun _ => True := by
  unfold createModel
  dsimp only
  split
  · exact trivial
  · rename_i hname
    have htrim : Text.trim (Text.trim body.name) ≠ "" := by
      rw [Text.trim_trim]
      exact fun h => hname (.inl h)
    refine (validateDeployments_safe body.deployments).bind fun checked hchecked => ?_
    split
    · exact trivial
    · rename_i deployments
      have hdeployments := hchecked deployments rfl
      refine (ensureListableIf_safe body.enabled _ deployments now).bind fun gate _ => ?_
      split
      · exact trivial
      · refine (Store.createModel_safe now htrim).bind fun created _ => ?_
        split
        · exact trivial
        · refine (Store.setDeployments_safe _ hdeployments).bind fun saved _ => ?_
          split
          · exact trivial
          · exact enableIf_safe body.enabled _

theorem updateModel_safe (name : String) (body : Admin.UpdateModelBody) (now : DateTime) :
    Safe P file (updateModel name body now) fun _ => True := by
  refine (Store.getModel_safe name).bind fun found _ => ?_
  split
  · refine (validateDeployments_safe body.deployments).bind fun checked hchecked => ?_
    split
    · exact trivial
    · rename_i deployments
      have hdeployments := hchecked deployments rfl
      refine (ensureListableIf_safe body.enabled name deployments now).bind fun gate _ => ?_
      split
      · exact trivial
      · refine (Store.setDeployments_safe name hdeployments).bind fun saved _ => ?_
        split
        · exact trivial
        · refine (Store.setModelStatus_safe name body.enabled).bind fun updated _ => ?_
          split <;> exact trivial
  · exact trivial

theorem run_safe {request : CatalogRequest} (hurl : request.HasBaseUrl P)
    (hnames : request.NamesAliases file) : Safe P file (run P request) fun _ => True := by
  cases request with
  | createProvider body => exact createProvider_safe hurl hnames
  | updateProvider id fields => exact updateProvider_safe id hurl hnames
  | deleteProvider id => exact deleteProvider_safe id
  | createPricing body newId => exact createPricing_safe body newId
  | updatePricing id body => exact updatePricing_safe id body
  | deletePricing id => exact deletePricing_safe id
  | createModel body now => exact createModel_safe body now
  | updateModel name body now => exact updateModel_safe name body now
  | deleteModel name => exact safe_query trivial fun _ => trivial

/-- `from_parts` checks a catalog, wherever it comes from, before a cell is stored. -/
theorem storeCatalog_safe (catalog : CatalogSnapshot) :
    Safe P file (storeCatalog P catalog) fun _ => True := by
  refine safe_step trivial fun file => ?_
  split
  · exact trivial
  · rename_i config
    refine safe_step trivial fun current => ?_
    split
    · exact trivial
    · rename_i next hnext
      obtain ⟨hcatalog, hretry, rfl⟩ := (rebuild_ok current).1 hnext
      exact safe_step hcatalog fun _ =>
        safe_step ⟨catalog, config.retry, hcatalog, hretry, rfl⟩ fun _ => trivial

theorem refreshAndRespond_safe (status : Nat) :
    Safe P file (refreshAndRespond P status) fun _ => True := by
  have hrefresh : Safe P file (refreshCatalog P) fun _ => True := by
    refine Store.snapshot_safe.bind fun snapshot _ => ?_
    split
    · exact trivial
    · exact storeCatalog_safe _
  refine hrefresh.bind fun result _ => ?_
  split <;> exact trivial

/-- **Every handler is safe**, whatever the others write in between. -/
theorem handle_safe {call : CatalogCall} (hurl : call.request.HasBaseUrl P)
    (hnames : call.request.NamesAliases file) : Safe P file (handle P call) fun _ => True := by
  unfold handle
  split
  · exact trivial
  · refine (run_safe hurl hnames).bind fun result _ => ?_
    split
    · exact trivial
    · exact refreshAndRespond_safe _

end CatalogThread

/-! ## Interleavings -/

namespace AdminState

variable {P : Packages} {file : GatewayConfig} {s : AdminState}

theorem Servable.of_boot {config : GatewayConfig} {draw : BootDraw} {db : CatalogDb}
    {accounts : GatewayState} (h : boot P config draw db accounts = .ok s)
    (haliases : file.RoutedNamed s.db.providers) : s.Servable P file := by
  obtain ⟨-, hv, hretry, hshared⟩ := boot_ok.1 h
  have hcatalog := CatalogDb.snapshot_valid.2 hv
  refine ⟨⟨hv, haliases⟩, by rwa [hshared], s.db.snapshot, config.retry, hcatalog, hretry, ?_⟩
  rw [hshared]
  rfl

theorem Servable.startable (h : s.Servable P file) : s.db.Startable P file :=
  ⟨h.tables.rows, fun _ => h.tables.aliases⟩

end AdminState

/-- **Calls at the same time keep the gateway servable.** -/
theorem CatalogThreads.servable {ι : Type} [DecidableEq ι] {P : Packages} {file : GatewayConfig}
    {s : AdminState} {calls : ι → CatalogCall} {tr : List (ι × StepChoice)} {v : CatalogThreads ι}
    (h0 : s.Servable P file) (hurl : ∀ i, (calls i).request.HasBaseUrl P)
    (hnames : ∀ i, (calls i).request.NamesAliases file)
    (h : Steps CatalogThreads.step (CatalogThreads.init P s calls) tr v) :
    v.state.Servable P file := by
  have hsafe : System.Safe CatalogStep.exec (AdminState.Servable P file) (fun _ _ => True)
      (CatalogThreads.init P s calls) :=
    ⟨h0, fun i => CatalogThread.handle_safe (hurl i) (hnames i)⟩
  exact (hsafe.run h).state

/-- **Requests that run at the same time leave a gateway that can be restarted.** The file of the
next start starts a gateway on an empty database, the calls write base URLs with scheme and host,
and neither the boot nor a call has left a provider that a route of the file lists with a blank
alias. However the steps of the calls interleave, and whichever of their statements fail or lose
their reply, the gateway can be started on the database at every moment, imports included, and both
cells hold what passes the checks of a start. -/
theorem interleaved_can_restart {ι : Type} [DecidableEq ι] {P : Packages}
    {config file : GatewayConfig} {draw : BootDraw} {db : CatalogDb} {accounts : GatewayState}
    {s : AdminState} {calls : ι → CatalogCall} {tr : List (ι × StepChoice)} {v : CatalogThreads ι}
    (hfile : file.Loads P) (h0 : AdminState.boot P config draw db accounts = .ok s)
    (haliases : file.RoutedNamed s.db.providers)
    (hurl : ∀ i, (calls i).request.HasBaseUrl P)
    (hnames : ∀ i, (calls i).request.NamesAliases file)
    (h : Steps CatalogThreads.step (CatalogThreads.init P s calls) tr v) :
    (∀ draw' accounts', ∃ s', AdminState.boot P file draw' v.state.db accounts' = .ok s') ∧
    v.state.shared.catalog.Valid P ∧ v.state.shared.state.Routed P := by
  have hv := CatalogThreads.servable (.of_boot h0 haliases) hurl hnames h
  exact ⟨fun draw' accounts' => (boot_iff hfile draw' accounts').2 hv.startable, hv.catalog,
    hv.state⟩

/-! ## Two calls -/

/-- The next step of a call, with an empty config file. -/
def nextStep (i : Bool) : Bool × StepChoice := (i, { file := .ok {} })

/-- Its statement is done and the reply lost. -/
def lostStep (i : Bool) : Bool × StepChoice := (i, { ending := .lost, file := .ok {} })

/-- A provider that serves `n` as `y`, and a model on it. -/
def providerAndModel : Bool → CatalogCall
  | false => ⟨catalogAdmin, .createProvider
      { id := "p", fields :=
        { protocol := "openai", baseUrl := "https://a", apiKey := "k",
          modelAliases := [("n", "y")] } }⟩
  | true => draftModel.1

/-- The model is saved between the reads of the first call's refresh, and the last reply of its
call is lost. -/
def savedInRefresh : List (Bool × StepChoice) :=
  [nextStep false, nextStep false, nextStep true, nextStep false, nextStep false, nextStep true,
    nextStep true, nextStep false, nextStep false, lostStep true, nextStep false, nextStep false,
    nextStep false, nextStep false]

theorem interleaved_can_restart_sample : ∃ v,
    exec CatalogThreads.step (.init catalogPackages startedState providerAndModel) savedInRefresh =
      some v ∧
    v.thread true = .done (.error (.internal "failed to save deployments")) ∧
    v.state.db.chain "m" = [⟨"p", "x"⟩] ∧
    (∀ draw' accounts', ∃ s',
      AdminState.boot catalogPackages routedConfig draw' v.state.db accounts' = .ok s') ∧
    v.state.shared.catalog.Valid catalogPackages ∧
    v.state.shared.state.Routed catalogPackages := by
  have hurl : ∀ i, (providerAndModel i).request.HasBaseUrl catalogPackages
    | false => ⟨_, rfl, rfl, rfl⟩
    | true => trivial
  have hnames : ∀ i, (providerAndModel i).request.NamesAliases routedConfig
    | false => fun _ => aliasesNamed_of_forall (by decide +kernel)
    | true => trivial
  have haliases : routedConfig.RoutedNamed startedState.db.providers :=
    fun _ hp => absurd hp List.not_mem_nil
  exact ⟨_, rfl, rfl, by decide +kernel,
    @interleaved_can_restart Bool _ catalogPackages {} routedConfig countingDraw emptyDb noAccounts
      startedState providerAndModel savedInRefresh _ routedConfig_loads startedState_boot haliases
      hurl hnames (steps_of_exec rfl)⟩

/-- A model is listed on the wildcard rule while the rule is narrowed to another model. -/
def listedWhileNarrowed : Bool → CatalogCall
  | false => ⟨catalogAdmin, .createModel
      { name := "n", deployments := [⟨"p", "y"⟩], enabled := true } 0⟩
  | true => ⟨catalogAdmin, .updatePricing 0
      { provider := "p", model := "x", inputPer1m := "1", outputPer1m := "1", currency := "USD" }⟩

/-- Both gates pass: each has read what the other has not written yet. -/
theorem listing_gate_crossed : ∃ tr v,
    Steps CatalogThreads.step (.init catalogPackages importedState listedWhileNarrowed) tr v ∧
    v.thread false = .done (.ok 201 none) ∧ v.thread true = .done (.ok 200 none) ∧
    ¬ v.state.db.Listed := by
  refine ⟨List.replicate 2 (nextStep false) ++ List.replicate 14 (nextStep true) ++
    List.replicate 13 (nextStep false), _, steps_of_exec rfl, rfl, rfl, ?_⟩
  unfold CatalogDb.Listed
  decide +kernel

end LiteAgentify
