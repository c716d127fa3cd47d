import LiteAgentify.Proof.Bootable
import LiteAgentify.Proof.Migration
import LiteAgentify.Proof.Reload
import LiteAgentify.Proof.Startup

/-!
# The next start

A start imports before it checks: the sections of the file fill the tables that are empty, and when
there is no model the aliases of the providers that the routes list become models (`Imports`). So
what it checks are the stored rows, the sections of the file and these aliases (`boot_iff`). The
handlers check no alias. A successful call keeps the gateway bootable exactly when a base URL that
it writes has scheme and host and it leaves no blank alias that the next start makes a model of
(`effect_startable`).
-/

set_option autoImplicit false

namespace LiteAgentify

open Keyed

/-! ## Aliases that a start reads -/

/-- A route of the file lists the provider. -/
def GatewayConfig.Routes (config : GatewayConfig) (providerId : String) : Prop :=
  ∃ route ∈ config.routes, providerId ∈ route.providers

/-- No public name and no upstream model of the map is blank. -/
def AliasesNamed (aliases : List (String × String)) : Prop :=
  ∀ name upstream, aliases.lookup name = some upstream →
    Text.trim name ≠ "" ∧ Text.trim upstream ≠ ""

theorem aliasesNamed_of_forall {aliases : List (String × String)}
    (h : ∀ entry ∈ aliases, Text.trim entry.1 ≠ "" ∧ Text.trim entry.2 ≠ "") :
    AliasesNamed aliases := by
  intro name upstream halias
  obtain ⟨before, after, rfl, -⟩ := List.lookup_eq_some_iff.1 halias
  exact h (name, upstream) (by simp)

/-- The providers that a route lists have named aliases. -/
def GatewayConfig.RoutedNamed (config : GatewayConfig) (providers : List ProviderConfig) : Prop :=
  ∀ provider ∈ providers, config.Routes provider.id → AliasesNamed provider.modelAliases

/-- What a start asks of the stored rows, the sections of the file being valid. -/
structure CatalogDb.Startable (P : Packages) (config : GatewayConfig) (db : CatalogDb) : Prop where
  rows : db.RowsValid P
  aliases : db.models = [] → config.RoutedNamed db.providers

/-- The sections of a file that starts a gateway on empty tables. -/
structure GatewayConfig.ValidSections (P : Packages) (config : GatewayConfig) : Prop where
  importable : config.Importable
  retry : config.retry.Valid
  providers : ∀ provider ∈ config.providers, provider.Valid P
  pricing : ∀ entry ∈ config.pricing, ∀ stored, entry.stored = some stored → stored.Valid
  aliases : config.RoutedNamed config.providers

/-- The file starts a gateway on an empty database. -/
def GatewayConfig.Loads (P : Packages) (config : GatewayConfig) : Prop :=
  ∃ draw collation accounts s, AdminState.boot P config draw (.empty collation) accounts = .ok s

section
variable {P : Packages} {config : GatewayConfig} {draw : BootDraw} {db db' : CatalogDb}

/-- What the migration makes of named aliases passes the checks of a start. -/
theorem IsMigration.named_iff (h : IsMigration db config.routes db') :
    ((∀ row ∈ db'.models, Text.trim row.name ≠ "") ∧
      ∀ row ∈ db'.deployments, Text.trim row.upstreamModel ≠ "") ↔
      config.RoutedNamed db.providers := by
  have hchain : ∀ provider ∈ db.providers, ∀ name upstream,
      (provider.id, upstream) ∈ referenceChain db config.routes name ↔
        config.Routes provider.id ∧ provider.modelAliases.lookup name = some upstream := by
    intro provider hp name upstream
    rw [mem_referenceChain, CatalogDb.aliasOf, CatalogDb.getProvider_of_mem hp]
    rfl
  constructor
  · rintro ⟨hmodels, hdeployments⟩ provider hp hroutes name upstream halias
    have hmem := (hchain provider hp name upstream).2 ⟨hroutes, halias⟩
    constructor
    · have hname : name ∈ db'.models.map ModelRow.name := by
        rw [h.models, ← referenceChain_ne_nil]
        exact List.ne_nil_of_mem hmem
      obtain ⟨row, hrow, rfl⟩ := List.mem_map.1 hname
      exact hmodels row hrow
    · obtain ⟨row, hrow, -, rfl⟩ := CatalogDb.exists_deploymentRow name hmem
      rw [← h.rows, List.mem_filter] at hrow
      exact hdeployments row hrow.1
  · intro hnamed
    -- a deployment of a model is an alias of some provider that a route lists
    have hall : ∀ name, ∀ d ∈ referenceChain db config.routes name,
        Text.trim name ≠ "" ∧ Text.trim d.2 ≠ "" := by
      rintro name ⟨id, upstream⟩ hd
      obtain ⟨hroutes, halias⟩ := (mem_referenceChain ..).1 hd
      obtain ⟨provider, hget, -⟩ := Option.bind_eq_some_iff.1 halias
      obtain ⟨hp, rfl⟩ := CatalogDb.getProvider_some hget
      exact hnamed provider hp hroutes name upstream ((hchain provider hp name upstream).1 hd).2
    refine ⟨fun row hrow => ?_, fun row hrow => ?_⟩
    · have hne := (referenceChain_ne_nil config.routes row.name).2
        ((h.models row.name).1 (List.mem_map_of_mem hrow))
      obtain ⟨d, hd⟩ := List.exists_mem_of_ne_nil _ hne
      exact (hall row.name d hd).1
    · have hmem := (CatalogDb.mem_deploymentRows ((h.mem_deployments row).1 hrow)).2
      exact (hall row.modelName _ hmem).2

/-! ## What an import leaves -/

/-- What an import makes of the tables. -/
structure Imports (config : GatewayConfig) (db db' : CatalogDb) : Prop where
  providers : db.providers = [] → db'.providers = config.providers
  keptProviders : db.providers ≠ [] → db'.providers = db.providers
  pricing : db.pricing = [] → List.Forall₂
    (fun entry row => entry.stored = some (PricingRecord.config row)) config.pricing db'.pricing
  keptPricing : db.pricing ≠ [] → db'.pricing = db.pricing
  models : db.models = [] → ∃ before : CatalogDb, before.providers = db'.providers ∧
    IsMigration before config.routes db'
  keptModels : db.models ≠ [] → db'.models = db.models ∧ db'.deployments = db.deployments

theorem importOnce_imports (h : db.importOnce config draw.newId draw.now = .ok db') :
    Imports config db db' := by
  obtain ⟨a, b, ha, hb, hd⟩ := importOnce_calls.1 h
  have hframe := fun {st : ImportStage} {u v : CatalogDb}
    (h : (st.calls config draw u).foldlM ImportCall.exec u = .ok v) =>
      (exec_calls_frame (fun _ => ImportStage.stage_of_mem_calls) h).2
  have hkept : ∀ stage : ImportStage, ¬ stage.Empty db → stage.Untouched db' db :=
    fun _ => importOnce_keeps h
  refine ⟨fun hempty => ?_, hkept .providers, fun hempty => ?_, hkept .pricing,
    fun hempty => ?_, hkept .models⟩
  · have hcount : db.providerCount = 0 := List.length_eq_zero_iff.2 hempty
    rw [ImportStage.calls, if_pos hcount] at ha
    have hrows := upsertProviders_ok ha
    rw [hempty, List.nil_append] at hrows
    have hlater : db'.providers = a.providers :=
      (hframe hd .providers (by decide)).trans (hframe hb .providers (by decide))
    exact hlater.trans hrows
  · have hempty : a.pricing = [] := Eq.trans (hframe ha .pricing (by decide)) hempty
    have hcount : a.pricingCount = 0 := List.length_eq_zero_iff.2 hempty
    rw [ImportStage.calls, if_pos hcount] at hb
    obtain ⟨rows, hrows, hpricing⟩ := createPricings_ok hb
    rw [hempty, List.nil_append] at hpricing
    have hlast : db'.pricing = rows := Eq.trans (hframe hd .pricing (by decide)) hpricing
    rw [hlast, ← List.zipIdx_map_fst 0 config.pricing]
    exact List.forall₂_map_left_iff.2 hrows
  · have hempty : b.models = [] :=
      ((hframe hb .models (by decide)).1.trans (hframe ha .models (by decide)).1).trans hempty
    obtain ⟨later, hlater, hmigration⟩ := migrateRoutesOnce_isMigration config draw.now hempty
    rw [migrateRoutesOnce_calls, hd] at hlater
    cases hlater
    exact ⟨b, hmigration.providers.symm, hmigration⟩

/-- **The import succeeds** on any tables when it does on empty ones. -/
theorem importOnce_of_importable (h : config.Importable) (draw : BootDraw) (db : CatalogDb) :
    ∃ db', db.importOnce config draw.newId draw.now = .ok db' := by
  obtain ⟨full, hfull, hcol⟩ := exists_isImport h db.collation
  have hproviders : ∃ a, (ImportStage.calls config draw db .providers).foldlM ImportCall.exec db =
      .ok a := by
    by_cases hempty : ImportStage.Empty db .providers
    · obtain ⟨a, ha, -⟩ :=
        (hfull.fills draw hcol.symm hempty (by simp [ImportStage.earlier])).exec
      exact ⟨a, ha⟩
    · exact ⟨db, by rw [ImportStage.calls_of_not_empty hempty]; rfl⟩
  obtain ⟨a, ha⟩ := hproviders
  have hpricing : ∃ b, (ImportStage.calls config draw a .pricing).foldlM ImportCall.exec a =
      .ok b := by
    by_cases hempty : ImportStage.Empty a .pricing
    · have hnone : a.pricing = [] := hempty
      have hcount : a.pricingCount = 0 := List.length_eq_zero_iff.2 hnone
      have hrows : a.pricing.map PricingRecord.config ++ full.pricing.map PricingRecord.config =
          full.pricing.map PricingRecord.config := by rw [hnone]; rfl
      have hids : a.pricing.map PricingRecord.id = (List.range 0).map draw.newId := by
        rw [hnone]
        rfl
      obtain ⟨b, hb, -⟩ := (fills_pricing hfull.pricing 0 a hrows hids).exec
      exact ⟨b, by rw [ImportStage.calls, if_pos hcount]; exact hb⟩
    · exact ⟨a, by rw [ImportStage.calls_of_not_empty hempty]; rfl⟩
  obtain ⟨b, hb⟩ := hpricing
  have hmodels : ∃ db', (ImportStage.calls config draw b .models).foldlM ImportCall.exec b =
      .ok db' := by
    by_cases hempty : ImportStage.Empty b .models
    · obtain ⟨db', hdb', -⟩ := migrateRoutesOnce_isMigration config draw.now hempty
      exact ⟨db', (migrateRoutesOnce_calls draw b).symm.trans hdb'⟩
    · exact ⟨b, by rw [ImportStage.calls_of_not_empty hempty]; rfl⟩
  obtain ⟨db', hd⟩ := hmodels
  exact ⟨db', importOnce_calls.2 ⟨a, b, ha, hb, hd⟩⟩

theorem exists_of_forall₂ {R S : Type} {r : R → S → Prop} {xs : List R} {ys : List S}
    (h : List.Forall₂ r xs ys) {x : R} (hx : x ∈ xs) : ∃ y ∈ ys, r x y := by
  induction h with
  | nil => cases hx
  | @cons first y xs ys hfirst _ ih =>
    rcases List.mem_cons.1 hx with rfl | hx
    · exact ⟨y, List.mem_cons_self, hfirst⟩
    · obtain ⟨y', hy', hr⟩ := ih hx
      exact ⟨y', List.mem_cons_of_mem _ hy', hr⟩

namespace Imports

/-- The aliases that became models were named. -/
theorem routedNamed (h : Imports config db db') (hv : db'.RowsValid P) (hempty : db.models = []) :
    config.RoutedNamed db'.providers := by
  obtain ⟨before, hproviders, hmigration⟩ := h.models hempty
  exact hproviders ▸ hmigration.named_iff.1 ⟨hv.modelNames, hv.upstreamModels⟩

/-- Valid rows after an import were valid before it. -/
theorem startable_before (h : Imports config db db') (hv : db'.RowsValid P) :
    db.Startable P config := by
  refine ⟨⟨fun row hrow => ?_, fun provider hp => ?_, fun row hrow => ?_, fun row hrow => ?_⟩,
    fun hempty provider hp => ?_⟩
  · exact hv.pricing row (h.keptPricing (List.ne_nil_of_mem hrow) ▸ hrow)
  · exact hv.providers provider (h.keptProviders (List.ne_nil_of_mem hp) ▸ hp)
  · exact hv.modelNames row ((h.keptModels (List.ne_nil_of_mem hrow)).1 ▸ hrow)
  · -- a deployment is that of a model
    obtain ⟨model, hmodel, -⟩ := List.mem_map.1 (db.constraints.deploymentModels row hrow)
    exact hv.upstreamModels row ((h.keptModels (List.ne_nil_of_mem hmodel)).2 ▸ hrow)
  · have hnamed := h.routedNamed hv hempty
    rw [h.keptProviders (List.ne_nil_of_mem hp)] at hnamed
    exact hnamed provider hp

/-- The database after a start is one that the next start succeeds on. -/
theorem startable_after (h : Imports config db db') (hv : db'.RowsValid P) :
    db'.Startable P config := by
  refine ⟨hv, fun hempty => h.routedNamed hv ?_⟩
  by_contra hne
  exact hne ((h.keptModels hne).1 ▸ hempty)

theorem rowsValid (h : Imports config db db') (hs : config.ValidSections P)
    (hv : db.Startable P config) : db'.RowsValid P := by
  have hproviders : ∀ provider ∈ db'.providers, provider.Valid P := by
    intro provider hp
    by_cases hempty : db.providers = []
    · exact hs.providers provider (h.providers hempty ▸ hp)
    · exact hv.rows.providers provider (h.keptProviders hempty ▸ hp)
  have hpricing : ∀ row ∈ db'.pricing, row.config.Valid := by
    intro row hrow
    by_cases hempty : db.pricing = []
    · obtain ⟨entry, hentry, hstored⟩ := exists_of_forall₂ (h.pricing hempty).flip hrow
      exact hs.pricing entry hentry _ hstored
    · exact hv.rows.pricing row (h.keptPricing hempty ▸ hrow)
  by_cases hempty : db.models = []
  · obtain ⟨before, hbefore, hmigration⟩ := h.models hempty
    have hnamed : config.RoutedNamed before.providers := by
      rw [hbefore]
      by_cases hnone : db.providers = []
      · exact h.providers hnone ▸ hs.aliases
      · exact h.keptProviders hnone ▸ hv.aliases hempty
    obtain ⟨hmodels, hdeployments⟩ := hmigration.named_iff.2 hnamed
    exact ⟨hpricing, hproviders, hmodels, hdeployments⟩
  · obtain ⟨hmodels, hdeployments⟩ := h.keptModels hempty
    exact ⟨hpricing, hproviders, hmodels ▸ hv.rows.modelNames,
      hdeployments ▸ hv.rows.upstreamModels⟩

end Imports

/-! ## Which starts succeed -/

theorem mapError_ok {E E' R : Type} {f : E → E'} {x : Except E R} {r : R} :
    x.mapError f = .ok r ↔ x = .ok r := by
  cases x with
  | error e => exact iff_of_false nofun nofun
  | ok r' =>
    rw [Except.mapError, Except.ok.injEq, Except.ok.injEq]

namespace AdminState

variable {accounts : GatewayState} {s : AdminState}

theorem boot_ok : boot P config draw db accounts = .ok s ↔
    db.importOnce config draw.newId draw.now = .ok s.db ∧ s.db.RowsValid P ∧
      config.retry.Valid ∧
      s.shared = ⟨accounts.withRouting (routingOf s.db.snapshot config.retry), s.db.snapshot⟩ := by
  simp only [boot, bind_ok, mapError_ok, rebuild_ok, ← CatalogDb.snapshot_valid, pure, Except.pure,
    Except.ok.injEq]
  constructor
  · rintro ⟨db', himport, state, ⟨hvalid, hretry, rfl⟩, rfl⟩
    exact ⟨himport, hvalid, hretry, rfl⟩
  · rintro ⟨himport, hvalid, hretry, hshared⟩
    refine ⟨s.db, himport, _, ⟨hvalid, hretry, rfl⟩, ?_⟩
    rw [← hshared]

theorem boot_of (himport : db.importOnce config draw.newId draw.now = .ok db')
    (hv : db'.RowsValid P) (hretry : config.retry.Valid) (accounts : GatewayState) :
    ∃ s, boot P config draw db accounts = .ok s :=
  ⟨⟨db', accounts.withRouting (routingOf db'.snapshot config.retry), db'.snapshot⟩,
    boot_ok.2 ⟨himport, hv, hretry, rfl⟩⟩

end AdminState

/-- **Which files start a gateway** on an empty database. -/
theorem loads_iff : config.Loads P ↔ config.ValidSections P := by
  constructor
  · rintro ⟨draw, collation, accounts, s, h⟩
    obtain ⟨himport, hv, hretry, -⟩ := AdminState.boot_ok.1 h
    have himported := importOnce_imports himport
    refine ⟨(importable_iff draw).2 ⟨_, himport⟩, hretry, fun provider hp => ?_,
      fun entry hentry stored hstored => ?_, ?_⟩
    · exact hv.providers provider (himported.providers rfl ▸ hp)
    · obtain ⟨row, hrow, hrows⟩ := exists_of_forall₂ (himported.pricing rfl) hentry
      cases hstored.symm.trans hrows
      exact hv.pricing row hrow
    · exact himported.providers rfl ▸ himported.routedNamed hv rfl
  · intro hs
    obtain ⟨db', himport⟩ := importOnce_of_importable hs.importable ⟨id, 0, Function.injective_id⟩
      (.empty fun _ _ => true)
    have hv : (CatalogDb.empty fun _ _ => true).Startable P config :=
      ⟨CatalogDb.rowsValid_empty _, fun _ _ hp => by cases hp⟩
    exact ⟨_, _, .ofRouting (routingOf {} {}) 0 0,
      AdminState.boot_of himport ((importOnce_imports himport).rowsValid hs hv) hs.retry _⟩

/-- **Which databases a start succeeds on**, for a file that starts a gateway. -/
theorem boot_iff (hfile : config.Loads P) (draw : BootDraw) (accounts : GatewayState) :
    (∃ s, AdminState.boot P config draw db accounts = .ok s) ↔ db.Startable P config := by
  have hs := loads_iff.1 hfile
  constructor
  · rintro ⟨s, h⟩
    obtain ⟨himport, hv, -⟩ := AdminState.boot_ok.1 h
    exact (importOnce_imports himport).startable_before hv
  · intro hv
    obtain ⟨db', himport⟩ := importOnce_of_importable hs.importable draw db
    exact AdminState.boot_of himport ((importOnce_imports himport).rowsValid hs hv) hs.retry _

end

/-! ## The calls -/

/-- The aliases that the request gives a provider of a route have names. -/
def CatalogRequest.NamesAliases (config : GatewayConfig) : CatalogRequest → Prop
  | .createProvider body =>
    config.Routes (Text.trim body.id) → AliasesNamed body.fields.modelAliases
  | .updateProvider id fields => config.Routes id → AliasesNamed fields.modelAliases
  | _ => True

/-- A start that finds no model after the request reads named aliases only. -/
def CatalogRequest.KeepsNames (config : GatewayConfig) (db : CatalogDb) : CatalogRequest → Prop
  | .deleteModel name => (∀ row ∈ db.models, row.name = name) → config.RoutedNamed db.providers
  | request => db.models = [] → request.NamesAliases config

section
variable {P : Packages} {config : GatewayConfig} {db db' : CatalogDb}

/-- No provider is new, and the tables have a model if they had one. -/
def CatalogDb.Keeps (db db' : CatalogDb) : Prop :=
  db'.providers ⊆ db.providers ∧ (db'.models = [] → db.models = [])

theorem CatalogDb.Keeps.trans {db'' : CatalogDb} (h : db.Keeps db') (h' : db'.Keeps db'') :
    db.Keeps db'' :=
  ⟨fun _ hp => h.1 (h'.1 hp), fun hempty => h.2 (h'.2 hempty)⟩

theorem keeps_createModel {name : String} {now : DateTime}
    (h : db.createModel name now = .ok db') : db.Keeps db' := by
  rw [CatalogDb.Keeps, (CatalogDb.createModel_ok h).2]
  exact ⟨fun _ hp => hp, fun hempty => (List.append_eq_nil_iff.1 hempty).1⟩

theorem keeps_setDeployments {name : String} {deployments : List (String × String)} {found : Bool}
    (h : db.setDeployments name deployments = .ok (db', found)) : db.Keeps db' := by
  rcases CatalogDb.setDeployments_ok h with ⟨rfl, -⟩ | ht
  · exact ⟨fun _ hp => hp, id⟩
  · rw [CatalogDb.Keeps, ht]
    exact ⟨fun _ hp => hp, id⟩

theorem keeps_setModelStatus {name : String} {enabled found : Bool}
    (h : db.setModelStatus name enabled = .ok (db', found)) : db.Keeps db' := by
  rw [CatalogDb.Keeps, CatalogDb.setModelStatus_tables h]
  exact ⟨fun _ hp => hp, fun hempty => List.map_eq_nil_iff.1 hempty⟩

theorem keeps_of_tables {pricing : List PricingRecord} {deployments : List DeploymentRow}
    {providers : List ProviderConfig} (hsub : providers ⊆ db.providers)
    (ht : db'.toCatalogTables = ⟨providers, pricing, db.models, deployments⟩) : db.Keeps db' := by
  rw [CatalogDb.Keeps, ht]
  exact ⟨hsub, id⟩

/-- Storing a provider among providers with named aliases. -/
theorem routedNamed_upsertProvider {provider : ProviderConfig} {isNew : Bool}
    (hv : db.models = [] → config.RoutedNamed db.providers)
    (h : db.upsertProvider provider isNew = .ok db') :
    (db'.models = [] → config.RoutedNamed db'.providers) ↔
      (db.models = [] → config.Routes provider.id → AliasesNamed provider.modelAliases) := by
  obtain ⟨rows, ht, hmem, hrows⟩ := CatalogDb.upsertProvider_ok h
  rw [ht]
  refine forall_congr' fun hempty => ⟨fun hnamed => hnamed provider hmem, fun hnamed row hrow => ?_⟩
  rcases hrows row hrow with rfl | hold
  · exact hnamed
  · exact hv hempty row hold

/-- A successful call leaves named aliases to the next start exactly when it keeps names. -/
theorem effect_aliases {request : CatalogRequest} {status : Nat}
    (h : request.Effect P db (db', .ok status))
    (hv : db.models = [] → config.RoutedNamed db.providers) :
    (db'.models = [] → config.RoutedNamed db'.providers) ↔ request.KeepsNames config db := by
  have hkept : request.KeepsNames config db → db.Keeps db' →
      ((db'.models = [] → config.RoutedNamed db'.providers) ↔ request.KeepsNames config db) :=
    fun hnames hkeeps => iff_of_true
      (fun hempty provider hp => hv (hkeeps.2 hempty) provider (hkeeps.1 hp)) hnames
  cases h with
  | createProvider _ hb hw =>
    obtain ⟨hid, -, haliases, -⟩ := buildProvider_ok hb
    rw [routedNamed_upsertProvider hv hw, hid, haliases]
    rfl
  | updateProvider _ hb hw =>
    obtain ⟨hid, -, haliases, -⟩ := buildProvider_ok hb
    rw [routedNamed_upsertProvider hv hw, hid, haliases]
    rfl
  | deleteProvider _ hw =>
    have ht := (CatalogDb.deleteProvider_ok hw).1
    exact hkept (fun _ => trivial) (keeps_of_tables (List.filter_subset_self _) ht)
  | createPricing _ hw =>
    obtain ⟨stored, -, ht⟩ := CatalogDb.createPricing_ok hw
    exact hkept (fun _ => trivial) (keeps_of_tables (List.Subset.refl _) ht)
  | updatePricing _ _ hw =>
    refine hkept (fun _ => trivial) ?_
    rcases CatalogDb.updatePricing_ok hw with ⟨-, rfl⟩ | ⟨-, -, stored, -, ht⟩
    · exact ⟨List.Subset.refl _, id⟩
    · exact keeps_of_tables (List.Subset.refl _) ht
  | deletePricing _ hw =>
    exact hkept (fun _ => trivial)
      (keeps_of_tables (List.Subset.refl _) (CatalogDb.deletePricing_ok hw).1)
  | createDraft _ _ _ hc hs =>
    exact hkept (fun _ => trivial) ((keeps_createModel hc).trans (keeps_setDeployments hs))
  | createListed _ _ _ hc hs hu =>
    exact hkept (fun _ => trivial)
      (((keeps_createModel hc).trans (keeps_setDeployments hs)).trans (keeps_setModelStatus hu))
  | updateModel _ _ hs hu =>
    exact hkept (fun _ => trivial) ((keeps_setDeployments hs).trans (keeps_setModelStatus hu))
  | deleteModel hw =>
    have ht := (CatalogDb.deleteModel_ok hw).1
    rw [ht]
    refine imp_congr_left ?_
    simp

/-- **One successful call** leaves a database that a start succeeds on exactly when a base URL that
it writes has scheme and host, and the next start makes no model of a blank alias. -/
theorem effect_startable {request : CatalogRequest} {status : Nat}
    (h : request.Effect P db (db', .ok status)) (hv : db.Startable P config) :
    db'.Startable P config ↔ request.HasBaseUrl P ∧ request.KeepsNames config db := by
  rw [← effect_rowsValid h hv.rows, ← effect_aliases h hv.aliases]
  exact ⟨fun hs => ⟨hs.rows, hs.aliases⟩, fun hs => ⟨hs.1, hs.2⟩⟩

end

/-! ## Runs -/

namespace AdminState

/-- The config file reads as `config` and the call succeeds. -/
def Accepts (P : Packages) (config : GatewayConfig) (s : AdminState)
    (l : CatalogCall × Except String GatewayConfig) : Prop :=
  l.2 = .ok config ∧ (s.handle P l.2 l.1).2.isSuccess = true

/-- The call writes base URLs with scheme and host, and leaves named aliases to the next start. -/
def Bootably (P : Packages) (config : GatewayConfig) (s : AdminState)
    (l : CatalogCall × Except String GatewayConfig) : Prop :=
  l.1.request.HasBaseUrl P ∧ l.1.request.KeepsNames config s.db

/-- The gateway serves what the database says, `from_parts` accepts it, and the next start
succeeds. -/
structure UpToDate (P : Packages) (config : GatewayConfig) (s : AdminState) : Prop where
  accepted : ∀ upstream usageRecorder, ∃ state,
    GatewayState.fromParts P config s.db.snapshot upstream usageRecorder = .ok state
  bootable : ∀ draw accounts, ∃ s', boot P config draw s.db accounts = .ok s'
  catalog : s.shared.catalog = s.db.snapshot
  routing : s.shared.state.routing = routingOf s.db.snapshot config.retry

variable {P : Packages} {config : GatewayConfig} {s : AdminState}

theorem UpToDate.startable (h : s.UpToDate P config) : s.db.Startable P config := by
  obtain ⟨s', hboot⟩ := h.bootable ⟨id, 0, Function.injective_id⟩ s.shared.state
  obtain ⟨himport, hv, -⟩ := boot_ok.1 hboot
  exact (importOnce_imports himport).startable_before hv

theorem upToDate_of (hfile : config.Loads P) (hv : s.db.Startable P config)
    (hcatalog : s.shared.catalog = s.db.snapshot)
    (hrouting : s.shared.state.routing = routingOf s.db.snapshot config.retry) :
    s.UpToDate P config where
  accepted _ _ := ⟨_, fromParts_ok.2
    ⟨CatalogDb.snapshot_valid.2 hv.rows, (loads_iff.1 hfile).retry, rfl⟩⟩
  bootable draw accounts := (boot_iff hfile draw accounts).2 hv
  catalog := hcatalog
  routing := hrouting

/-- A gateway that has started is up to date. -/
theorem upToDate_boot {draw : BootDraw} {db : CatalogDb} {accounts : GatewayState}
    (hfile : config.Loads P) (h : boot P config draw db accounts = .ok s) :
    s.UpToDate P config := by
  obtain ⟨himport, hv, -, hshared⟩ := boot_ok.1 h
  exact upToDate_of hfile ((importOnce_imports himport).startable_after hv) (by rw [hshared])
    (by rw [hshared]; rfl)

theorem refreshAndRespond_applies {next : GatewayState} (status : Nat)
    (h : rebuild P config s.db.snapshot s.shared.state = .ok next) :
    s.refreshAndRespond P (.ok config) status =
      ({ s with shared := ⟨next, s.db.snapshot⟩ }, .ok status none) := by
  unfold refreshAndRespond
  rw [Except.bind, h]

/-- The refresh of a success applies when a start would succeed. -/
theorem upToDate_refresh {status : Nat} (hfile : config.Loads P) :
    (s.refreshAndRespond P (.ok config) status).1.UpToDate P config ↔ s.db.Startable P config := by
  constructor
  · intro hu
    have hv := hu.startable
    rwa [refreshAndRespond_db] at hv
  · intro hv
    rw [refreshAndRespond_applies status ((rebuild_ok _).2
      ⟨CatalogDb.snapshot_valid.2 hv.rows, (loads_iff.1 hfile).retry, rfl⟩)]
    exact upToDate_of hfile hv rfl rfl

/-- One successful call of an up-to-date gateway. -/
theorem upToDate_step {l : CatalogCall × Except String GatewayConfig} {s' : AdminState}
    (hfile : config.Loads P) (hu : s.UpToDate P config) (hok : s.Accepts P config l)
    (hstep : s.step P l = some s') : s'.UpToDate P config ↔ s.Bootably P config l := by
  obtain ⟨call, file⟩ := l
  obtain ⟨hread, hsuccess⟩ := hok
  dsimp only at hread
  subst hread
  cases hstep
  dsimp only at hsuccess ⊢
  unfold handle at hsuccess ⊢
  split at hsuccess
  · cases hsuccess
  · split at hsuccess
    · cases hsuccess
    · rename_i db status hrun
      have heffect : call.request.Effect P s.db (call.request.run P s.db) := run_effect _
      rw [hrun] at heffect
      rw [upToDate_refresh hfile]
      exact effect_startable heffect hu.startable

end AdminState

/-- **Served and rebooted.** For a file that starts a gateway on an empty database, and from any
database that the gateway starts on, a run of successful calls leaves the gateway up to date after
every call exactly when every base URL that a call writes has scheme and host, and no call leaves
the next start a blank alias of which it makes a model. -/
theorem served_and_rebooted {P : Packages} {config : GatewayConfig} {draw : BootDraw}
    {db : CatalogDb} {accounts : GatewayState} {s v : AdminState}
    {tr : List (CatalogCall × Except String GatewayConfig)} (hfile : config.Loads P)
    (h0 : AdminState.boot P config draw db accounts = .ok s)
    (h : Lts.Run (AdminState.step P) (AdminState.Accepts P config) s tr v) :
    (∀ pre u, pre <+: tr → Lts.exec (AdminState.step P) s pre = some u → u.UpToDate P config) ↔
      Lts.Run (AdminState.step P) (AdminState.Bootably P config) s tr v :=
  h.inv_iff (AdminState.upToDate_boot hfile h0) fun _ _ _ hu hok hstep =>
    AdminState.upToDate_step hfile hu hok hstep

/-- A gateway without accounts. -/
def noAccounts : GatewayState := .ofRouting (routingOf {} {}) 0 0

def emptyDb : CatalogDb := .empty fun a b => a ≤ b

/-- The last model is deleted, and the provider that the route lists gets another alias. -/
def realiased : List (CatalogCall × Except String GatewayConfig) :=
  [(⟨catalogAdmin, .deleteModel "m"⟩, .ok catalogConfig),
    (⟨catalogAdmin, .updateProvider "p"
      { protocol := "openai", baseUrl := "https://a", apiKey := "k",
        modelAliases := [("n", "y")] }⟩, .ok catalogConfig)]

theorem importedState_boot : AdminState.boot catalogPackages catalogConfig countingDraw emptyDb
    noAccounts = .ok importedState := rfl

theorem importedState_routedNamed :
    catalogConfig.RoutedNamed importedState.db.providers := by
  intro provider hp _
  rw [List.mem_singleton.1 hp]
  exact aliasesNamed_of_forall (by decide +kernel)

/-- The gateway is up to date after both calls, and the next start makes a model of the alias. -/
theorem served_and_rebooted_sample : ∃ v next,
    Lts.exec (AdminState.step catalogPackages) importedState realiased = some v ∧
    v.db.models = [] ∧
    AdminState.boot catalogPackages catalogConfig countingDraw v.db noAccounts = .ok next ∧
    next.db.models.map (·.name) = ["n"] ∧
    ∀ pre u, pre <+: realiased →
      Lts.exec (AdminState.step catalogPackages) importedState pre = some u →
        u.UpToDate catalogPackages catalogConfig := by
  obtain ⟨v, next, haccepted, hbootably, hnone, hboot, hnames⟩ : ∃ v next,
      Lts.Run (AdminState.step catalogPackages) (AdminState.Accepts catalogPackages catalogConfig)
        importedState realiased v ∧
      Lts.Run (AdminState.step catalogPackages) (AdminState.Bootably catalogPackages catalogConfig)
        importedState realiased v ∧
      v.db.models = [] ∧
      AdminState.boot catalogPackages catalogConfig countingDraw v.db noAccounts = .ok next ∧
      next.db.models.map (·.name) = ["n"] :=
    ⟨_, _, .snoc (.snoc .nil ⟨rfl, by decide +kernel⟩ rfl) ⟨rfl, by decide +kernel⟩ rfl,
      .snoc (.snoc .nil ⟨trivial, fun _ => importedState_routedNamed⟩ rfl)
        ⟨⟨_, rfl, rfl, rfl⟩, fun _ _ => aliasesNamed_of_forall (by decide +kernel)⟩ rfl,
      rfl, rfl, by decide +kernel⟩
  exact ⟨v, next, haccepted.exec, hnone, hboot, hnames,
    (served_and_rebooted ⟨_, _, _, _, importedState_boot⟩ importedState_boot haccepted).2 hbootably⟩

/-- The gateway has started on the empty database. -/
def startedState : AdminState where
  db := emptyDb
  shared := ⟨noAccounts, {}⟩

theorem startedState_boot : AdminState.boot catalogPackages {} countingDraw emptyDb noAccounts =
    .ok startedState := rfl

/-- `create_provider` with a base URL. -/
def createAt (baseUrl : String) : CatalogCall × Except String GatewayConfig :=
  (⟨catalogAdmin, .createProvider
    { id := "p", fields := { protocol := "openai", baseUrl := baseUrl, apiKey := "k" } }⟩, .ok {})

/-- A model on the provider. -/
def draftModel : CatalogCall × Except String GatewayConfig :=
  (⟨catalogAdmin, .createModel { name := "m", deployments := [⟨"p", "x"⟩] } 0⟩, .ok {})

/-- The base URL `a` is accepted and stored, and `from_parts` rejects the snapshot from then on. -/
theorem base_url_without_scheme : ∃ s v,
    AdminState.boot catalogPackages {} countingDraw emptyDb noAccounts = .ok s ∧
    Lts.Run (AdminState.step catalogPackages) (AdminState.Accepts catalogPackages {}) s
      [createAt "a"] v ∧
    GatewayState.fromParts catalogPackages {} v.db.snapshot 0 0 =
      .error "provider 'p' base URL must include scheme and host" :=
  ⟨startedState, _, startedState_boot, .snoc .nil ⟨rfl, by decide +kernel⟩ rfl, rfl⟩

/-- A route lists the provider before there is one. -/
def routedConfig : GatewayConfig where
  routes := [{ pathPrefix := "/x", providers := ["p"] }]

theorem routedConfig_loads : routedConfig.Loads catalogPackages :=
  ⟨countingDraw, _, noAccounts, startedState, rfl⟩

/-- `create_provider` with a blank alias. -/
def createBlankAlias : CatalogCall × Except String GatewayConfig :=
  (⟨catalogAdmin, .createProvider
    { id := "p", fields :=
      { protocol := "openai", baseUrl := "https://a", apiKey := "k",
        modelAliases := [("", "x")] } }⟩, .ok routedConfig)

/-- A blank alias is accepted and stored, and the next start makes a model of it. -/
example : ∃ s v,
    AdminState.boot catalogPackages routedConfig countingDraw emptyDb noAccounts = .ok s ∧
    Lts.Run (AdminState.step catalogPackages) (AdminState.Accepts catalogPackages routedConfig) s
      [createBlankAlias] v ∧
    AdminState.boot catalogPackages routedConfig countingDraw v.db noAccounts =
      .error (.rejected "model name cannot be empty") :=
  ⟨_, _, rfl, .snoc .nil ⟨rfl, by decide +kernel⟩ rfl, rfl⟩

end LiteAgentify
