import LiteAgentify.Catalog.Startup
import LiteAgentify.Proof.Listing

/-!
# What the import makes of empty tables

The store calls of a stage write the tables of that stage (`ImportCall.exec_frame`), and running
them all is `importOnce` (`importOnce_calls`). `Fills` says that the calls that a boot has left
succeed, each adding rows, and end with the tables of a full import; a stage that begins with its
table empty has such calls (`IsImport.fills`). A file can be imported exactly when it is
`Importable` (`importable_iff`).
-/

set_option autoImplicit false

namespace LiteAgentify

open Keyed

variable {config : GatewayConfig} {draw : BootDraw}

/-! ## The stages -/

def ImportCall.stage : ImportCall → ImportStage
  | .upsertProvider _ => .providers
  | .createPricing _ _ => .pricing
  | .createModel _ _ | .setDeployments _ _ | .enableModel _ => .models

/-- The stages that come before. -/
def ImportStage.earlier : ImportStage → List ImportStage
  | .providers => []
  | .pricing => [.providers]
  | .models => [.providers, .pricing]

/-- What an import writes to the tables of a stage, without the drawn ids and the times. -/
def ImportStage.Agrees (db db' : CatalogDb) : ImportStage → Prop
  | .providers => db.providers = db'.providers
  | .pricing => db.pricing.map PricingRecord.config = db'.pricing.map PricingRecord.config
  | .models =>
    db.models.map ModelRow.shown = db'.models.map ModelRow.shown ∧
      db.deployments = db'.deployments

/-- The tables of a stage are the same. -/
def ImportStage.Untouched (db db' : CatalogDb) : ImportStage → Prop
  | .providers => db.providers = db'.providers
  | .pricing => db.pricing = db'.pricing
  | .models => db.models = db'.models ∧ db.deployments = db'.deployments

/-- The rows of a stage, an enabled model counting twice. -/
def ImportStage.size (db : CatalogDb) : ImportStage → Nat
  | .providers => db.providers.length
  | .pricing => db.pricing.length
  | .models =>
    db.models.length + db.deployments.length + ((db.models.map ModelRow.shown).filter (·.2)).length

theorem CatalogDb.same_iff {db db' : CatalogDb} :
    db.Same db' ↔ ∀ stage : ImportStage, stage.Agrees db db' := by
  constructor
  · rintro ⟨hp, hpr, hm, hd⟩ (_ | _ | _)
    · exact hp
    · exact hpr
    · exact ⟨hm, hd⟩
  · intro h
    exact ⟨h .providers, h .pricing, (h .models).1, (h .models).2⟩

namespace ImportStage

theorem Agrees.refl (stage : ImportStage) (db : CatalogDb) : stage.Agrees db db := by
  cases stage
  · rfl
  · rfl
  · exact ⟨rfl, rfl⟩

theorem Agrees.trans {stage : ImportStage} {a b c : CatalogDb} (h : stage.Agrees a b)
    (h' : stage.Agrees b c) : stage.Agrees a c := by
  cases stage with
  | providers => exact Eq.trans h h'
  | pricing => exact Eq.trans h h'
  | models => exact ⟨h.1.trans h'.1, h.2.trans h'.2⟩

theorem Agrees.symm {stage : ImportStage} {a b : CatalogDb} (h : stage.Agrees a b) :
    stage.Agrees b a := by
  cases stage with
  | providers => exact Eq.symm h
  | pricing => exact Eq.symm h
  | models => exact ⟨h.1.symm, h.2.symm⟩

theorem Agrees.size {stage : ImportStage} {a b : CatalogDb} (h : stage.Agrees a b) :
    stage.size a = stage.size b := by
  cases stage with
  | providers => exact congrArg List.length h
  | pricing => simpa [ImportStage.size] using congrArg List.length h
  | models =>
    have hlen := congrArg List.length h.1
    simp only [List.length_map] at hlen
    rw [ImportStage.size, ImportStage.size, hlen, h.1, h.2]

theorem Agrees.empty {stage : ImportStage} {a b : CatalogDb} (h : stage.Agrees a b) :
    stage.Empty a ↔ stage.Empty b := by
  cases stage with
  | providers => exact Eq.congr_left h
  | pricing =>
    have : a.pricing.map PricingRecord.config = b.pricing.map PricingRecord.config := h
    rw [ImportStage.Empty, ← List.map_eq_nil_iff, this, List.map_eq_nil_iff]
    rfl
  | models =>
    rw [ImportStage.Empty, ← List.map_eq_nil_iff, h.1, List.map_eq_nil_iff]
    rfl

theorem Untouched.refl (stage : ImportStage) (db : CatalogDb) : stage.Untouched db db := by
  cases stage
  · rfl
  · rfl
  · exact ⟨rfl, rfl⟩

theorem Untouched.trans {stage : ImportStage} {a b c : CatalogDb} (h : stage.Untouched a b)
    (h' : stage.Untouched b c) : stage.Untouched a c := by
  cases stage with
  | providers => exact Eq.trans h h'
  | pricing => exact Eq.trans h h'
  | models => exact ⟨h.1.trans h'.1, h.2.trans h'.2⟩

theorem Untouched.agrees {stage : ImportStage} {a b : CatalogDb} (h : stage.Untouched a b) :
    stage.Agrees a b := by
  cases stage with
  | providers => exact h
  | pricing => exact congrArg (List.map PricingRecord.config) h
  | models => exact ⟨congrArg (List.map ModelRow.shown) h.1, h.2⟩

/-- A stage whose table is not empty makes no calls. -/
theorem calls_of_not_empty {stage : ImportStage} {db : CatalogDb} (h : ¬ stage.Empty db) :
    stage.calls config draw db = [] := by
  cases stage with
  | providers => exact if_neg fun h0 => h (List.length_eq_zero_iff.1 h0)
  | pricing => exact if_neg fun h0 => h (List.length_eq_zero_iff.1 h0)
  | models => exact if_pos (List.length_pos_iff.2 h)

/-- A stage makes its own calls. -/
theorem stage_of_mem_calls {stage : ImportStage} {db : CatalogDb} {call : ImportCall}
    (h : call ∈ stage.calls config draw db) : call.stage = stage := by
  cases stage with
  | providers =>
    rw [calls] at h
    split at h
    · obtain ⟨provider, -, rfl⟩ := List.mem_map.1 h
      rfl
    · cases h
  | pricing =>
    rw [calls] at h
    split at h
    · obtain ⟨entry, -, rfl⟩ := List.mem_map.1 h
      rfl
    · cases h
  | models =>
    rw [calls] at h
    split at h
    · cases h
    · obtain ⟨entry, -, hcall⟩ := List.mem_flatMap.1 h
      simp only [migrateCalls, List.mem_cons] at hcall
      rcases hcall with rfl | rfl | hcall
      · rfl
      · rfl
      · split at hcall
        · rw [List.mem_singleton] at hcall
          subst hcall
          rfl
        · cases hcall

end ImportStage

theorem exec_found {x : Except StoreError (CatalogDb × Bool)} {db' : CatalogDb}
    (h : x.map Prod.fst = .ok db') : ∃ found, x = .ok (db', found) := by
  cases x with
  | error e => cases h
  | ok p =>
    cases h
    exact ⟨p.2, rfl⟩

section
variable {db db' : CatalogDb}

theorem untouched_of_providers {providers : List ProviderConfig}
    (ht : db'.toCatalogTables = ⟨providers, db.pricing, db.models, db.deployments⟩) :
    ∀ stage : ImportStage, stage ≠ .providers → stage.Untouched db' db := by
  rintro (_ | _ | _) hne
  · exact absurd rfl hne
  · rw [ImportStage.Untouched, ht]
  · simp only [ImportStage.Untouched, ht, and_self]

theorem untouched_of_pricing {pricing : List PricingRecord}
    (ht : db'.toCatalogTables = ⟨db.providers, pricing, db.models, db.deployments⟩) :
    ∀ stage : ImportStage, stage ≠ .pricing → stage.Untouched db' db := by
  rintro (_ | _ | _) hne
  · rw [ImportStage.Untouched, ht]
  · exact absurd rfl hne
  · simp only [ImportStage.Untouched, ht, and_self]

theorem untouched_of_models {models : List ModelRow} {deployments : List DeploymentRow}
    (ht : db'.toCatalogTables = ⟨db.providers, db.pricing, models, deployments⟩) :
    ∀ stage : ImportStage, stage ≠ .models → stage.Untouched db' db := by
  rintro (_ | _ | _) hne
  · rw [ImportStage.Untouched, ht]
  · rw [ImportStage.Untouched, ht]
  · exact absurd rfl hne

/-- Every call commits, or writes nothing. -/
theorem ImportCall.exec_collation {call : ImportCall} (h : call.exec db = .ok db') :
    db'.collation = db.collation := by
  have hcommit : ∀ {write : CatalogTables → CatalogTables},
      db.commit write = .ok db' → db'.collation = db.collation :=
    fun h => (CatalogDb.commit_ok h).2
  cases call with
  | upsertProvider provider =>
    simp only [ImportCall.exec, CatalogDb.upsertProvider] at h
    split at h
    · cases h
    · split at h <;> exact hcommit h
  | createPricing id entry =>
    simp only [ImportCall.exec, CatalogDb.createPricing] at h
    split at h
    · cases h
    · split at h
      · cases h
      · exact hcommit h
  | createModel name now =>
    simp only [ImportCall.exec, CatalogDb.createModel] at h
    split at h
    · cases h
    · exact hcommit h
  | setDeployments name chain =>
    obtain ⟨found, h⟩ := exec_found h
    unfold CatalogDb.setDeployments at h
    split at h
    · cases h
    · split at h
      · exact (CatalogDb.commit_found h).2.1
      · cases h
        rfl
  | enableModel name =>
    obtain ⟨found, h⟩ := exec_found h
    unfold CatalogDb.setModelStatus at h
    split at h
    · exact (CatalogDb.commit_found h).2.1
    · cases h
      rfl

/-- A call leaves the tables of the other stages, and the collation. -/
theorem ImportCall.exec_frame {call : ImportCall} (h : call.exec db = .ok db') :
    db'.collation = db.collation ∧ ∀ stage, stage ≠ call.stage → stage.Untouched db' db := by
  refine ⟨exec_collation h, ?_⟩
  cases call with
  | upsertProvider provider =>
    obtain ⟨rows, ht, -⟩ := CatalogDb.upsertProvider_ok h
    exact untouched_of_providers ht
  | createPricing id entry =>
    obtain ⟨stored, -, ht⟩ := CatalogDb.createPricing_ok h
    exact untouched_of_pricing ht
  | createModel name now => exact untouched_of_models (CatalogDb.createModel_ok h).2
  | setDeployments name chain =>
    obtain ⟨found, h⟩ := exec_found h
    rcases CatalogDb.setDeployments_ok h with ⟨rfl, -⟩ | ht
    · exact fun stage _ => .refl stage _
    · exact untouched_of_models ht
  | enableModel name =>
    obtain ⟨found, h⟩ := exec_found h
    exact untouched_of_models (CatalogDb.setModelStatus_tables h)

end

/-- So do all the calls of a stage. -/
theorem exec_calls_frame {stage : ImportStage} {left : List ImportCall}
    (hleft : ∀ call ∈ left, call.stage = stage) {db db' : CatalogDb}
    (h : left.foldlM ImportCall.exec db = .ok db') :
    db'.collation = db.collation ∧ ∀ other, other ≠ stage → other.Untouched db' db := by
  refine foldlM_inv (I := fun u : CatalogDb =>
    u.collation = db.collation ∧ ∀ other, other ≠ stage → other.Untouched u db) ?_
    ⟨rfl, fun other _ => .refl other db⟩ h
  rintro u call u' hcall ⟨hcol, hother⟩ hexec
  obtain ⟨hcol', hframe⟩ := ImportCall.exec_frame hexec
  rw [hleft call hcall] at hframe
  exact ⟨hcol'.trans hcol, fun other hne => (hframe other hne).trans (hother other hne)⟩

/-! ## The calls are the import -/

theorem migrateModel_calls (pricing : List PricingConfig) (now : DateTime) (db : CatalogDb)
    (entry : NamedChain) :
    db.migrateModel pricing now entry =
      (migrateCalls pricing now entry).foldlM ImportCall.exec db := by
  obtain ⟨name, chain⟩ := entry
  have hcov : (uncoveredDeployments ⟨name, false, now, deploymentsOf chain⟩ pricing).isEmpty =
      chainCovered pricing (name, chain) := rfl
  simp only [CatalogDb.migrateModel, migrateCalls, List.foldlM_cons, ImportCall.exec, hcov]
  congr 1
  funext created
  cases created.setDeployments name chain with
  | error e => rfl
  | ok saved =>
    change (if chainCovered pricing (name, chain) = true then _ else _) = List.foldlM _ saved.1 _
    split
    · simp only [List.foldlM_cons, List.foldlM_nil, ImportCall.exec]
      cases saved.1.setModelStatus name true <;> rfl
    · rfl

theorem foldlM_flatMap {α β : Type} {f : CatalogDb → β → Except StoreError CatalogDb}
    {g : CatalogDb → α → Except StoreError CatalogDb} {calls : α → List β}
    (h : ∀ db x, g db x = (calls x).foldlM f db) (xs : List α) (db : CatalogDb) :
    xs.foldlM g db = (xs.flatMap calls).foldlM f db := by
  induction xs generalizing db with
  | nil => rfl
  | cons x xs ih =>
    rw [List.foldlM_cons, List.flatMap_cons, List.foldlM_append, h]
    congr 1
    funext db'
    exact ih db'

theorem importProviders_calls (draw : BootDraw) (db : CatalogDb) :
    db.importProviders config =
      (ImportStage.calls config draw db .providers).foldlM ImportCall.exec db := by
  unfold CatalogDb.importProviders ImportStage.calls
  split
  · rw [List.foldlM_map]
    rfl
  · rfl

theorem importPricing_calls (db : CatalogDb) :
    db.importPricing config draw.newId =
      (ImportStage.calls config draw db .pricing).foldlM ImportCall.exec db := by
  unfold CatalogDb.importPricing ImportStage.calls
  split
  · rw [List.foldlM_map]
    rfl
  · rfl

variable (draw) in
theorem migrateRoutesOnce_calls (db : CatalogDb) :
    db.migrateRoutesOnce config draw.now =
      (ImportStage.calls config draw db .models).foldlM ImportCall.exec db := by
  unfold CatalogDb.migrateRoutesOnce ImportStage.calls
  split
  · rfl
  · exact foldlM_flatMap (migrateModel_calls _ _) _ _

/-- **A boot that nothing stops** makes the calls of the three stages. -/
theorem importOnce_calls {db db' : CatalogDb} :
    db.importOnce config draw.newId draw.now = .ok db' ↔
      ∃ a b, (ImportStage.calls config draw db .providers).foldlM ImportCall.exec db = .ok a ∧
        (ImportStage.calls config draw a .pricing).foldlM ImportCall.exec a = .ok b ∧
        (ImportStage.calls config draw b .models).foldlM ImportCall.exec b = .ok db' := by
  simp only [CatalogDb.importOnce, CatalogDb.importConfigOnce, bind_ok, importProviders_calls draw,
    importPricing_calls, migrateRoutesOnce_calls]
  constructor
  · rintro ⟨b, ⟨a, ha, hb⟩, h⟩
    exact ⟨a, b, ha, hb, h⟩
  · rintro ⟨a, b, ha, hb, h⟩
    exact ⟨b, ⟨a, ha, hb⟩, h⟩

/-! ## The chains of the routes -/

/-- Chains that the tables can hold. -/
structure ChainsOk (db : CatalogDb) (chains : List NamedChain) : Prop where
  names : (chains.map Prod.fst).Nodup
  once : ∀ entry ∈ chains, (entry.2.map Prod.fst).Nodup
  known : ∀ entry ∈ chains, ∀ d ∈ entry.2, d.1 ∈ db.providers.map ProviderConfig.id
  nameTexts : ∀ entry ∈ chains, isText entry.1
  texts : ∀ entry ∈ chains, ∀ d ∈ entry.2, isText d.1 ∧ isText d.2

section
variable {db : CatalogDb} {chains chains' : List NamedChain}

/-- A chain under a new name. -/
theorem ChainsOk.snoc (h : ChainsOk db chains) {entry : NamedChain}
    (hnew : ∀ e ∈ chains, e.1 ≠ entry.1) (honce : (entry.2.map Prod.fst).Nodup)
    (hknown : ∀ d ∈ entry.2, d.1 ∈ db.providers.map ProviderConfig.id) (hname : isText entry.1)
    (htexts : ∀ d ∈ entry.2, isText d.1 ∧ isText d.2) : ChainsOk db (chains ++ [entry]) where
  names := by
    rw [List.map_append, List.nodup_append]
    refine ⟨h.names, List.nodup_singleton _, fun a ha b hb => ?_⟩
    obtain ⟨e, he, rfl⟩ := List.mem_map.1 ha
    rw [List.mem_singleton.1 hb]
    exact hnew e he
  once := List.forall_mem_append.2 ⟨h.once, List.forall_mem_singleton.2 honce⟩
  known := List.forall_mem_append.2 ⟨h.known, List.forall_mem_singleton.2 hknown⟩
  nameTexts := List.forall_mem_append.2 ⟨h.nameTexts, List.forall_mem_singleton.2 hname⟩
  texts := List.forall_mem_append.2 ⟨h.texts, List.forall_mem_singleton.2 htexts⟩

/-- Chains to some of which a deployment has been added, each time on a new provider. -/
theorem ChainsOk.extended (h : ChainsOk db chains) (deployment : String × String)
    (hknown : deployment.1 ∈ db.providers.map ProviderConfig.id)
    (htext : isText deployment.1 ∧ isText deployment.2)
    (hnames : chains'.map Prod.fst = chains.map Prod.fst)
    (hext : ∀ e ∈ chains', ∃ old ∈ chains, e.1 = old.1 ∧ (e.2 = old.2 ∨
      e.2 = old.2 ++ [deployment] ∧ ∀ d ∈ old.2, d.1 ≠ deployment.1)) : ChainsOk db chains' where
  names := hnames ▸ h.names
  once := fun e he => by
    obtain ⟨old, hold, -, heq | ⟨heq, hne⟩⟩ := hext e he
    · rw [heq]
      exact h.once old hold
    · rw [heq, List.map_append, List.map_singleton, List.nodup_append]
      refine ⟨h.once old hold, List.nodup_singleton _, fun a ha b hb => ?_⟩
      obtain ⟨d, hd, rfl⟩ := List.mem_map.1 ha
      rw [List.mem_singleton.1 hb]
      exact hne d hd
  known := fun e he d hd => by
    obtain ⟨old, hold, -, heq | ⟨heq, -⟩⟩ := hext e he
    · exact h.known old hold d (heq ▸ hd)
    · rw [heq, List.mem_append, List.mem_singleton] at hd
      rcases hd with hd | rfl
      · exact h.known old hold d hd
      · exact hknown
  nameTexts := fun e he => by
    obtain ⟨old, hold, heq, -⟩ := hext e he
    rw [heq]
    exact h.nameTexts old hold
  texts := fun e he d hd => by
    obtain ⟨old, hold, -, heq | ⟨heq, -⟩⟩ := hext e he
    · exact h.texts old hold d (heq ▸ hd)
    · rw [heq, List.mem_append, List.mem_singleton] at hd
      rcases hd with hd | rfl
      · exact h.texts old hold d hd
      · exact htext

theorem ChainsOk.addAlias (h : ChainsOk db chains) {provider : ProviderConfig}
    (hp : provider ∈ db.providers) {entry : String × String} (he : entry ∈ provider.modelAliases) :
    ChainsOk db (addAlias provider.id chains entry) := by
  have htext : ∀ text ∈ provider.texts, isText text :=
    (CatalogTables.texts_iff.1 db.constraints.texts).1 provider hp
  have hid : isText provider.id := htext _ (by simp [ProviderConfig.texts])
  have hname : isText entry.1 := htext _ (by
    simp only [ProviderConfig.texts, List.mem_append, List.mem_flatMap]
    exact .inr ⟨entry, he, by simp⟩)
  have hup : isText entry.2 := htext _ (by
    simp only [ProviderConfig.texts, List.mem_append, List.mem_flatMap]
    exact .inr ⟨entry, he, by simp⟩)
  have hknown : provider.id ∈ db.providers.map ProviderConfig.id := List.mem_map_of_mem hp
  unfold LiteAgentify.addAlias
  split
  · -- the name has a chain already
    refine h.extended (provider.id, entry.2) hknown ⟨hid, hup⟩ ?_ fun e he => ?_
    · rw [List.map_map]
      refine List.map_congr_left fun old _ => ?_
      obtain ⟨name, chain⟩ := old
      dsimp only [Function.comp_apply]
      split <;> rfl
    · obtain ⟨⟨name, chain⟩, hold, rfl⟩ := List.mem_map.1 he
      refine ⟨_, hold, ?_⟩
      dsimp only
      split
      · rename_i hnew
        exact ⟨rfl, .inr ⟨rfl, fun d hd hdp =>
          hnew.2 (List.any_eq_true.2 ⟨d, hd, decide_eq_true hdp⟩)⟩⟩
      · exact ⟨rfl, .inl rfl⟩
  · rename_i hnew
    exact h.snoc (fun e he hname => hnew (List.any_eq_true.2 ⟨e, he, decide_eq_true hname⟩))
      (List.nodup_singleton _) (List.forall_mem_singleton.2 hknown) hname
      (List.forall_mem_singleton.2 ⟨hid, hup⟩)

end

/-- The chains that the routes imply can be stored. -/
theorem deriveChains_ok (db : CatalogDb) (routes : List RouteConfig) :
    ChainsOk db (deriveChains db routes) := by
  have hprovider : ∀ (chains : List NamedChain) (providerId : String), ChainsOk db chains →
      ChainsOk db (addProvider db chains providerId) := by
    intro chains providerId hc
    unfold addProvider
    split
    · exact hc
    · rename_i provider hget
      obtain ⟨hmem, rfl⟩ := CatalogDb.getProvider_some hget
      exact List.foldlRecOn _ _ hc fun chains hc a ha => hc.addAlias hmem ha
  exact List.foldlRecOn _ _ ⟨by simp, by simp, by simp, by simp, by simp⟩ fun chains hc route _ =>
    List.foldlRecOn _ _ hc fun chains hc providerId _ => hprovider chains providerId hc

/-- The chains depend on the providers only. -/
theorem deriveChains_congr {db db' : CatalogDb} (h : db.providers = db'.providers)
    (routes : List RouteConfig) : deriveChains db routes = deriveChains db' routes := by
  have hprovider : addProvider db = addProvider db' := by
    funext chains providerId
    rw [addProvider, addProvider, CatalogDb.getProvider, CatalogDb.getProvider, h]
  rw [deriveChains, deriveChains, hprovider]

/-- The ordered rules depend on the rules only. -/
theorem listPricing_congr {db db' : CatalogDb} (hcol : db.collation = db'.collation)
    (h : db.pricing.map PricingRecord.config = db'.pricing.map PricingRecord.config) :
    db.listPricing.map PricingRecord.config = db'.listPricing.map PricingRecord.config := by
  have hsort : ∀ u : CatalogDb, u.listPricing.map PricingRecord.config =
      (u.pricing.map PricingRecord.config).insertionSort fun a b =>
        if a.provider = b.provider then u.collation a.model b.model
        else u.collation a.provider b.provider :=
    fun u => List.map_insertionSort _ _ _ _ fun _ _ _ _ => Iff.rfl
  rw [hsort, hsort, h, hcol]

/-! ## The tables of a full import -/

/-- The tables that the file gives, whatever ids and times were drawn. -/
structure IsImport (config : GatewayConfig) (full : CatalogDb) : Prop where
  providers : full.providers = config.providers
  pricing : List.Forall₂ (fun entry row => entry.stored = some (PricingRecord.config row))
    config.pricing full.pricing
  models : full.models.map ModelRow.shown = (deriveChains full config.routes).map fun entry =>
    (entry.1, chainCovered (full.listPricing.map PricingRecord.config) entry)
  deployments : full.deployments =
    (deriveChains full config.routes).flatMap fun entry => CatalogDb.deploymentRows entry.1 entry.2

/-- The calls succeed one after another, each adds to the tables of the stage, and they end with
those of `full`. -/
inductive Fills (full : CatalogDb) (stage : ImportStage) : CatalogDb → List ImportCall → Prop
  | done {db : CatalogDb} : stage.Agrees db full → Fills full stage db []
  | call {db db' : CatalogDb} {call : ImportCall} {left : List ImportCall} :
      call.exec db = .ok db' → stage.size db < stage.size db' → Fills full stage db' left →
        Fills full stage db (call :: left)

theorem Fills.exec {full db : CatalogDb} {stage : ImportStage} {left : List ImportCall}
    (h : Fills full stage db left) :
    ∃ db', left.foldlM ImportCall.exec db = .ok db' ∧ stage.Agrees db' full := by
  induction h with
  | done h => exact ⟨_, rfl, h⟩
  | call hexec _ _ ih =>
    obtain ⟨db', hfold, hagree⟩ := ih
    exact ⟨db', by rw [List.foldlM_cons, hexec]; exact hfold, hagree⟩

theorem Fills.size_le {full db : CatalogDb} {stage : ImportStage} {left : List ImportCall}
    (h : Fills full stage db left) : stage.size db ≤ stage.size full := by
  induction h with
  | done h => exact h.size.le
  | call _ hlt _ ih => omega

/-- Tables with calls left are not complete. -/
theorem Fills.not_agrees {full db : CatalogDb} {stage : ImportStage} {left : List ImportCall}
    (h : Fills full stage db left) (hleft : left ≠ []) : ¬ stage.Agrees db full := by
  cases h with
  | done h => exact absurd rfl hleft
  | call _ hlt hrest =>
    intro hagree
    have := hagree.size
    have := hrest.size_le
    omega

/-! ### Providers -/

theorem upsertProvider_new {full db : CatalogDb} {provider : ProviderConfig}
    {rest : List ProviderConfig} (h : db.providers ++ provider :: rest = full.providers) :
    ∃ db', db.upsertProvider provider true = .ok db' ∧
      db'.providers = db.providers ++ [provider] := by
  have hids := full.constraints.providerIds
  rw [← h, List.map_append, List.map_cons, List.nodup_append] at hids
  obtain ⟨-, -, hdisj⟩ := hids
  have hnone : db.getProvider provider.id = none := by
    rw [CatalogDb.getProvider, List.find?_eq_none]
    intro row hrow hid
    exact hdisj row.id (List.mem_map_of_mem hrow) provider.id (by simp) (of_decide_eq_true hid)
  have hc := db.constraints
  have hfull := (CatalogTables.texts_iff.1 full.constraints.texts).1
  obtain ⟨hp, hpr, hm, hd⟩ := CatalogTables.texts_iff.1 hc.texts
  have hconstraints : (CatalogTables.mk (db.providers ++ [provider]) db.pricing db.models
      db.deployments).Constraints := by
    refine ⟨?_, hc.pricingIds, hc.pricingPairs, hc.modelNames, hc.deploymentPairs,
      hc.deploymentModels, fun row hrow => ?_, CatalogTables.texts_iff.2 ⟨?_, hpr, hm, hd⟩⟩
    · rw [List.map_append, List.map_singleton, List.nodup_append]
      refine ⟨hc.providerIds, List.nodup_singleton _, fun a ha b hb => ?_⟩
      exact hdisj a ha b (by simp [List.mem_singleton.1 hb])
    · exact List.map_append ▸ List.mem_append_left _ (hc.deploymentProviders row hrow)
    · refine List.forall_mem_append.2 ⟨hp, List.forall_mem_singleton.2 (hfull provider ?_)⟩
      rw [← h]
      simp
  have hcommit : db.commit (fun t => { t with providers := t.providers ++ [provider] }) =
      .ok ⟨_, db.collation, hconstraints⟩ := CatalogDb.commit_of hconstraints rfl
  refine ⟨⟨_, db.collation, hconstraints⟩, ?_, rfl⟩
  rw [CatalogDb.upsertProvider, hnone]
  exact hcommit

theorem fills_providers {full : CatalogDb} (rest : List ProviderConfig) :
    ∀ db : CatalogDb, db.providers ++ rest = full.providers →
      Fills full .providers db (rest.map .upsertProvider) := by
  induction rest with
  | nil =>
    intro db h
    exact .done (by simpa [ImportStage.Agrees] using h)
  | cons provider rest ih =>
    intro db h
    obtain ⟨db', hexec, hrows⟩ := upsertProvider_new h
    have hsize : ImportStage.size db .providers < ImportStage.size db' .providers := by
      simp [ImportStage.size, hrows]
    exact .call hexec hsize (ih db' (by rw [hrows, List.append_assoc]; exact h))

/-! ### Pricing -/

/-- The columns round the rates and keep the texts. -/
theorem stored_texts {entry stored : PricingConfig} (h : entry.stored = some stored) :
    (stored.provider, stored.model) = (entry.provider, entry.model) ∧
      stored.texts = entry.texts := by
  simp only [PricingConfig.stored, Option.bind_eq_bind, Option.bind_eq_some_iff, Option.pure_def,
    Option.some.injEq] at h
  obtain ⟨_, -, _, -, _, -, _, -, _, -, rfl⟩ := h
  exact ⟨rfl, rfl⟩

theorem createPricing_new {full db : CatalogDb} {id : Uuid} {entry : PricingConfig}
    {row : PricingRecord} {rest : List PricingRecord}
    (h : db.pricing.map PricingRecord.config ++ (row :: rest).map PricingRecord.config =
      full.pricing.map PricingRecord.config)
    (hrow : entry.stored = some row.config) (hid : id ∉ db.pricing.map PricingRecord.id) :
    ∃ db', db.createPricing id entry = .ok db' ∧
      db'.pricing = db.pricing ++ [{ id := id, config := row.config }] := by
  have hpair := (stored_texts hrow).1.symm
  have hpairs := full.constraints.pricingPairs
  have hsplit : (full.pricing.map fun row => (row.config.provider, row.config.model)) =
      (db.pricing.map fun row => (row.config.provider, row.config.model)) ++
        (row.config.provider, row.config.model) ::
          rest.map fun row => (row.config.provider, row.config.model) := by
    have := congrArg (List.map fun entry : PricingConfig => (entry.provider, entry.model)) h
    simpa [Function.comp_def] using this.symm
  rw [hsplit, List.nodup_append] at hpairs
  obtain ⟨-, -, hdisj⟩ := hpairs
  have hnone : db.hasRule entry.provider entry.model = false := by
    rw [CatalogDb.hasRule, List.any_eq_false]
    intro old hold hkey
    have hkey := of_decide_eq_true hkey
    refine hdisj _ (List.mem_map_of_mem hold) _ (List.mem_cons_self ..) ?_
    rw [← hpair, hkey.1, hkey.2]
  have htexts : ∀ text ∈ row.config.texts, isText text := by
    have hmem : row.config ∈ full.pricing.map PricingRecord.config := by
      rw [← h]
      simp
    obtain ⟨row', hrow', heq⟩ := List.mem_map.1 hmem
    rw [← heq]
    exact (CatalogTables.texts_iff.1 full.constraints.texts).2.1 row' hrow'
  have hc := db.constraints
  obtain ⟨hp, hpr, hm, hd⟩ := CatalogTables.texts_iff.1 hc.texts
  have hconstraints : (CatalogTables.mk db.providers
      (db.pricing ++ [{ id := id, config := row.config }]) db.models
      db.deployments).Constraints := by
    refine ⟨hc.providerIds, ?_, ?_, hc.modelNames, hc.deploymentPairs, hc.deploymentModels,
      hc.deploymentProviders, CatalogTables.texts_iff.2 ⟨hp, ?_, hm, hd⟩⟩
    · rw [List.map_append, List.map_singleton, List.nodup_append]
      refine ⟨hc.pricingIds, List.nodup_singleton _, fun a ha b hb => ?_⟩
      rw [List.mem_singleton.1 hb]
      rintro rfl
      exact hid ha
    · rw [List.map_append, List.map_singleton, List.nodup_append]
      refine ⟨hc.pricingPairs, List.nodup_singleton _, fun a ha b hb => ?_⟩
      exact hdisj a ha b (by rw [List.mem_singleton.1 hb]; exact List.mem_cons_self ..)
    · exact List.forall_mem_append.2 ⟨hpr, List.forall_mem_singleton.2 htexts⟩
  have hcommit : db.commit (fun t => { t with
      pricing := t.pricing ++ [{ id := id, config := row.config }] }) =
      .ok ⟨_, db.collation, hconstraints⟩ := CatalogDb.commit_of hconstraints rfl
  refine ⟨⟨_, db.collation, hconstraints⟩, ?_, rfl⟩
  rw [CatalogDb.createPricing, hnone, hrow]
  exact hcommit

theorem fills_pricing {full : CatalogDb} {entries : List PricingConfig} {rows : List PricingRecord}
    (hstored : List.Forall₂ (fun entry row => entry.stored = some (PricingRecord.config row))
      entries rows) :
    ∀ (n : Nat) (db : CatalogDb),
      db.pricing.map PricingRecord.config ++ rows.map PricingRecord.config =
        full.pricing.map PricingRecord.config →
      db.pricing.map PricingRecord.id = (List.range n).map draw.newId →
      Fills full .pricing db
        ((entries.zipIdx n).map fun (entry, n) => .createPricing (draw.newId n) entry) := by
  induction hstored with
  | nil =>
    intro n db h _
    exact .done (by simpa [ImportStage.Agrees] using h)
  | @cons entry row entries rows hrow _ ih =>
    intro n db h hids
    have hid : draw.newId n ∉ db.pricing.map PricingRecord.id := by
      rw [hids, List.mem_map_of_injective draw.fresh]
      simp
    obtain ⟨db', hexec, hrows⟩ := createPricing_new h hrow hid
    have hsize : ImportStage.size db .pricing < ImportStage.size db' .pricing := by
      simp [ImportStage.size, hrows]
    refine .call hexec hsize (ih (n + 1) db' ?_ ?_)
    · rw [hrows, ← h]
      simp
    · rw [hrows, List.range_succ, List.map_append, List.map_append, hids]
      rfl

/-! ### Models -/

theorem shown_names (rows : List ModelRow) :
    (rows.map ModelRow.shown).map Prod.fst = rows.map ModelRow.name := by
  rw [List.map_map]
  rfl

/-- A new model is created without a chain. -/
theorem createModel_new {full db : CatalogDb} {name : String} {covered : Bool}
    {rest : List (String × Bool)} (now : DateTime)
    (hmodels : db.models.map ModelRow.shown ++ (name, covered) :: rest =
      full.models.map ModelRow.shown) :
    (∀ row ∈ db.models, row.name ≠ name) ∧
      ∃ created, db.createModel name now = .ok created ∧
        created.models = db.models ++ [{ name := name, enabled := false, createdAt := now }] ∧
        created.providers = db.providers ∧ created.deployments = db.deployments := by
  have hnames := congrArg (List.map Prod.fst) hmodels
  rw [List.map_append, shown_names, shown_names, List.map_cons] at hnames
  have hnd := full.constraints.modelNames
  rw [← hnames, List.nodup_append] at hnd
  obtain ⟨-, -, hdisj⟩ := hnd
  have hfresh : ∀ row ∈ db.models, row.name ≠ name := fun row hrow =>
    hdisj row.name (List.mem_map_of_mem hrow) name (List.mem_cons_self ..)
  have htext : isText name := by
    have hmem : name ∈ full.models.map ModelRow.name := by
      rw [← hnames]
      simp
    obtain ⟨row, hrow, rfl⟩ := List.mem_map.1 hmem
    exact (CatalogTables.texts_iff.1 full.constraints.texts).2.2.1 row hrow
  obtain ⟨created, hcreate, ht⟩ := CatalogDb.createModel_of hfresh htext now
  refine ⟨hfresh, created, hcreate, ?_, ?_, ?_⟩ <;> rw [ht]

/-- The chain of a model that has none is added. -/
theorem setDeployments_new {full db : CatalogDb} {name : String} {chain : List (String × String)}
    {rest : List DeploymentRow}
    (hdeployments : db.deployments ++ CatalogDb.deploymentRows name chain ++ rest =
      full.deployments)
    (hproviders : db.providers = full.providers) (hname : name ∈ db.models.map ModelRow.name)
    (hnone : ∀ row ∈ db.deployments, row.modelName ≠ name) :
    ∃ saved, db.setDeployments name chain = .ok (saved, true) ∧ saved.models = db.models ∧
      saved.providers = db.providers ∧
      saved.deployments = db.deployments ++ CatalogDb.deploymentRows name chain := by
  have hfull := full.constraints
  have hrows : ∀ row ∈ CatalogDb.deploymentRows name chain, row ∈ full.deployments := by
    intro row hrow
    rw [← hdeployments]
    exact List.mem_append_left _ (List.mem_append_right _ hrow)
  have honce : (chain.map Prod.fst).Nodup := by
    have hnd := hfull.deploymentPairs
    rw [← hdeployments, List.map_append, List.map_append, List.nodup_append, List.nodup_append]
      at hnd
    exact (CatalogDb.deploymentRows_pairs_nodup name chain).1 hnd.1.2.1
  have hchain : ∀ d ∈ chain, d.1 ∈ db.providers.map ProviderConfig.id ∧ isText d.2 := by
    intro d hd
    obtain ⟨row, hrow, hid, hupstream⟩ := CatalogDb.exists_deploymentRow name hd
    have hmem := hrows row hrow
    have htexts := (CatalogTables.texts_iff.1 hfull.texts).2.2.2 row hmem
    rw [hproviders, ← hid, ← hupstream]
    exact ⟨hfull.deploymentProviders row hmem, htexts _ (by simp [DeploymentRow.texts])⟩
  obtain ⟨saved, hset, ht⟩ := CatalogDb.setDeployments_of hname honce hchain
  have hold : db.deployments.filter (·.modelName ≠ name) = db.deployments := by
    simpa using hnone
  refine ⟨saved, hset, ?_, ?_, ?_⟩
  · rw [ht]
  · rw [ht]
  · rw [ht, hold]

/-- The last model is enabled. -/
theorem enableModel_last {db : CatalogDb} {old : List ModelRow} {row : ModelRow}
    (hmodels : db.models = old ++ [row]) (hold : ∀ r ∈ old, r.name ≠ row.name) :
    ∃ enabled, ImportCall.exec db (.enableModel row.name) = .ok enabled ∧
      enabled.models.map ModelRow.shown = old.map ModelRow.shown ++ [(row.name, true)] ∧
      enabled.providers = db.providers ∧ enabled.deployments = db.deployments := by
  obtain ⟨enabled, found, hexec, ht⟩ := @CatalogDb.setModelStatus_ok db row.name true
  refine ⟨enabled, ?_, ?_, ?_, ?_⟩
  · simp only [ImportCall.exec, hexec]
    rfl
  · have hsame : old.map (ModelRow.shown ∘ fun r =>
        if r.name = row.name then { r with enabled := true } else r) = old.map ModelRow.shown := by
      refine List.map_congr_left fun r hr => ?_
      rw [Function.comp_apply, if_neg (hold r hr)]
    have hm : enabled.models = _ := congrArg CatalogTables.models ht
    rw [hm, CatalogDb.withStatus, hmodels, List.map_map, List.map_append, hsame, List.map_singleton,
      Function.comp_apply, if_pos rfl]
    rfl
  · rw [ht]
    rfl
  · rw [ht]
    rfl

theorem fills_models {full : CatalogDb} (pricing : List PricingConfig) (now : DateTime)
    (rest : List NamedChain) (hne : ∀ entry ∈ rest, entry.2 ≠ []) :
    ∀ db : CatalogDb, db.providers = full.providers →
      db.models.map ModelRow.shown ++
          (rest.map fun entry => (entry.1, chainCovered pricing entry)) =
        full.models.map ModelRow.shown →
      db.deployments ++
          (rest.flatMap fun entry => CatalogDb.deploymentRows entry.1 entry.2) =
        full.deployments →
      Fills full .models db (rest.flatMap (migrateCalls pricing now)) := by
  induction rest with
  | nil =>
    intro db _ hmodels hdeployments
    exact .done ⟨by simpa using hmodels, by simpa using hdeployments⟩
  | cons entry rest ih =>
    obtain ⟨name, chain⟩ := entry
    intro db hproviders hmodels hdeployments
    rw [List.map_cons] at hmodels
    rw [List.flatMap_cons, ← List.append_assoc] at hdeployments
    have hne' := hne (name, chain) (List.mem_cons_self ..)
    have ih := ih fun e he => hne e (List.mem_cons_of_mem _ he)
    -- the three calls of the model, one after another
    obtain ⟨hfresh, created, hcreate, hcm, hcp, hcd⟩ := createModel_new now hmodels
    have hno : ∀ row ∈ db.deployments, row.modelName ≠ name := by
      intro row hrow heq
      obtain ⟨model, hmodel, hmn⟩ := List.mem_map.1 (db.constraints.deploymentModels row hrow)
      exact hfresh model hmodel (hmn.trans heq)
    obtain ⟨saved, hset, hsm, hsp, hsd⟩ := setDeployments_new (by rw [hcd]; exact hdeployments)
      (hcp.trans hproviders) (by rw [hcm]; simp) (by rw [hcd]; exact hno)
    have hexecSet : ImportCall.exec created (.setDeployments name chain) = .ok saved := by
      simp only [ImportCall.exec, hset]
      rfl
    have hsaved : saved.models =
        db.models ++ [{ name := name, enabled := false, createdAt := now }] := hsm.trans hcm
    have hgrowCreate : ImportStage.size db .models < ImportStage.size created .models := by
      rw [ImportStage.size, ImportStage.size, hcm, hcd, List.map_append, List.filter_append]
      simp [ModelRow.shown]
    have hgrowSet : ImportStage.size created .models < ImportStage.size saved .models := by
      have hlen : (CatalogDb.deploymentRows name chain).length = chain.length := by
        simp [CatalogDb.deploymentRows]
      have := List.length_pos_iff.2 hne'
      rw [ImportStage.size, ImportStage.size, hsm, hsd, hcd, List.length_append, hlen]
      dsimp only at this
      omega
    rw [List.flatMap_cons, migrateCalls, List.cons_append, List.cons_append]
    refine .call hcreate hgrowCreate (.call hexecSet hgrowSet ?_)
    rw [← hcd, ← hsd] at hdeployments
    cases hcov : chainCovered pricing (name, chain) with
    | false =>
      rw [if_neg Bool.false_ne_true, List.nil_append]
      refine ih saved (hsp.trans (hcp.trans hproviders)) ?_ hdeployments
      rw [hsaved, List.map_append, List.append_assoc, ← hmodels, hcov]
      rfl
    | true =>
      rw [if_pos rfl]
      obtain ⟨enabled, hexec, hem, hep, hed⟩ := enableModel_last hsaved hfresh
      refine .call hexec ?_ (ih enabled (hep.trans (hsp.trans (hcp.trans hproviders))) ?_
        (by rw [hed]; exact hdeployments))
      · have hlen := congrArg List.length hem
        simp only [List.length_map, List.length_append, List.length_singleton] at hlen
        rw [ImportStage.size, ImportStage.size, hem, hed, hsaved, hlen, List.map_append,
          List.filter_append, List.filter_append]
        simp [ModelRow.shown]
      · rw [hem, List.append_assoc, ← hmodels, hcov]
        rfl

/-! ### Every stage -/

/-- **A stage that finds its table empty** and the earlier ones complete makes its table
complete. -/
theorem IsImport.fills {full : CatalogDb} (hfull : IsImport config full) (draw : BootDraw)
    {stage : ImportStage} {db : CatalogDb} (hcol : db.collation = full.collation)
    (hempty : stage.Empty db) (hearlier : ∀ other ∈ stage.earlier, other.Agrees db full) :
    Fills full stage db (stage.calls config draw db) := by
  cases stage with
  | providers =>
    have hempty : db.providers = [] := hempty
    have hcount : db.providerCount = 0 := List.length_eq_zero_iff.2 hempty
    rw [ImportStage.calls, if_pos hcount]
    exact fills_providers _ db (by rw [hempty, hfull.providers, List.nil_append])
  | pricing =>
    have hempty : db.pricing = [] := hempty
    have hcount : db.pricingCount = 0 := List.length_eq_zero_iff.2 hempty
    rw [ImportStage.calls, if_pos hcount]
    exact fills_pricing hfull.pricing 0 db (by rw [hempty]; rfl) (by rw [hempty]; rfl)
  | models =>
    have hempty : db.models = [] := hempty
    have hproviders := hearlier .providers (by simp [ImportStage.earlier])
    have hpricing := hearlier .pricing (by simp [ImportStage.earlier])
    have hnone : db.deployments = [] := by
      refine List.eq_nil_iff_forall_not_mem.2 fun row hrow => ?_
      have := db.constraints.deploymentModels row hrow
      rw [hempty] at this
      cases this
    rw [ImportStage.calls, if_neg (by simp [CatalogDb.modelCount, hempty]),
      deriveChains_congr hproviders, listPricing_congr hcol hpricing]
    refine fills_models _ _ _ (deriveChains_nonempty full config.routes) db hproviders ?_ ?_
    · rw [hempty, hfull.models]
      rfl
    · rw [hnone, hfull.deployments]
      rfl

/-! ## Files that can be imported -/

/-- The rule rows of the file, numbered. -/
def importedRules (n : Nat) (entries : List PricingConfig) : List PricingRecord :=
  (entries.zipIdx n).map fun (entry, n) => { id := n, config := entry.stored.getD entry }

theorem importedRules_stored {entries : List PricingConfig}
    (h : ∀ entry ∈ entries, entry.stored.isSome) (n : Nat) :
    List.Forall₂ (fun entry row => entry.stored = some (PricingRecord.config row)) entries
      (importedRules n entries) := by
  induction entries generalizing n with
  | nil => exact .nil
  | cons entry entries ih =>
    obtain ⟨stored, hs⟩ := Option.isSome_iff_exists.1 (h entry (List.mem_cons_self ..))
    exact .cons (by simp [hs]) (ih (fun e he => h e (List.mem_cons_of_mem _ he)) _)

/-- Rows that store entries have their pairs and their texts. -/
theorem stored_rows {entries : List PricingConfig} {rows : List PricingRecord}
    (h : List.Forall₂ (fun entry row => entry.stored = some (PricingRecord.config row))
      entries rows) :
    rows.map (fun row => (row.config.provider, row.config.model)) =
        entries.map (fun entry => (entry.provider, entry.model)) ∧
      rows.map (fun row => row.config.texts) = entries.map PricingConfig.texts := by
  induction h with
  | nil => exact ⟨rfl, rfl⟩
  | cons hrow _ ih =>
    obtain ⟨hpair, htexts⟩ := stored_texts hrow
    exact ⟨by rw [List.map_cons, List.map_cons, hpair, ih.1],
      by rw [List.map_cons, List.map_cons, htexts, ih.2]⟩

theorem stored_isSome {entries : List PricingConfig} {rows : List PricingRecord}
    (h : List.Forall₂ (fun entry row => entry.stored = some (PricingRecord.config row))
      entries rows) : ∀ entry ∈ entries, entry.stored.isSome := by
  induction h with
  | nil => exact fun _ he => absurd he List.not_mem_nil
  | cons hrow _ ih => exact List.forall_mem_cons.2 ⟨by rw [hrow]; rfl, ih⟩

theorem forall_texts_iff {R S : Type} {rows : List R} {entries : List S} {f : R → List String}
    {g : S → List String} (h : rows.map f = entries.map g) :
    (∀ row ∈ rows, ∀ text ∈ f row, isText text) ↔
      ∀ entry ∈ entries, ∀ text ∈ g entry, isText text := by
  have hmap : ∀ {T : Type} (l : List T) (k : T → List String),
      (∀ x ∈ l, ∀ text ∈ k x, isText text) ↔ ∀ texts ∈ l.map k, ∀ text ∈ texts, isText text := by
    intro T l k
    simp
  rw [hmap rows f, h, ← hmap entries g]

/-- The tables of chains that can be stored meet the constraints. -/
theorem ChainsOk.constraints {db : CatalogDb} {chains : List NamedChain} (h : ChainsOk db chains)
    {rows : List ModelRow} (hrows : rows.map ModelRow.name = chains.map Prod.fst) :
    (CatalogTables.mk db.providers db.pricing rows
      (chains.flatMap fun entry => CatalogDb.deploymentRows entry.1 entry.2)).Constraints := by
  have hc := db.constraints
  obtain ⟨hp, hpr, -, -⟩ := CatalogTables.texts_iff.1 hc.texts
  refine ⟨hc.providerIds, hc.pricingIds, hc.pricingPairs, ?_, ?_, fun row hrow => ?_,
    fun row hrow => ?_, CatalogTables.texts_iff.2 ⟨hp, hpr, fun row hrow => ?_,
      fun row hrow => ?_⟩⟩
  · rw [hrows]
    exact h.names
  · rw [List.map_flatMap]
    refine List.nodup_flatMap.2 ⟨fun entry he => ?_, ?_⟩
    · exact (CatalogDb.deploymentRows_pairs_nodup entry.1 entry.2).2 (h.once entry he)
    · refine (List.pairwise_map.1 h.names).imp fun {a b} hab => ?_
      rw [Function.onFun, CatalogDb.deploymentRows_pairs, CatalogDb.deploymentRows_pairs,
        List.disjoint_left]
      intro pair ha hb
      obtain ⟨_, -, rfl⟩ := List.mem_map.1 ha
      obtain ⟨_, -, heq⟩ := List.mem_map.1 hb
      exact hab (congrArg Prod.fst heq).symm
  · obtain ⟨entry, he, hrow⟩ := List.mem_flatMap.1 hrow
    rw [hrows, (CatalogDb.mem_deploymentRows hrow).1]
    exact List.mem_map_of_mem he
  · obtain ⟨entry, he, hrow⟩ := List.mem_flatMap.1 hrow
    exact h.known entry he _ (CatalogDb.mem_deploymentRows hrow).2
  · have hname : row.name ∈ chains.map Prod.fst := hrows ▸ List.mem_map_of_mem hrow
    obtain ⟨entry, he, heq⟩ := List.mem_map.1 hname
    exact heq ▸ h.nameTexts entry he
  · obtain ⟨entry, he, hrow⟩ := List.mem_flatMap.1 hrow
    obtain ⟨hname, hd⟩ := CatalogDb.mem_deploymentRows hrow
    obtain ⟨hprovider, hupstream⟩ := h.texts entry he _ hd
    rw [DeploymentRow.texts, List.forall_mem_cons, List.forall_mem_cons,
      List.forall_mem_singleton]
    exact ⟨hname ▸ h.nameTexts entry he, hprovider, hupstream⟩

/-- An importable file gives the tables of a full import. -/
theorem exists_isImport (h : config.Importable) (collation : String → String → Bool) :
    ∃ full, IsImport config full ∧ full.collation = collation := by
  have hstored := importedRules_stored h.rates 0
  obtain ⟨hpairs, htexts⟩ := stored_rows hstored
  have hids : ((importedRules 0 config.pricing).map PricingRecord.id).Nodup := by
    have : (importedRules 0 config.pricing).map PricingRecord.id =
        List.range' 0 config.pricing.length := by
      rw [importedRules, List.map_map]
      exact List.zipIdx_map_snd 0 config.pricing
    rw [this]
    exact List.nodup_range'
  have hbase : (CatalogTables.mk config.providers (importedRules 0 config.pricing) []
      []).Constraints := by
    refine ⟨h.providerIds, hids, hpairs ▸ h.pricingPairs, List.nodup_nil, List.nodup_nil,
      by simp, by simp, CatalogTables.texts_iff.2 ⟨h.providerTexts, ?_, by simp, by simp⟩⟩
    exact (forall_texts_iff htexts).2 h.pricingTexts
  let base : CatalogDb := ⟨_, collation, hbase⟩
  let pricing := base.listPricing.map PricingRecord.config
  let rows := (deriveChains base config.routes).map fun entry =>
    ModelRow.mk entry.1 (chainCovered pricing entry) 0
  have hnames : rows.map ModelRow.name = (deriveChains base config.routes).map Prod.fst := by
    rw [List.map_map]
    rfl
  let full : CatalogDb :=
    ⟨_, collation, (deriveChains_ok base config.routes).constraints hnames⟩
  have hchains : deriveChains full config.routes = deriveChains base config.routes :=
    deriveChains_congr rfl _
  have hpricing : full.listPricing.map PricingRecord.config = pricing := listPricing_congr rfl rfl
  refine ⟨full, ⟨rfl, hstored, ?_, ?_⟩, rfl⟩
  · rw [hchains, hpricing]
    exact List.map_map
  · rw [hchains]

/-- A stage whose table is empty or complete ends with a complete one and leaves the others. -/
theorem IsImport.stage_completes {full : CatalogDb} (hfull : IsImport config full)
    (draw : BootDraw) {stage : ImportStage} {db : CatalogDb} (hcol : db.collation = full.collation)
    (hclean : stage.Empty db ∨ stage.Agrees db full)
    (hearlier : ∀ other ∈ stage.earlier, other.Agrees db full) :
    ∃ db', (stage.calls config draw db).foldlM ImportCall.exec db = .ok db' ∧
      stage.Agrees db' full ∧ db'.collation = full.collation ∧
      ∀ other, other ≠ stage → other.Agrees db' db := by
  by_cases hempty : stage.Empty db
  · obtain ⟨db', hfold, hagree⟩ := (hfull.fills draw hcol hempty hearlier).exec
    obtain ⟨hcol', hframe⟩ := exec_calls_frame (fun _ => ImportStage.stage_of_mem_calls) hfold
    exact ⟨db', hfold, hagree, hcol'.trans hcol, fun other ho => (hframe other ho).agrees⟩
  · rw [ImportStage.calls_of_not_empty hempty]
    exact ⟨db, rfl, hclean.resolve_left hempty, hcol, fun other _ => .refl other db⟩

/-- The tables of every stage are empty or those of the full import. -/
def Clean (full db : CatalogDb) : Prop :=
  ∀ stage : ImportStage, stage.Empty db ∨ stage.Agrees db full

theorem ImportStage.Agrees.clean {full a b : CatalogDb} {stage : ImportStage}
    (h : stage.Agrees a b) (hb : stage.Empty b ∨ stage.Agrees b full) :
    stage.Empty a ∨ stage.Agrees a full :=
  hb.imp h.empty.2 h.trans

/-- **A boot on clean tables completes the import.** -/
theorem IsImport.importOnce_clean {full : CatalogDb} (hfull : IsImport config full)
    {db : CatalogDb} (hcol : db.collation = full.collation) (hclean : Clean full db)
    (draw : BootDraw) :
    ∃ later, db.importOnce config draw.newId draw.now = .ok later ∧ later.Same full := by
  obtain ⟨a, ha, hap, hacol, haf⟩ := hfull.stage_completes draw hcol
    (hclean .providers) (by simp [ImportStage.earlier])
  have haPricing := (haf .pricing nofun).clean (hclean .pricing)
  obtain ⟨b, hb, hbp, hbcol, hbf⟩ := hfull.stage_completes draw hacol haPricing
    (by simpa [ImportStage.earlier] using hap)
  have hbProviders := (hbf .providers nofun).trans hap
  have hbModels := ((hbf .models nofun).trans (haf .models nofun)).clean (hclean .models)
  obtain ⟨later, hl, hlm, -, hlf⟩ := hfull.stage_completes draw hbcol hbModels
    (by simpa [ImportStage.earlier] using ⟨hbProviders, hbp⟩)
  refine ⟨later, importOnce_calls.2 ⟨a, b, ha, hb, hl⟩, CatalogDb.same_iff.2 ?_⟩
  rintro (_ | _ | _)
  · exact (hlf .providers nofun).trans hbProviders
  · exact (hlf .pricing nofun).trans hbp
  · exact hlm

/-- The import keeps the rows of a table that is not empty. -/
theorem importOnce_keeps {db db' : CatalogDb}
    (h : db.importOnce config draw.newId draw.now = .ok db') {stage : ImportStage}
    (hne : ¬ stage.Empty db) : stage.Untouched db' db := by
  obtain ⟨a, b, ha, hb, hd⟩ := importOnce_calls.1 h
  have hstep : ∀ {u v : CatalogDb} {st : ImportStage}, ¬ stage.Empty u →
      (st.calls config draw u).foldlM ImportCall.exec u = .ok v → stage.Untouched v u := by
    intro u v st hu hfold
    by_cases hst : stage = st
    · subst hst
      rw [ImportStage.calls_of_not_empty hu] at hfold
      cases hfold
      exact .refl stage u
    · exact (exec_calls_frame (fun _ => ImportStage.stage_of_mem_calls) hfold).2 stage hst
  have hab := hstep hne ha
  have hne' : ¬ stage.Empty a := fun h0 => hne (hab.agrees.empty.1 h0)
  have hbb := hstep hne' hb
  have hne'' : ¬ stage.Empty b := fun h0 => hne' (hbb.agrees.empty.1 h0)
  exact (hstep hne'' hd).trans (hbb.trans hab)

theorem upsertProviders_ok {providers : List ProviderConfig} {db db' : CatalogDb}
    (h : (providers.map ImportCall.upsertProvider).foldlM ImportCall.exec db = .ok db') :
    db'.providers = db.providers ++ providers := by
  induction providers generalizing db with
  | nil =>
    cases h
    simp
  | cons provider providers ih =>
    rw [List.map_cons, List.foldlM_cons, bind_ok] at h
    obtain ⟨a, hexec, h⟩ := h
    have hrows : a.providers = db.providers ++ [provider] := by
      simp only [ImportCall.exec, CatalogDb.upsertProvider] at hexec
      split at hexec
      · cases hexec
      · rename_i hnew
        split at hexec
        · rename_i existing he
          exact absurd ⟨trivial, by rw [he]; rfl⟩ hnew
        · rw [(CatalogDb.commit_ok hexec).1]
    rw [ih h, hrows, List.append_assoc]
    rfl

theorem createPricings_ok {entries : List (PricingConfig × Nat)} {db db' : CatalogDb}
    (h : (entries.map fun (entry, n) => ImportCall.createPricing (draw.newId n) entry).foldlM
      ImportCall.exec db = .ok db') :
    ∃ rows, List.Forall₂ (fun entry row => entry.1.stored = some (PricingRecord.config row))
      entries rows ∧ db'.pricing = db.pricing ++ rows := by
  induction entries generalizing db with
  | nil =>
    cases h
    exact ⟨[], .nil, by simp⟩
  | cons entry entries ih =>
    rw [List.map_cons, List.foldlM_cons, bind_ok] at h
    obtain ⟨a, hexec, h⟩ := h
    obtain ⟨stored, hstored, ht⟩ := CatalogDb.createPricing_ok hexec
    obtain ⟨rows, hrows, hdb⟩ := ih h
    refine ⟨⟨draw.newId entry.2, stored⟩ :: rows, .cons hstored hrows, ?_⟩
    rw [hdb, ht, List.append_assoc]
    rfl

/-- **Which files can be imported**: a boot on empty tables completes exactly for these. -/
theorem importable_iff {collation : String → String → Bool} (draw : BootDraw) :
    config.Importable ↔ ∃ full, (CatalogDb.empty collation).importOnce config draw.newId draw.now =
      .ok full := by
  constructor
  · intro h
    obtain ⟨full, hfull, hcol⟩ := exists_isImport h collation
    have hclean : Clean full (.empty collation) := by
      rintro (_ | _ | _) <;> exact .inl rfl
    obtain ⟨later, hlater, -⟩ := hfull.importOnce_clean hcol.symm hclean draw
    exact ⟨later, hlater⟩
  · rintro ⟨full, h⟩
    obtain ⟨a, b, ha, hb, hd⟩ := importOnce_calls.1 h
    have hframe := fun {st : ImportStage} {u v : CatalogDb}
      (h : (st.calls config draw u).foldlM ImportCall.exec u = .ok v) =>
        (exec_calls_frame (fun _ => ImportStage.stage_of_mem_calls) h).2
    have hproviders : a.providers = config.providers := upsertProviders_ok ha
    have hempty : a.pricing = [] := (hframe ha .pricing nofun).agrees.empty.2 rfl
    have hcount : a.pricingCount = 0 := List.length_eq_zero_iff.2 hempty
    rw [ImportStage.calls, if_pos hcount] at hb
    obtain ⟨rows, hrows, hpricing⟩ := createPricings_ok hb
    rw [hempty, List.nil_append] at hpricing
    have hstored : List.Forall₂ (fun entry row => entry.stored = some (PricingRecord.config row))
        config.pricing rows := by
      have hfst := List.zipIdx_map_fst 0 config.pricing
      rw [← hfst]
      exact List.forall₂_map_left_iff.2 hrows
    obtain ⟨hpairs, htexts⟩ := stored_rows hstored
    obtain ⟨hat, -⟩ := CatalogTables.texts_iff.1 a.constraints.texts
    obtain ⟨-, hbt, -⟩ := CatalogTables.texts_iff.1 b.constraints.texts
    refine ⟨hproviders ▸ a.constraints.providerIds, hproviders ▸ hat, ?_, ?_,
      stored_isSome hstored⟩
    · rw [← hpairs, ← hpricing]
      exact b.constraints.pricingPairs
    · exact (forall_texts_iff htexts).1 (hpricing ▸ hbt)

end LiteAgentify
