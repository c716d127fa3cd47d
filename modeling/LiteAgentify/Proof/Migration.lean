import LiteAgentify.Lib.Assoc
import LiteAgentify.Proof.Import

/-!
# The catalog that the routes imply

`referenceChain` says what the chain of a model is: the providers of the routes in order, each
existing one that has the model as an alias, the first time it occurs. The loops of the migration
compute it (`chainIn_deriveChains`), whatever the order in which the alias maps give their entries.
-/

set_option autoImplicit false

namespace LiteAgentify

open Assoc

/-! ## The reference -/

/-- The upstream model under which the provider serves a public name. -/
def CatalogDb.aliasOf (db : CatalogDb) (name providerId : String) : Option String :=
  (db.getProvider providerId).bind fun provider => provider.modelAliases.lookup name

/-- A provider with its alias of the model, if it exists and has one. -/
def CatalogDb.deploymentOn (db : CatalogDb) (name providerId : String) :
    Option (String × String) :=
  (db.aliasOf name providerId).map fun upstream => (providerId, upstream)

def referenceChain (db : CatalogDb) (routes : List RouteConfig) (name : String) :
    List (String × String) :=
  firsts ((routes.flatMap RouteConfig.providers).filterMap (db.deploymentOn name))

/-! ## The loops -/

/-- The chain that has been built for a name, empty when there is none. -/
def chainIn (chains : List NamedChain) (name : String) : List (String × String) :=
  (chains.lookup name).getD []

section
variable {db : CatalogDb}

/-- Chains that are rewritten under their names. -/
theorem lookup_map_chain (f : String → List (String × String) → List (String × String))
    (chains : List NamedChain) (name : String) :
    (chains.map fun entry => (entry.1, f entry.1 entry.2)).lookup name =
      (chains.lookup name).map (f name) := by
  induction chains with
  | nil => rfl
  | cons entry chains ih =>
    rw [List.map_cons, List.lookup_cons, List.lookup_cons, ih]
    by_cases hname : name = entry.1
    · rw [beq_iff_eq.2 hname, ← hname]
      rfl
    · rw [beq_eq_false_iff_ne.2 hname]

theorem chainIn_addAlias (providerId : String) (chains : List NamedChain) (entry : String × String)
    (name : String) :
    chainIn (addAlias providerId chains entry) name =
      if name = entry.1 then addNew (chainIn chains name) (providerId, entry.2)
      else chainIn chains name := by
  unfold addAlias
  split
  · rename_i hthere
    have hentry : ∀ e : NamedChain,
        (if e.1 = entry.1 ∧ ¬ e.2.any (·.1 = providerId) then
          (e.1, e.2 ++ [(providerId, entry.2)]) else (e.1, e.2)) =
        (e.1, if e.1 = entry.1 then addNew e.2 (providerId, entry.2) else e.2) := by
      intro e
      by_cases hname : e.1 = entry.1 <;> by_cases hold : e.2.any (·.1 = providerId) <;>
        simp [hname, hold, addNew]
    rw [List.map_congr_left fun e _ => hentry e, chainIn, lookup_map_chain fun old chain =>
      if old = entry.1 then addNew chain (providerId, entry.2) else chain]
    cases hlookup : chains.lookup name with
    | some chain => split <;> simp_all [chainIn]
    | none =>
      have hne : name ≠ entry.1 := by
        rintro rfl
        obtain ⟨e, he, heq⟩ := List.any_eq_true.1 hthere
        have := List.lookup_eq_none_iff.1 hlookup e he
        simp_all
      rw [if_neg hne, chainIn, hlookup]
      rfl
  · rename_i hnew
    rw [chainIn, List.lookup_append, List.lookup_cons, List.lookup_nil]
    by_cases hname : name = entry.1
    · have hnone : chains.lookup name = none := by
        rw [List.lookup_eq_none_iff]
        intro e he
        rw [bne_iff_ne]
        intro heq
        exact hnew (List.any_eq_true.2 ⟨e, he, decide_eq_true (heq.symm.trans hname)⟩)
      rw [if_pos hname, beq_iff_eq.2 hname, chainIn, hnone]
      rfl
    · rw [if_neg hname, beq_eq_false_iff_ne.2 hname, Option.or_none]
      rfl

/-- The aliases of a provider extend the chain of a name when the name is one of them. -/
theorem chainIn_aliases (providerId : String) (aliases : List (String × String))
    (chains : List NamedChain) (name : String) :
    chainIn (aliases.foldl (addAlias providerId) chains) name =
      match aliases.lookup name with
      | none => chainIn chains name
      | some upstream => addNew (chainIn chains name) (providerId, upstream) := by
  induction aliases generalizing chains with
  | nil => rfl
  | cons entry aliases ih =>
    rw [List.foldl_cons, ih, chainIn_addAlias, List.lookup_cons]
    by_cases hname : name = entry.1
    · -- a second entry of the name would not add the provider again
      rw [if_pos hname, beq_iff_eq.2 hname]
      cases aliases.lookup name with
      | none => rfl
      | some upstream => exact addNew_addNew upstream
    · rw [if_neg hname, beq_eq_false_iff_ne.2 hname]

theorem chainIn_addProvider (chains : List NamedChain) (providerId name : String) :
    chainIn (addProvider db chains providerId) name =
      match db.deploymentOn name providerId with
      | none => chainIn chains name
      | some deployment => addNew (chainIn chains name) deployment := by
  unfold addProvider CatalogDb.deploymentOn CatalogDb.aliasOf
  cases db.getProvider providerId with
  | none => rfl
  | some provider =>
    rw [Option.bind_some]
    dsimp only
    rw [chainIn_aliases]
    cases provider.modelAliases.lookup name <;> rfl

/-- The chain of a name is the reference. -/
theorem chainIn_deriveChains (routes : List RouteConfig) (name : String) :
    chainIn (deriveChains db routes) name = referenceChain db routes name := by
  have hflat : deriveChains db routes =
      (routes.flatMap RouteConfig.providers).foldl (addProvider db) [] := by
    rw [List.foldl_flatMap]
    rfl
  rw [hflat, referenceChain, ← foldl_addNew_nil, List.foldl_filterMap]
  refine (List.foldl_hom (fun chains => chainIn chains name) fun chains providerId => ?_).symm
  rw [chainIn_addProvider]
  cases db.deploymentOn name providerId <;> rfl

theorem deploymentOn_ne_none (name providerId : String) :
    db.deploymentOn name providerId ≠ none ↔ ∃ provider ∈ db.providers,
      provider.id = providerId ∧ name ∈ provider.modelAliases.map Prod.fst := by
  have hlookup : ∀ provider : ProviderConfig, provider.modelAliases.lookup name ≠ none ↔
      name ∈ provider.modelAliases.map Prod.fst := by
    intro provider
    rw [← Option.isSome_iff_ne_none, List.lookup_isSome_iff, List.mem_map]
    constructor
    · rintro ⟨entry, hentry, hname⟩
      exact ⟨entry, hentry, (beq_iff_eq.1 hname).symm⟩
    · rintro ⟨entry, hentry, hname⟩
      exact ⟨entry, hentry, beq_iff_eq.2 hname.symm⟩
  rw [CatalogDb.deploymentOn, ne_eq, Option.map_eq_none_iff, CatalogDb.aliasOf]
  constructor
  · intro h
    cases hget : db.getProvider providerId with
    | none => exact absurd (by rw [hget]; rfl) h
    | some provider =>
      obtain ⟨hmem, hid⟩ := CatalogDb.getProvider_some hget
      rw [hget] at h
      exact ⟨provider, hmem, hid, (hlookup provider).1 h⟩
  · rintro ⟨provider, hmem, rfl, hname⟩
    rw [CatalogDb.getProvider_of_mem hmem]
    exact (hlookup provider).2 hname

/-- A model has a chain when some existing provider of some route has it as an alias. -/
theorem referenceChain_ne_nil (routes : List RouteConfig) (name : String) :
    referenceChain db routes name ≠ [] ↔ ∃ route ∈ routes, ∃ id ∈ route.providers,
      ∃ provider ∈ db.providers, provider.id = id ∧
        name ∈ provider.modelAliases.map Prod.fst := by
  rw [referenceChain, ne_eq, firsts_eq_nil, List.filterMap_eq_nil_iff]
  simp only [List.mem_flatMap, not_forall, ← deploymentOn_ne_none, exists_prop]
  constructor
  · rintro ⟨id, ⟨route, hroute, hid⟩, hsome⟩
    exact ⟨route, hroute, id, hid, hsome⟩
  · rintro ⟨route, hroute, id, hid, hsome⟩
    exact ⟨id, ⟨route, hroute, hid⟩, hsome⟩

/-- The chain has every provider of a route that has the model as an alias. -/
theorem mem_referenceChain (routes : List RouteConfig) (name providerId upstream : String) :
    (providerId, upstream) ∈ referenceChain db routes name ↔
      (∃ route ∈ routes, providerId ∈ route.providers) ∧
        db.aliasOf name providerId = some upstream := by
  have hon : ∀ id d, db.deploymentOn name id = some d ↔
      ∃ upstream, db.aliasOf name id = some upstream ∧ d = (id, upstream) := by
    intro id d
    rw [CatalogDb.deploymentOn, Option.map_eq_some_iff]
    simp only [eq_comm]
  rw [referenceChain, mem_firsts]
  · simp only [List.mem_filterMap, List.mem_flatMap, hon, Prod.mk.injEq]
    constructor
    · rintro ⟨id, hroute, _, halias, rfl, rfl⟩
      exact ⟨hroute, halias⟩
    · rintro ⟨hroute, halias⟩
      exact ⟨providerId, hroute, upstream, halias, rfl, rfl⟩
  · -- a provider has one upstream model for the name
    intro a ha b hb heq
    obtain ⟨id, -, ha⟩ := List.mem_filterMap.1 ha
    obtain ⟨id', -, hb⟩ := List.mem_filterMap.1 hb
    obtain ⟨u, hu, rfl⟩ := (hon id a).1 ha
    obtain ⟨u', hu', rfl⟩ := (hon id' b).1 hb
    obtain rfl : id = id' := heq
    rw [hu, Option.some.injEq] at hu'
    rw [hu']

/-! ## The tables -/

/-- The rows of one model are those of its chain. -/
theorem filter_deploymentRows {chains : List NamedChain} (h : (chains.map Prod.fst).Nodup)
    (name : String) :
    (chains.flatMap fun entry => CatalogDb.deploymentRows entry.1 entry.2).filter
        (·.modelName = name) = CatalogDb.deploymentRows name (chainIn chains name) := by
  induction chains with
  | nil => rfl
  | cons entry chains ih =>
    obtain ⟨hnew, h⟩ := List.nodup_cons.1 h
    rw [List.flatMap_cons, List.filter_append, ih h]
    by_cases hname : name = entry.1
    · have hnone : chainIn chains name = [] := by
        rw [chainIn, List.lookup_eq_none_iff.2]
        · rfl
        · intro e he
          rw [bne_iff_ne, hname]
          intro heq
          exact hnew (heq ▸ List.mem_map_of_mem he)
      have hhead : chainIn (entry :: chains) name = entry.2 := by
        rw [chainIn, List.lookup_cons, beq_iff_eq.2 hname]
        rfl
      rw [hnone, hhead, hname, List.filter_eq_self.2 fun row hrow =>
        decide_eq_true (CatalogDb.mem_deploymentRows hrow).1]
      exact List.append_nil _
    · have htail : chainIn (entry :: chains) name = chainIn chains name := by
        rw [chainIn, chainIn, List.lookup_cons, beq_eq_false_iff_ne.2 hname]
      rw [htail, List.filter_eq_nil_iff.2 fun row hrow heq =>
        hname ((of_decide_eq_true heq).symm.trans (CatalogDb.mem_deploymentRows hrow).1)]
      rfl

/-- What the migration writes. -/
theorem migrateRoutesOnce_tables (config : GatewayConfig) (now : DateTime)
    (hempty : db.models = []) :
    ∃ db', db.migrateRoutesOnce config now = .ok db' ∧ db'.providers = db.providers ∧
      db'.pricing = db.pricing ∧
      (db'.models.map ModelRow.shown = (deriveChains db config.routes).map fun entry =>
        (entry.1, chainCovered (db.listPricing.map PricingRecord.config) entry)) ∧
      db'.deployments = (deriveChains db config.routes).flatMap fun entry =>
        CatalogDb.deploymentRows entry.1 entry.2 := by
  let draw : BootDraw := ⟨id, now, Function.injective_id⟩
  let pricing := db.listPricing.map PricingRecord.config
  let rows := (deriveChains db config.routes).map fun entry =>
    ModelRow.mk entry.1 (chainCovered pricing entry) now
  have hnames : rows.map ModelRow.name = (deriveChains db config.routes).map Prod.fst := by
    rw [List.map_map]
    rfl
  let full : CatalogDb :=
    ⟨_, db.collation, (deriveChains_ok db config.routes).constraints hnames⟩
  have hnone : db.deployments = [] := by
    refine List.eq_nil_iff_forall_not_mem.2 fun row hrow => ?_
    have := db.constraints.deploymentModels row hrow
    rw [hempty] at this
    cases this
  have hcalls : ImportStage.calls config draw db .models =
      (deriveChains db config.routes).flatMap (migrateCalls pricing now) :=
    if_neg (by simp [CatalogDb.modelCount, hempty])
  have hfills : Fills full .models db (ImportStage.calls config draw db .models) := by
    rw [hcalls]
    refine fills_models pricing now _ (deriveChains_nonempty db config.routes) db rfl ?_ ?_
    · rw [hempty, List.map_nil, List.nil_append, List.map_map]
      rfl
    · rw [hnone, List.nil_append]
  obtain ⟨db', hfold, hagrees⟩ := hfills.exec
  obtain ⟨-, hframe⟩ := exec_calls_frame (fun _ => ImportStage.stage_of_mem_calls) hfold
  refine ⟨db', (migrateRoutesOnce_calls draw db).trans hfold, hframe .providers (by decide),
    hframe .pricing (by decide), ?_, hagrees.2⟩
  rw [hagrees.1, List.map_map]
  rfl

/-- The tables hold the catalog that the routes imply. -/
structure IsMigration (db : CatalogDb) (routes : List RouteConfig) (db' : CatalogDb) : Prop where
  providers : db'.providers = db.providers
  pricing : db'.pricing = db.pricing
  models : ∀ name, name ∈ db'.models.map ModelRow.name ↔
    ∃ route ∈ routes, ∃ id ∈ route.providers, ∃ provider ∈ db.providers, provider.id = id ∧
      name ∈ provider.modelAliases.map Prod.fst
  rows : ∀ name, db'.deployments.filter (·.modelName = name) =
    CatalogDb.deploymentRows name (referenceChain db routes name)
  chains : ∀ name, db'.chain name = deploymentsOf (referenceChain db routes name)
  enabled : ∀ row ∈ db'.models, row.enabled ↔ ∀ d ∈ referenceChain db routes row.name,
    (pricingRuleFor (db.listPricing.map PricingRecord.config) d.1 d.2).isSome

theorem chainCovered_iff (pricing : List PricingConfig) (entry : NamedChain) :
    chainCovered pricing entry ↔ ∀ d ∈ entry.2, (pricingRuleFor pricing d.1 d.2).isSome := by
  rw [chainCovered, uncoveredDeployments, deploymentsOf, List.isEmpty_iff, List.filter_eq_nil_iff,
    List.forall_mem_map]
  simp [Option.isSome_iff_ne_none]

theorem migrateRoutesOnce_isMigration (config : GatewayConfig) (now : DateTime)
    (hempty : db.models = []) :
    ∃ db', db.migrateRoutesOnce config now = .ok db' ∧ IsMigration db config.routes db' := by
  obtain ⟨db', hok, hproviders, hpricing, hmodels, hdeployments⟩ :=
    migrateRoutesOnce_tables config now hempty
  have hchains := deriveChains_ok db config.routes
  have hentry : ∀ entry ∈ deriveChains db config.routes,
      referenceChain db config.routes entry.1 = entry.2 := by
    intro entry he
    rw [← chainIn_deriveChains, chainIn, (lookup_iff_mem hchains.names).2 he]
    rfl
  have hnames : db'.models.map ModelRow.name =
      (deriveChains db config.routes).map Prod.fst := by
    rw [← shown_names, hmodels, List.map_map]
    rfl
  have hrows : ∀ name, db'.deployments.filter (·.modelName = name) =
      CatalogDb.deploymentRows name (referenceChain db config.routes name) := by
    intro name
    rw [hdeployments, filter_deploymentRows hchains.names, chainIn_deriveChains]
  refine ⟨db', hok, hproviders, hpricing, fun name => ?_, hrows, fun name => ?_,
    fun row hrow => ?_⟩
  · rw [hnames, ← referenceChain_ne_nil]
    constructor
    · intro hname
      obtain ⟨entry, he, rfl⟩ := List.mem_map.1 hname
      rw [hentry entry he]
      exact deriveChains_nonempty db config.routes entry he
    · intro hne
      rw [← chainIn_deriveChains, chainIn] at hne
      cases hlookup : (deriveChains db config.routes).lookup name with
      | none => exact absurd (by rw [hlookup]; rfl) hne
      | some chain => exact List.mem_map.2 ⟨_, (lookup_iff_mem hchains.names).1 hlookup, rfl⟩
  · rw [CatalogDb.chain, hrows, (CatalogDb.deploymentRows_sorted name _).insertionSort_eq,
      CatalogDb.deploymentRows_config]
  · have hshown : row.shown ∈ db'.models.map ModelRow.shown := List.mem_map_of_mem hrow
    rw [hmodels] at hshown
    obtain ⟨entry, he, heq⟩ := List.mem_map.1 hshown
    injection heq with hname henabled
    rw [← henabled, ← hname, hentry entry he]
    exact chainCovered_iff _ entry

/-! ## The order of the alias maps -/

/-- The same catalog, whose alias maps give their entries in another order. -/
structure Shuffled (db other : CatalogDb) : Prop where
  providers : List.Forall₂ (fun p q : ProviderConfig =>
    q = { p with modelAliases := q.modelAliases } ∧ p.modelAliases.Perm q.modelAliases ∧
      (p.modelAliases.map Prod.fst).Nodup) db.providers other.providers
  pricing : other.pricing = db.pricing
  collation : other.collation = db.collation

theorem Shuffled.aliasOf {other : CatalogDb} (h : Shuffled db other) (name providerId : String) :
    other.aliasOf name providerId = db.aliasOf name providerId := by
  unfold CatalogDb.aliasOf CatalogDb.getProvider
  have hproviders := h.providers
  generalize db.providers = ps, other.providers = qs at hproviders ⊢
  induction hproviders with
  | nil => rfl
  | @cons p q ps qs hpq _ ih =>
    obtain ⟨heq, hperm, hnd⟩ := hpq
    have hid : q.id = p.id := by rw [heq]
    rw [List.find?_cons, List.find?_cons, hid]
    cases decide (p.id = providerId) with
    | false => exact ih
    | true => exact (lookup_perm hnd hperm name).symm

theorem Shuffled.referenceChain {other : CatalogDb} (h : Shuffled db other)
    (routes : List RouteConfig) (name : String) :
    referenceChain other routes name = referenceChain db routes name := by
  have : other.deploymentOn name = db.deploymentOn name := by
    funext providerId
    rw [CatalogDb.deploymentOn, CatalogDb.deploymentOn, h.aliasOf]
  rw [LiteAgentify.referenceChain, LiteAgentify.referenceChain, this]

theorem IsMigration.mem_shown {db' : CatalogDb} {routes : List RouteConfig}
    (h : IsMigration db routes db') (name : String) (enabled : Bool) :
    (name, enabled) ∈ db'.models.map ModelRow.shown ↔ referenceChain db routes name ≠ [] ∧
      (enabled ↔ ∀ d ∈ referenceChain db routes name,
        (pricingRuleFor (db.listPricing.map PricingRecord.config) d.1 d.2).isSome) := by
  rw [referenceChain_ne_nil, ← h.models]
  constructor
  · intro hmem
    obtain ⟨row, hrow, heq⟩ := List.mem_map.1 hmem
    injection heq with hname henabled
    rw [← hname, ← henabled]
    exact ⟨List.mem_map_of_mem hrow, h.enabled row hrow⟩
  · rintro ⟨hname, henabled⟩
    obtain ⟨row, hrow, rfl⟩ := List.mem_map.1 hname
    refine List.mem_map.2 ⟨row, hrow, ?_⟩
    rw [ModelRow.shown, Bool.eq_iff_iff.2 ((h.enabled row hrow).trans henabled.symm)]

theorem IsMigration.mem_deployments {db' : CatalogDb} {routes : List RouteConfig}
    (h : IsMigration db routes db') (row : DeploymentRow) :
    row ∈ db'.deployments ↔
      row ∈ CatalogDb.deploymentRows row.modelName (referenceChain db routes row.modelName) := by
  rw [← h.rows]
  simp

/-- The result of a migration is unique, up to the order of its rows. -/
theorem IsMigration.perm {other db₁ db₂ : CatalogDb} {routes : List RouteConfig}
    (h₁ : IsMigration db routes db₁) (h₂ : IsMigration other routes db₂) (h : Shuffled db other) :
    (db₂.models.map ModelRow.shown).Perm (db₁.models.map ModelRow.shown) ∧
      db₂.deployments.Perm db₁.deployments := by
  have hnodup : ∀ u : CatalogDb, (u.models.map ModelRow.shown).Nodup ∧ u.deployments.Nodup := by
    intro u
    have hnames := u.constraints.modelNames
    rw [← shown_names] at hnames
    exact ⟨hnames.of_map _, u.constraints.deploymentPairs.of_map _⟩
  have hpricing : other.listPricing = db.listPricing := by
    rw [CatalogDb.listPricing, CatalogDb.listPricing, h.pricing, h.collation]
  constructor
  · rw [List.perm_ext_iff_of_nodup (hnodup db₂).1 (hnodup db₁).1]
    rintro ⟨name, enabled⟩
    rw [h₂.mem_shown, h₁.mem_shown, h.referenceChain, hpricing]
  · rw [List.perm_ext_iff_of_nodup (hnodup db₂).2 (hnodup db₁).2]
    intro row
    rw [h₂.mem_deployments, h₁.mem_deployments, h.referenceChain]

end

/-- **The migration computes the reference catalog**: from an empty model table every store call
succeeds, and the order in which the alias maps give their entries does not matter. -/
theorem migrateRoutesOnce_reference (config : GatewayConfig) (db : CatalogDb)
    (hempty : db.models = []) (now : DateTime) :
    ∃ db', db.migrateRoutesOnce config now = .ok db' ∧ IsMigration db config.routes db' ∧
      ∀ other : CatalogDb, Shuffled db other → other.models = [] → ∀ now',
        ∃ other', other.migrateRoutesOnce config now' = .ok other' ∧
          (other'.models.map ModelRow.shown).Perm (db'.models.map ModelRow.shown) ∧
          other'.deployments.Perm db'.deployments := by
  obtain ⟨db', hok, hmigration⟩ := migrateRoutesOnce_isMigration config now hempty
  refine ⟨db', hok, hmigration, fun other hother hnone now' => ?_⟩
  obtain ⟨other', hok', hmigration'⟩ := migrateRoutesOnce_isMigration config now' hnone
  exact ⟨other', hok', hmigration.perm hmigration' hother⟩

/-- Two providers that share a model. -/
def sharedProviders (aliases : List (String × String)) : List ProviderConfig :=
  [{ id := "p", protocol := .openAi, baseUrl := "u", apiKey := "k", modelAliases := aliases },
    { id := "q", protocol := .openAi, baseUrl := "u", apiKey := "k",
      modelAliases := [("m", "y")] }]

def sharedCatalog : CatalogDb where
  providers := sharedProviders [("m", "x"), ("n", "z")]
  collation := fun _ _ => true
  constraints := by decide

/-- The map of the first provider gives its entries the other way round. -/
def sharedCatalogShuffled : CatalogDb where
  providers := sharedProviders [("n", "z"), ("m", "x")]
  collation := fun _ _ => true
  constraints := by decide

def sharedRoutes : GatewayConfig where
  routes := [{ pathPrefix := "/a", providers := ["q", "gone"] },
    { pathPrefix := "/b", providers := ["p", "q"] }]

example : referenceChain sharedCatalog sharedRoutes.routes "m" = [("q", "y"), ("p", "x")] := by
  decide

theorem shared_migration :
    ∃ db' other', sharedCatalog.migrateRoutesOnce sharedRoutes 0 = .ok db' ∧
      IsMigration sharedCatalog sharedRoutes.routes db' ∧
      sharedCatalogShuffled.migrateRoutesOnce sharedRoutes 1 = .ok other' ∧
      other'.deployments.Perm db'.deployments := by
  obtain ⟨db', hok, hmigration, hother⟩ :=
    migrateRoutesOnce_reference sharedRoutes sharedCatalog rfl 0
  have hshuffled : Shuffled sharedCatalog sharedCatalogShuffled := by
    refine ⟨.cons ⟨rfl, .swap .., by decide⟩ (.cons ⟨rfl, .refl _, by decide⟩ .nil), rfl, rfl⟩
  obtain ⟨other', hok', -, hperm⟩ := hother _ hshuffled rfl 1
  exact ⟨db', other', hok, hmigration, hok', hperm⟩

end LiteAgentify
