import LiteAgentify.Catalog.Store

/-!
# Import from the configuration file

`src/catalog/import.rs`: at startup the providers and the pricing of the file fill empty tables
(`importConfigOnce`), and its routes and model aliases fill an empty model catalog
(`migrateRoutesOnce`).
-/

set_option autoImplicit false

namespace LiteAgentify

namespace CatalogDb

/-- The first half of `import_config_once`. -/
def importProviders (db : CatalogDb) (config : GatewayConfig) : Except StoreError CatalogDb :=
  if db.providerCount = 0 then
    config.providers.foldlM (fun db provider => db.upsertProvider provider true) db
  else .ok db

/-- The second half of `import_config_once`; `newId` gives the drawn ids of the rows. -/
def importPricing (db : CatalogDb) (config : GatewayConfig) (newId : Nat → Uuid) :
    Except StoreError CatalogDb :=
  if db.pricingCount = 0 then
    config.pricing.zipIdx.foldlM (fun db (entry, n) => db.createPricing (newId n) entry) db
  else .ok db

def importConfigOnce (db : CatalogDb) (config : GatewayConfig) (newId : Nat → Uuid) :
    Except StoreError CatalogDb := do
  let db ← db.importProviders config
  db.importPricing config newId

end CatalogDb

/-! ## Routes -/

/-- A model name with its chain of `(provider, upstream model)`. -/
abbrev NamedChain := String × List (String × String)

/-- One alias of a provider of a route: it adds the provider to the chain of the public name, which
is new at the first occurrence of the name, unless the chain has the provider. -/
def addAlias (providerId : String) (chains : List NamedChain) (entry : String × String) :
    List NamedChain :=
  if chains.any (·.1 = entry.1) then
    chains.map fun (name, chain) =>
      if name = entry.1 ∧ ¬ chain.any (·.1 = providerId) then
        (name, chain ++ [(providerId, entry.2)])
      else (name, chain)
  else chains ++ [(entry.1, [(providerId, entry.2)])]

/-- One provider of a route; one that is unknown or has no aliases is skipped. -/
def addProvider (db : CatalogDb) (chains : List NamedChain) (providerId : String) :
    List NamedChain :=
  match db.getProvider providerId with
  | none => chains
  | some provider => provider.modelAliases.foldl (addAlias providerId) chains

/-- The chains that the routes imply, in the order of their first occurrence. -/
def deriveChains (db : CatalogDb) (routes : List RouteConfig) : List NamedChain :=
  routes.foldl (fun chains route => route.providers.foldl (addProvider db) chains) []

/-- The deployments of `(provider, upstream model)` pairs. -/
def deploymentsOf (deployments : List (String × String)) : List DeploymentConfig :=
  deployments.map fun (providerId, upstreamModel) =>
    { providerId := providerId, upstreamModel := upstreamModel }

namespace CatalogDb

/-- Creates one migrated model; it starts enabled when the pricing rules cover its chain. -/
def migrateModel (pricing : List PricingConfig) (now : DateTime) (db : CatalogDb)
    (entry : NamedChain) : Except StoreError CatalogDb := do
  let (name, chain) := entry
  let db ← db.createModel name now
  let (db, _) ← db.setDeployments name chain
  let model : ModelConfig :=
    { name := name, enabled := false, createdAt := now, deployments := deploymentsOf chain }
  if (uncoveredDeployments model pricing).isEmpty then
    let (db, _) ← db.setModelStatus name true
    return db
  else return db

def migrateRoutesOnce (db : CatalogDb) (config : GatewayConfig) (now : DateTime) :
    Except StoreError CatalogDb :=
  if db.modelCount > 0 then .ok db
  else
    let pricing := db.listPricing.map PricingRecord.config
    (deriveChains db config.routes).foldlM (migrateModel pricing now) db

/-- The two imports, as `build_router` runs them. -/
def importOnce (db : CatalogDb) (config : GatewayConfig) (newId : Nat → Uuid) (now : DateTime) :
    Except StoreError CatalogDb := do
  let db ← db.importConfigOnce config newId
  db.migrateRoutesOnce config now

end CatalogDb

end LiteAgentify
