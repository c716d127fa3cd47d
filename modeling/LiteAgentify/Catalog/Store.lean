import LiteAgentify.Pricing
import Mathlib.Data.List.Sort

/-!
# The catalog database

`src/catalog/store.rs` over the tables of `src/db.rs`: `providers`, `pricing`, `models` and
`model_deployments`. `CatalogTables.Constraints` is what the schema enforces; every statement that
writes goes through `commit`, which fails when the rows it would leave violate a constraint. A
`CatalogDb` carries the constraints of its rows.
-/

set_option autoImplicit false

namespace LiteAgentify

/-! ## Tables -/

/-- A pricing rule with its database id. -/
structure PricingRecord where
  id : Uuid
  config : PricingConfig
  deriving DecidableEq

structure ModelRow where
  name : String
  enabled : Bool
  createdAt : DateTime
  deriving DecidableEq

structure DeploymentRow where
  modelName : String
  providerId : String
  upstreamModel : String
  priority : Nat
  deriving DecidableEq

def DeploymentRow.config (row : DeploymentRow) : DeploymentConfig where
  providerId := row.providerId
  upstreamModel := row.upstreamModel

/-- The rows of the catalog tables, in no particular order. -/
structure CatalogTables where
  providers : List ProviderConfig := []
  pricing : List PricingRecord := []
  models : List ModelRow := []
  deployments : List DeploymentRow := []
  deriving DecidableEq

/-- A `text` value: PostgreSQL has no NUL character. -/
def isText (value : String) : Bool := value.toList.all (·.toNat ≠ 0)

def ProviderConfig.texts (provider : ProviderConfig) : List String :=
  [provider.id, provider.baseUrl, provider.apiKey] ++ provider.anthropicVersion.toList ++
    provider.modelAliases.flatMap fun (publicName, upstream) => [publicName, upstream]

def PricingConfig.texts (entry : PricingConfig) : List String :=
  [entry.provider, entry.model, entry.currency] ++ entry.pricingSource.toList

def DeploymentRow.texts (row : DeploymentRow) : List String :=
  [row.modelName, row.providerId, row.upstreamModel]

namespace CatalogTables

/-- Every text of the tables. -/
def texts (t : CatalogTables) : List String :=
  t.providers.flatMap ProviderConfig.texts ++ t.pricing.flatMap (fun row => row.config.texts) ++
    t.models.map ModelRow.name ++ t.deployments.flatMap DeploymentRow.texts

/-- The keys, the unique pairs and the references of the schema. -/
structure Constraints (t : CatalogTables) : Prop where
  providerIds : (t.providers.map ProviderConfig.id).Nodup
  pricingIds : (t.pricing.map PricingRecord.id).Nodup
  pricingPairs : (t.pricing.map fun row => (row.config.provider, row.config.model)).Nodup
  modelNames : (t.models.map ModelRow.name).Nodup
  deploymentPairs : (t.deployments.map fun row => (row.modelName, row.providerId)).Nodup
  deploymentModels : ∀ row ∈ t.deployments, row.modelName ∈ t.models.map ModelRow.name
  deploymentProviders : ∀ row ∈ t.deployments, row.providerId ∈ t.providers.map ProviderConfig.id
  texts : ∀ text ∈ t.texts, isText text

theorem constraints_iff (t : CatalogTables) :
    t.Constraints ↔ (t.providers.map ProviderConfig.id).Nodup ∧
      (t.pricing.map PricingRecord.id).Nodup ∧
      (t.pricing.map fun row => (row.config.provider, row.config.model)).Nodup ∧
      (t.models.map ModelRow.name).Nodup ∧
      (t.deployments.map fun row => (row.modelName, row.providerId)).Nodup ∧
      (∀ row ∈ t.deployments, row.modelName ∈ t.models.map ModelRow.name) ∧
      (∀ row ∈ t.deployments, row.providerId ∈ t.providers.map ProviderConfig.id) ∧
      ∀ text ∈ t.texts, isText text :=
  ⟨fun ⟨h₁, h₂, h₃, h₄, h₅, h₆, h₇, h₈⟩ => ⟨h₁, h₂, h₃, h₄, h₅, h₆, h₇, h₈⟩,
    fun ⟨h₁, h₂, h₃, h₄, h₅, h₆, h₇, h₈⟩ => ⟨h₁, h₂, h₃, h₄, h₅, h₆, h₇, h₈⟩⟩

instance decidableConstraints (t : CatalogTables) : Decidable t.Constraints :=
  decidable_of_iff _ (constraints_iff t).symm

end CatalogTables

/-- The catalog database: its rows meet the constraints. `collation` is its order of texts. -/
structure CatalogDb extends CatalogTables where
  collation : String → String → Bool
  constraints : toCatalogTables.Constraints

/-- Why a store call fails. -/
inductive StoreError
  /-- A `CatalogConflict`. -/
  | conflict (message : String)
  /-- The database rejects a value. -/
  | failed
  deriving DecidableEq

namespace CatalogDb

/-- The freshly migrated database. -/
def empty (collation : String → String → Bool) : CatalogDb where
  collation := collation
  constraints := by decide

/-- A statement, or a transaction, that writes the tables. -/
def commit (db : CatalogDb) (write : CatalogTables → CatalogTables) :
    Except StoreError CatalogDb :=
  if h : (write db.toCatalogTables).Constraints then
    .ok { toCatalogTables := write db.toCatalogTables, collation := db.collation, constraints := h }
  else .error .failed

/-- `ORDER BY` a text column. -/
def orderBy {R : Type} (db : CatalogDb) (column : R → String) (rows : List R) : List R :=
  rows.insertionSort fun a b => db.collation (column a) (column b)

/-! ## Providers -/

def listProviders (db : CatalogDb) : List ProviderConfig :=
  db.orderBy ProviderConfig.id db.providers

def getProvider (db : CatalogDb) (id : String) : Option ProviderConfig :=
  db.providers.find? (·.id = id)

def upsertProvider (db : CatalogDb) (provider : ProviderConfig) (isNew : Bool) :
    Except StoreError CatalogDb :=
  let existing := db.getProvider provider.id
  if isNew ∧ existing.isSome then
    .error (.conflict s!"provider '{provider.id}' already exists")
  else
    match existing with
    | some _ => db.commit fun t => { t with
        providers := t.providers.map fun row => if row.id = provider.id then provider else row }
    | none => db.commit fun t => { t with providers := t.providers ++ [provider] }

/-- Whether a row was deleted; the reference from `model_deployments` restricts it. -/
def deleteProvider (db : CatalogDb) (id : String) : Except StoreError (CatalogDb × Bool) := do
  let db' ← db.commit fun t => { t with providers := t.providers.filter (·.id ≠ id) }
  return (db', db.providers.any (·.id = id))

/-! ## Pricing -/

/-- Ordered by provider, then by model. -/
def listPricing (db : CatalogDb) : List PricingRecord :=
  db.pricing.insertionSort fun a b =>
    if a.config.provider = b.config.provider then db.collation a.config.model b.config.model
    else db.collation a.config.provider b.config.provider

/-- Whether a rule of the pair `(provider, model)` is stored. -/
def hasRule (db : CatalogDb) (provider model : String) : Bool :=
  db.pricing.any fun row => row.config.provider = provider ∧ row.config.model = model

end CatalogDb

/-- A pricing entry as the `numeric(20, 10)` columns store it. -/
def PricingConfig.stored (entry : PricingConfig) : Option PricingConfig := do
  let inputPer1m ← entry.inputPer1m.toNumeric
  let outputPer1m ← entry.outputPer1m.toNumeric
  let cachedInputPer1m ← entry.cachedInputPer1m.mapM Decimal.toNumeric
  let cacheReadPer1m ← entry.cacheReadPer1m.mapM Decimal.toNumeric
  let cacheWritePer1m ← entry.cacheWritePer1m.mapM Decimal.toNumeric
  return { entry with
    inputPer1m := inputPer1m
    outputPer1m := outputPer1m
    cachedInputPer1m := cachedInputPer1m
    cacheReadPer1m := cacheReadPer1m
    cacheWritePer1m := cacheWritePer1m }

namespace CatalogDb

def duplicateRule (config : PricingConfig) : StoreError :=
  .conflict s!"pricing rule for '{config.provider}:{config.model}' already exists"

/-- `id` is the drawn id of the new row. -/
def createPricing (db : CatalogDb) (id : Uuid) (config : PricingConfig) :
    Except StoreError CatalogDb :=
  if db.hasRule config.provider config.model then .error (duplicateRule config)
  else
    match config.stored with
    | none => .error .failed
    | some stored => db.commit fun t => { t with
        pricing := t.pricing ++ [{ id := id, config := stored }] }

def updatePricing (db : CatalogDb) (id : Uuid) (config : PricingConfig) :
    Except StoreError (CatalogDb × Bool) :=
  match db.pricing.find? (·.id = id) with
  | none => .ok (db, false)
  | some row =>
    -- a changed pair must not collide with another rule
    if (row.config.provider ≠ config.provider ∨ row.config.model ≠ config.model) ∧
        db.hasRule config.provider config.model then .error (duplicateRule config)
    else
      match config.stored with
      | none => .error .failed
      | some stored => do
        let db' ← db.commit fun t => { t with
          pricing := t.pricing.map fun row =>
            if row.id = id then { row with config := stored } else row }
        return (db', true)

def deletePricing (db : CatalogDb) (id : Uuid) : Except StoreError (CatalogDb × Bool) := do
  let db' ← db.commit fun t => { t with pricing := t.pricing.filter (·.id ≠ id) }
  return (db', db.pricing.any (·.id = id))

/-! ## Models -/

/-- The deployments of a model, by priority. -/
def chain (db : CatalogDb) (name : String) : List DeploymentConfig :=
  ((db.deployments.filter (·.modelName = name)).insertionSort
    fun a b => a.priority ≤ b.priority).map DeploymentRow.config

def modelConfig (db : CatalogDb) (row : ModelRow) : ModelConfig where
  name := row.name
  enabled := row.enabled
  createdAt := row.createdAt
  deployments := db.chain row.name

def listModels (db : CatalogDb) : List ModelConfig :=
  (db.orderBy ModelRow.name db.models).map db.modelConfig

def getModel (db : CatalogDb) (name : String) : Option ModelConfig :=
  (db.models.find? (·.name = name)).map db.modelConfig

/-- Creates a model, disabled and without deployments. -/
def createModel (db : CatalogDb) (name : String) (now : DateTime) : Except StoreError CatalogDb :=
  if db.models.any (·.name = name) then .error (.conflict s!"model '{name}' already exists")
  else db.commit fun t => { t with
    models := t.models ++ [{ name := name, enabled := false, createdAt := now }] }

def setModelStatus (db : CatalogDb) (name : String) (enabled : Bool) :
    Except StoreError (CatalogDb × Bool) :=
  if db.models.any (·.name = name) then do
    let db' ← db.commit fun t => { t with
      models := t.models.map fun row =>
        if row.name = name then { row with enabled := enabled } else row }
    return (db', true)
  else .ok (db, false)

/-- The deployments are deleted with their model (`ON DELETE CASCADE`). -/
def deleteModel (db : CatalogDb) (name : String) : Except StoreError (CatalogDb × Bool) := do
  let db' ← db.commit fun t => { t with
    models := t.models.filter (·.name ≠ name)
    deployments := t.deployments.filter (·.modelName ≠ name) }
  return (db', db.models.any (·.name = name))

/-- The first text that is `seen` or occurred earlier in the list. -/
def firstRepeated (seen : List String) : List String → Option String
  | [] => none
  | text :: texts => if text ∈ seen then some text else firstRepeated (text :: seen) texts

/-- The rows of a deployment list: the index is the priority. -/
def deploymentRows (name : String) (deployments : List (String × String)) : List DeploymentRow :=
  deployments.zipIdx.map fun (deployment, priority) =>
    { modelName := name
      providerId := deployment.1
      upstreamModel := deployment.2
      priority := priority }

/-- Replaces the deployments of a model, in one transaction. -/
def setDeployments (db : CatalogDb) (name : String) (deployments : List (String × String)) :
    Except StoreError (CatalogDb × Bool) :=
  match firstRepeated [] (deployments.map Prod.fst) with
  | some providerId =>
    .error (.conflict s!"model '{name}' lists provider '{providerId}' more than once")
  | none =>
    if db.models.any (·.name = name) then do
      let db' ← db.commit fun t => { t with
        deployments := t.deployments.filter (·.modelName ≠ name) ++
          deploymentRows name deployments }
      return (db', true)
    else .ok (db, false)

/-- The first model that has a deployment on the provider. -/
def providerInUse (db : CatalogDb) (id : String) : Option String :=
  ((db.orderBy DeploymentRow.modelName (db.deployments.filter (·.providerId = id))).head?).map
    DeploymentRow.modelName

def providerCount (db : CatalogDb) : Nat := db.providers.length

def pricingCount (db : CatalogDb) : Nat := db.pricing.length

def modelCount (db : CatalogDb) : Nat := db.models.length

/-- What seeds the serving snapshot. -/
def snapshot (db : CatalogDb) : CatalogSnapshot where
  providers := db.listProviders
  pricing := db.listPricing.map PricingRecord.config
  models := db.listModels

end CatalogDb

end LiteAgentify
