import LiteAgentify.Admin.ModelsApi
import LiteAgentify.Lib.OrderBy
import LiteAgentify.Lib.Threads

/-!
# Catalog requests at the same time

The handlers of `src/admin/catalog_api.rs` and `src/admin/models_api.rs` again, statement by
statement, as programs that run at the same time on one database and the two cells of the shared
snapshot. A handler runs in no transaction: only `set_deployments` opens one. Any statement may
fail, before or after its effect.
-/

set_option autoImplicit false

namespace LiteAgentify

open Threads

/-! ## Statements -/

/-- A statement that a handler sends to the database. -/
inductive CatalogSql
  | listProviders
  | findProvider (id : String)
  | insertProvider (provider : ProviderConfig)
  | updateProvider (provider : ProviderConfig)
  | deleteProvider (id : String)
  /-- The first deployment on the provider. -/
  | providerInUse (id : String)
  | listPricing
  | findRule (provider model : String)
  | findPricing (id : Uuid)
  | insertPricing (id : Uuid) (config : PricingConfig)
  | updatePricing (id : Uuid) (config : PricingConfig)
  | deletePricing (id : Uuid)
  | listModelRows
  | listDeploymentRows
  | findModel (name : String)
  | findChain (name : String)
  | insertModel (name : String) (now : DateTime)
  | updateStatus (name : String) (enabled : Bool)
  | deleteModel (name : String)
  /-- The transaction of `set_deployments`. -/
  | replaceDeployments (name : String) (deployments : List (String × String))

@[reducible]
def CatalogSql.Reply : CatalogSql → Type
  | listProviders => List ProviderConfig
  | findProvider _ => Option ProviderConfig
  | providerInUse _ => Option String
  | listPricing => List PricingRecord
  | findPricing _ => Option PricingRecord
  | listModelRows => List ModelRow
  | listDeploymentRows => List DeploymentRow
  | findModel _ => Option ModelRow
  | findChain _ => List DeploymentConfig
  | findRule _ _ | deleteProvider _ | deletePricing _ | deleteModel _
  | replaceDeployments _ _ => Bool
  | insertProvider _ | updateProvider _ | insertPricing _ _ | updatePricing _ _ | insertModel _ _
  | updateStatus _ _ => Unit

/-- What a handler does in one step. -/
inductive CatalogStep
  | sql (q : CatalogSql)
  | readFile
  | loadState
  | storeCatalog (catalog : CatalogSnapshot)
  | storeState (next : GatewayState)

/-- A statement of the database may fail. -/
@[reducible]
def CatalogStep.Answer : CatalogStep → Type
  | sql q => Option q.Reply
  | readFile => Except String GatewayConfig
  | loadState => GatewayState
  | storeCatalog _ | storeState _ => Unit

/-- How a statement ends: it may be done without its reply coming back. -/
inductive Ending
  | answered
  | fails
  | lost
  deriving DecidableEq

/-- What a step finds outside of the tables and the cells. -/
structure StepChoice where
  ending : Ending := .answered
  /-- The rows that were committed after the transaction began to delete. -/
  unseen : DeploymentRow → Bool := fun _ => false
  file : Except String GatewayConfig

namespace CatalogDb

variable (db : CatalogDb)

/-- The tables after a write, when they meet the constraints. -/
def write {R : Type} (reply : R) (f : CatalogTables → CatalogTables) : Option (CatalogDb × R) :=
  match db.commit f with
  | .ok db' => some (db', reply)
  | .error _ => none

/-- An `UPDATE` of one row, which has to be there. -/
def updateOne (found : Bool) (f : CatalogTables → CatalogTables) : Option (CatalogDb × Unit) :=
  if found then db.write () f else none

end CatalogDb

/-- What a statement does and replies, if it does not fail. -/
def CatalogSql.run (unseen : DeploymentRow → Bool) (db : CatalogDb) :
    (q : CatalogSql) → Option (CatalogDb × q.Reply)
  | listProviders => some (db, db.listProviders)
  | findProvider id => some (db, db.getProvider id)
  | insertProvider provider => db.write () fun t => { t with
      providers := t.providers ++ [provider] }
  | updateProvider provider => db.updateOne (db.getProvider provider.id).isSome fun t => { t with
      providers := t.providers.map fun row => if row.id = provider.id then provider else row }
  | deleteProvider id => db.write (db.providers.any (·.id = id)) fun t => { t with
      providers := t.providers.filter (·.id ≠ id) }
  | providerInUse id => some (db, db.providerInUse id)
  | listPricing => some (db, db.listPricing)
  | findRule provider model => some (db, db.hasRule provider model)
  | findPricing id => some (db, db.pricing.find? (·.id = id))
  | insertPricing id config => config.stored.bind fun stored => db.write () fun t => { t with
      pricing := t.pricing ++ [{ id := id, config := stored }] }
  | updatePricing id config => config.stored.bind fun stored =>
      db.updateOne (db.pricing.any (·.id = id)) fun t => { t with
        pricing := t.pricing.map fun row =>
          if row.id = id then { row with config := stored } else row }
  | deletePricing id => db.write (db.pricing.any (·.id = id)) fun t => { t with
      pricing := t.pricing.filter (·.id ≠ id) }
  | listModelRows => some (db, db.orderBy ModelRow.name db.models)
  -- `ORDER BY model_name, priority`: the second sort keeps the order of rows of one model
  | listDeploymentRows =>
    some (db, (OrderBy.sortBy DeploymentRow.priority db.deployments).insertionSort fun a b =>
      a.modelName = b.modelName ∨ db.collation a.modelName b.modelName)
  | findModel name => some (db, db.models.find? (·.name = name))
  | findChain name => some (db, db.chain name)
  | insertModel name now => db.write () fun t => { t with
      models := t.models ++ [{ name := name, enabled := false, createdAt := now }] }
  | updateStatus name enabled => db.updateOne (db.models.any (·.name = name)) fun t => { t with
      models := t.models.map fun row =>
        if row.name = name then { row with enabled := enabled } else row }
  | deleteModel name => db.write (db.models.any (·.name = name)) fun t => { t with
      models := t.models.filter (·.name ≠ name)
      deployments := t.deployments.filter (·.modelName ≠ name) }
  | replaceDeployments name deployments =>
    if db.models.any (·.name = name) then
      db.write true fun t => { t with
        deployments := t.deployments.filter (fun row => row.modelName ≠ name ∨ unseen row) ++
          CatalogDb.deploymentRows name deployments }
    else some (db, false)

/-- A statement with its ending. -/
def CatalogSql.exec (q : CatalogSql) (choice : StepChoice) (db : CatalogDb) :
    CatalogDb × Option q.Reply :=
  match choice.ending, q.run choice.unseen db with
  | .answered, some (db', reply) => (db', some reply)
  | .lost, some (db', _) => (db', none)
  | _, _ => (db, none)

def CatalogStep.exec : (q : CatalogStep) → StepChoice → AdminState → AdminState × q.Answer
  | sql q, choice, s => ({ s with db := (q.exec choice s.db).1 }, (q.exec choice s.db).2)
  | readFile, choice, s => (s, choice.file)
  | loadState, _, s => (s, s.shared.state)
  | storeCatalog catalog, _, s => ({ s with shared := { s.shared with catalog := catalog } }, ())
  | storeState next, _, s => ({ s with shared := { s.shared with state := next } }, ())

/-! ## The store -/

abbrev CatalogProgram (R : Type) := Program CatalogStep CatalogStep.Answer R

namespace CatalogThread

abbrev query (q : CatalogSql) : CatalogProgram (Option q.Reply) :=
  Program.query (CatalogStep.sql q)

abbrev readFile : CatalogProgram (Except String GatewayConfig) :=
  Program.query CatalogStep.readFile

abbrev loadState : CatalogProgram GatewayState := Program.query CatalogStep.loadState

abbrev storeCells (catalog : CatalogSnapshot) (next : GatewayState) : CatalogProgram Unit := do
  Program.query (CatalogStep.storeCatalog catalog)
  Program.query (CatalogStep.storeState next)

/-- A failed statement is an error of the store. -/
def orFailed {R : Type} : Option R → Except StoreError R
  | some result => .ok result
  | none => .error .failed

namespace Store

/-- The models with their deployments, from the rows of two reads. -/
def joinModels (models : List ModelRow) (deployments : List DeploymentRow) : List ModelConfig :=
  models.map fun row =>
    { name := row.name
      enabled := row.enabled
      createdAt := row.createdAt
      deployments := (deployments.filter (·.modelName = row.name)).map DeploymentRow.config }

def listModels : CatalogProgram (Except String (List ModelConfig)) := do
  let some models ← query .listModelRows | return .error "failed to list models"
  let some deployments ← query .listDeploymentRows | return .error "failed to list deployments"
  return .ok (joinModels models deployments)

/-- Four reads: others may write between them. -/
def snapshot : CatalogProgram (Except String CatalogSnapshot) := do
  let some providers ← query .listProviders | return .error "failed to list providers"
  let some pricing ← query .listPricing | return .error "failed to list pricing"
  match ← listModels with
  | .error error => return .error error
  | .ok models =>
    let pricing := pricing.map PricingRecord.config
    return .ok { providers := providers, pricing := pricing, models := models }

def upsertProvider (provider : ProviderConfig) (isNew : Bool) :
    CatalogProgram (Except StoreError Unit) := do
  let some existing ← query (.findProvider provider.id) | return .error .failed
  if isNew ∧ existing.isSome then
    return .error (.conflict s!"provider '{provider.id}' already exists")
  else if existing.isSome then
    return orFailed (← query (.updateProvider provider))
  else
    return orFailed (← query (.insertProvider provider))

def createPricing (id : Uuid) (config : PricingConfig) :
    CatalogProgram (Except StoreError Unit) := do
  let some taken ← query (.findRule config.provider config.model) | return .error .failed
  if taken then
    return .error (CatalogDb.duplicateRule config)
  else
    return orFailed (← query (.insertPricing id config))

/-- Whether a changed pair collides with another rule: only a changed pair is looked up. -/
def collides (row : PricingRecord) (config : PricingConfig) : CatalogProgram (Option Bool) :=
  if row.config.provider ≠ config.provider ∨ row.config.model ≠ config.model then
    query (.findRule config.provider config.model)
  else return some false

def updatePricing (id : Uuid) (config : PricingConfig) :
    CatalogProgram (Except StoreError Bool) := do
  let some found ← query (.findPricing id) | return .error .failed
  match found with
  | none => return .ok false
  | some row =>
    match ← collides row config with
    | none => return .error .failed
    | some true => return .error (CatalogDb.duplicateRule config)
    | some false => return (orFailed (← query (.updatePricing id config))).map fun _ => true

/-- Whether the model is there: its deployments are read too. -/
def getModel (name : String) : CatalogProgram Bool := do
  let some found ← query (.findModel name) | return false
  if found.isSome then
    return (← query (.findChain name)).isSome
  else return false

def createModel (name : String) (now : DateTime) : CatalogProgram (Except StoreError Unit) := do
  let some found ← query (.findModel name) | return .error .failed
  if found.isSome then
    return .error (.conflict s!"model '{name}' already exists")
  else
    return orFailed (← query (.insertModel name now))

def setModelStatus (name : String) (enabled : Bool) :
    CatalogProgram (Except StoreError Bool) := do
  let some found ← query (.findModel name) | return .error .failed
  if found.isSome then
    return (orFailed (← query (.updateStatus name enabled))).map fun _ => true
  else return .ok false

def setDeployments (name : String) (deployments : List (String × String)) :
    CatalogProgram (Except StoreError Bool) :=
  match CatalogDb.firstRepeated [] (deployments.map Prod.fst) with
  | some providerId =>
    return .error (.conflict s!"model '{name}' lists provider '{providerId}' more than once")
  | none => return orFailed (← query (.replaceDeployments name deployments))

end Store

/-! ## The handlers -/

/-- What a handler answers when a statement returns whether it found a row. -/
def ofFound (status : Nat) (missing failed : String) : Option Bool → Except Rejection Nat
  | some true => .ok status
  | some false => .error (.notFound missing)
  | none => .error (.internal failed)

def createProvider (body : Admin.CreateProviderBody) :
    CatalogProgram (Except Rejection Nat) :=
  let id := Text.trim body.id
  if id = "" then return .error (.badRequest "provider id cannot be empty")
  else
    match Admin.buildProvider id body.fields none with
    | .error rejection => return .error rejection
    | .ok provider => do
      match ← Store.upsertProvider provider true with
      | .ok () => return .ok 201
      | .error e => return .error (e.rejection "failed to create provider")

def updateProvider (id : String) (fields : Admin.ProviderBody) :
    CatalogProgram (Except Rejection Nat) := do
  match ← query (.findProvider id) with
  | none => return .error (.internal "failed to load provider")
  | some none => return .error (.notFound "provider not found")
  | some (some current) =>
    match Admin.buildProvider id fields (some current.apiKey) with
    | .error rejection => return .error rejection
    | .ok provider =>
      match ← Store.upsertProvider provider false with
      | .ok () => return .ok 200
      | .error _ => return .error (.internal "failed to update provider")

def deleteProvider (id : String) : CatalogProgram (Except Rejection Nat) := do
  match ← query (.providerInUse id) with
  | none => return .error (.internal "failed to check provider usage")
  | some (some model) => return .error (.conflict
      s!"provider '{id}' is still used by model '{model}'; remove that deployment first")
  | some none =>
    let found ← query (.deleteProvider id)
    return ofFound 200 "provider not found" "failed to delete provider" found

/-- The simulated rules are checked against the models that are enabled now. -/
def ensurePricingGate (mutate : List PricingRecord → List PricingRecord) :
    CatalogProgram (Except Rejection Unit) := do
  let some rules ← query .listPricing | return .error (.internal "failed to load pricing")
  match ← Store.listModels with
  | .error _ => return .error (.internal "failed to load models")
  | .ok models =>
    let candidate := (mutate rules).map PricingRecord.config
    let uncovered := (models.filter (·.enabled)).findSome? fun model =>
      (uncoveredDeployments model candidate).head?.map fun deployment => (model.name, deployment)
    match uncovered with
    | some (name, deployment) => return .error (.conflict
        s!"this pricing change would leave enabled model '{name}' without coverage for deployment '{deployment.providerId}:{deployment.upstreamModel}'; disable the model or add a replacement rule first")
    | none => return .ok ()

variable (P : Packages)

def createPricing (body : Admin.PricingBody) (newId : Uuid) :
    CatalogProgram (Except Rejection Nat) :=
  match Admin.buildPricing P body with
  | .error rejection => return .error rejection
  | .ok config => do
    match ← Store.createPricing newId config with
    | .ok () => return .ok 201
    | .error e => return .error (e.rejection "failed to create pricing")

def updatePricing (id : Uuid) (body : Admin.PricingBody) :
    CatalogProgram (Except Rejection Nat) :=
  match Admin.buildPricing P body with
  | .error rejection => return .error rejection
  | .ok config => do
    match ← ensurePricingGate fun rules =>
        rules.filter (·.id ≠ id) ++ [{ id := id, config := config }] with
    | .error rejection => return .error rejection
    | .ok () =>
      match ← Store.updatePricing id config with
      | .ok found => return ofFound 200 "pricing rule not found" "" (some found)
      | .error e => return .error (e.rejection "failed to update pricing")

def deletePricing (id : Uuid) : CatalogProgram (Except Rejection Nat) := do
  match ← ensurePricingGate fun rules => rules.filter (·.id ≠ id) with
  | .error rejection => return .error rejection
  | .ok () =>
    let found ← query (.deletePricing id)
    return ofFound 200 "pricing rule not found" "failed to delete pricing" found

/-- Validates a deployment list against the providers that are there now. -/
def validateDeployments (deployments : List Admin.DeploymentBody) :
    CatalogProgram (Except Rejection (List (String × String))) := do
  let some providers ← query .listProviders | return .error (.internal "failed to load providers")
  return deployments.foldlM (Admin.validateDeployment providers) []

def ensureListable (name : String) (deployments : List (String × String)) (now : DateTime) :
    CatalogProgram (Except Rejection Unit) :=
  if deployments.isEmpty then
    return .error (.conflict s!"model '{name}' cannot be enabled without at least one deployment")
  else do
    let some rules ← query .listPricing | return .error (.internal "failed to load pricing")
    let candidate : ModelConfig :=
      { name := name, enabled := true, createdAt := now, deployments := deploymentsOf deployments }
    match uncoveredDeployments candidate (rules.map PricingRecord.config) with
    | deployment :: _ => return .error (.conflict
        s!"model '{name}' cannot be listed: deployment '{deployment.providerId}:{deployment.upstreamModel}' has no pricing rule; add pricing first (wildcards count)")
    | [] => return .ok ()

/-- The gate of a mutation that leaves the model enabled. -/
def ensureListableIf (enabled : Bool) (name : String) (deployments : List (String × String))
    (now : DateTime) : CatalogProgram (Except Rejection Unit) :=
  if enabled then ensureListable name deployments now else return .ok ()

/-- The last write of `create_model`. -/
def enableIf (enabled : Bool) (name : String) : CatalogProgram (Except Rejection Nat) :=
  if enabled then do
    match ← Store.setModelStatus name true with
    | .ok _ => return .ok 201
    | .error _ => return .error (.internal "failed to enable model")
  else return .ok 201

def createModel (body : Admin.CreateModelBody) (now : DateTime) :
    CatalogProgram (Except Rejection Nat) :=
  let name := Text.trim body.name
  if name = "" ∨ name.utf8ByteSize > 200 then
    return .error (.badRequest "model name must be 1-200 characters")
  else do
    match ← validateDeployments body.deployments with
    | .error rejection => return .error rejection
    | .ok deployments =>
      match ← ensureListableIf body.enabled name deployments now with
      | .error rejection => return .error rejection
      | .ok () =>
        match ← Store.createModel name now with
        | .error e => return .error (e.rejection "failed to create model")
        | .ok () =>
          match ← Store.setDeployments name deployments with
          | .error _ => return .error (.internal "failed to save deployments")
          | .ok _ => enableIf body.enabled name

def updateModel (name : String) (body : Admin.UpdateModelBody) (now : DateTime) :
    CatalogProgram (Except Rejection Nat) := do
  -- a lookup that fails is taken for a model that is not there
  if ← Store.getModel name then
    match ← validateDeployments body.deployments with
    | .error rejection => return .error rejection
    | .ok deployments =>
      match ← ensureListableIf body.enabled name deployments now with
      | .error rejection => return .error rejection
      | .ok () =>
        match ← Store.setDeployments name deployments with
        | .error e => return .error (e.rejection "failed to save deployments")
        | .ok _ =>
          match ← Store.setModelStatus name body.enabled with
          | .error _ => return .error (.internal "failed to update model status")
          | .ok _ => return .ok 200
  else return .error (.notFound "model not found")

def deleteModel (name : String) : CatalogProgram (Except Rejection Nat) := do
  return ofFound 200 "model not found" "failed to delete model" (← query (.deleteModel name))

def run : CatalogRequest → CatalogProgram (Except Rejection Nat)
  | .createProvider body => createProvider body
  | .updateProvider id fields => updateProvider id fields
  | .deleteProvider id => deleteProvider id
  | .createPricing body newId => createPricing P body newId
  | .updatePricing id body => updatePricing P id body
  | .deletePricing id => deletePricing id
  | .createModel body now => createModel body now
  | .updateModel name body now => updateModel name body now
  | .deleteModel name => deleteModel name

/-- `SharedGatewayState::store_catalog`: two cells are stored, one after the other. -/
def storeCatalog (catalog : CatalogSnapshot) : CatalogProgram (Except String Unit) := do
  match ← readFile with
  | .error error => return .error error
  | .ok config =>
    match rebuild P config catalog (← loadState) with
    | .error error => return .error error
    | .ok next =>
      storeCells catalog next
      return .ok ()

def refreshCatalog : CatalogProgram (Except String Unit) := do
  match ← Store.snapshot with
  | .error error => return .error error
  | .ok catalog => storeCatalog P catalog

/-- `refresh_and_respond`. -/
def refreshAndRespond (status : Nat) : CatalogProgram Response := do
  match ← refreshCatalog P with
  | .ok () => return .ok status none
  | .error error =>
    return .ok status (some s!"saved, but applying it to the gateway failed: {error}")

def handle (call : CatalogCall) : CatalogProgram Response :=
  match requireAdmin call.identity with
  | .error rejection => return .error rejection
  | .ok () => do
    match ← run P call.request with
    | .error rejection => return .error rejection
    | .ok status => refreshAndRespond P status

end CatalogThread

/-- The calls that run at the same time. -/
abbrev CatalogThreads (ι : Type) :=
  System ι AdminState CatalogStep CatalogStep.Answer Response

namespace CatalogThreads

variable {ι : Type}

/-- Every call is made, none has run. -/
def init (P : Packages) (s : AdminState) (calls : ι → CatalogCall) : CatalogThreads ι :=
  ⟨s, fun i => CatalogThread.handle P (calls i)⟩

/-- The next step of a call. -/
def step [DecidableEq ι] : CatalogThreads ι → ι × StepChoice → Option (CatalogThreads ι) :=
  System.step CatalogStep.exec

end CatalogThreads

end LiteAgentify
