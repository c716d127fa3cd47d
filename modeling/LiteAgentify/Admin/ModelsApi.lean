import LiteAgentify.Admin.CatalogApi
import LiteAgentify.Catalog.Startup

/-!
# Model management, and the handlers together

`src/admin/models_api.rs`, then every catalog handler as a `CatalogRequest` that runs on the
database and the shared snapshot (`AdminState.handle`).
-/

set_option autoImplicit false

namespace LiteAgentify

namespace Admin

structure DeploymentBody where
  providerId : String
  upstreamModel : String
  deriving DecidableEq

structure CreateModelBody where
  name : String
  deployments : List DeploymentBody := []
  enabled : Bool := false
  deriving DecidableEq

structure UpdateModelBody where
  deployments : List DeploymentBody
  enabled : Bool
  deriving DecidableEq

/-- One iteration of `validate_deployments`'s loop. -/
def validateDeployment (providers : List ProviderConfig) (resolved : List (String × String))
    (deployment : DeploymentBody) : Except Rejection (List (String × String)) :=
  let providerId := Text.trim deployment.providerId
  let upstreamModel := Text.trim deployment.upstreamModel
  if providerId = "" then .error (.badRequest "deployment provider cannot be empty")
  else if upstreamModel = "" then
    .error (.badRequest "deployment upstream model cannot be empty")
  else if ¬ providers.any (·.id = providerId) then
    .error (.badRequest s!"deployment references unknown provider '{providerId}'")
  else if resolved.any (·.1 = providerId) then
    .error (.badRequest s!"provider '{providerId}' appears more than once in the chain")
  else .ok (resolved ++ [(providerId, upstreamModel)])

def validateDeployments (db : CatalogDb) (deployments : List DeploymentBody) :
    Except Rejection (List (String × String)) :=
  deployments.foldlM (validateDeployment db.listProviders) []

/-- The listing gate: enabling requires a non-empty chain that is priced in full. -/
def ensureListable (db : CatalogDb) (name : String) (deployments : List (String × String))
    (now : DateTime) : Except Rejection Unit :=
  if deployments.isEmpty then
    .error (.conflict s!"model '{name}' cannot be enabled without at least one deployment")
  else
    let pricing := db.listPricing.map PricingRecord.config
    let candidate : ModelConfig :=
      { name := name, enabled := true, createdAt := now, deployments := deploymentsOf deployments }
    match uncoveredDeployments candidate pricing with
    | deployment :: _ => .error (.conflict
        s!"model '{name}' cannot be listed: deployment '{deployment.providerId}:{deployment.upstreamModel}' has no pricing rule; add pricing first (wildcards count)")
    | [] => .ok ()

/-- The gate of a mutation that leaves the model enabled. -/
def ensureListableIf (enabled : Bool) (db : CatalogDb) (name : String)
    (deployments : List (String × String)) (now : DateTime) : Except Rejection Unit :=
  if enabled then ensureListable db name deployments now else .ok ()

/-- Three store calls; a failure leaves what the earlier ones wrote. -/
def createModel (db : CatalogDb) (body : CreateModelBody) (now : DateTime) : Outcome :=
  let name := Text.trim body.name
  if name = "" ∨ name.utf8ByteSize > 200 then
    (db, .error (.badRequest "model name must be 1-200 characters"))
  else
    match validateDeployments db body.deployments with
    | .error rejection => (db, .error rejection)
    | .ok deployments =>
      match ensureListableIf body.enabled db name deployments now with
      | .error rejection => (db, .error rejection)
      | .ok () =>
        match db.createModel name now with
        | .error e => (db, .error (e.rejection "failed to create model"))
        | .ok created =>
          match created.setDeployments name deployments with
          | .error _ => (created, .error (.internal "failed to save deployments"))
          | .ok (saved, _) =>
            if body.enabled then
              match saved.setModelStatus name true with
              | .error _ => (saved, .error (.internal "failed to enable model"))
              | .ok (listed, _) => (listed, .ok 201)
            else (saved, .ok 201)

/-- Two store calls; a failure of the second leaves what the first wrote. -/
def updateModel (db : CatalogDb) (name : String) (body : UpdateModelBody) (now : DateTime) :
    Outcome :=
  if (db.getModel name).isNone then (db, .error (.notFound "model not found"))
  else
    match validateDeployments db body.deployments with
    | .error rejection => (db, .error rejection)
    | .ok deployments =>
      match ensureListableIf body.enabled db name deployments now with
      | .error rejection => (db, .error rejection)
      | .ok () =>
        match db.setDeployments name deployments with
        | .error e => (db, .error (e.rejection "failed to save deployments"))
        | .ok (saved, _) =>
          match saved.setModelStatus name body.enabled with
          | .error _ => (saved, .error (.internal "failed to update model status"))
          | .ok (updated, _) => (updated, .ok 200)

def deleteModel (db : CatalogDb) (name : String) : Outcome :=
  ofFound db 200 "model not found" (fun _ => .internal "failed to delete model")
    (db.deleteModel name)

end Admin

/-! ## Every handler -/

/-- A request to one of the handlers that write the catalog, with the random values and the time its
handler draws. -/
inductive CatalogRequest
  | createProvider (body : Admin.CreateProviderBody)
  | updateProvider (id : String) (fields : Admin.ProviderBody)
  | deleteProvider (id : String)
  | createPricing (body : Admin.PricingBody) (newId : Uuid)
  | updatePricing (id : Uuid) (body : Admin.PricingBody)
  | deletePricing (id : Uuid)
  | createModel (body : Admin.CreateModelBody) (now : DateTime)
  | updateModel (name : String) (body : Admin.UpdateModelBody) (now : DateTime)
  | deleteModel (name : String)
  deriving DecidableEq

def CatalogRequest.run (P : Packages) (db : CatalogDb) : CatalogRequest → Admin.Outcome
  | .createProvider body => Admin.createProvider db body
  | .updateProvider id fields => Admin.updateProvider db id fields
  | .deleteProvider id => Admin.deleteProvider db id
  | .createPricing body newId => Admin.createPricing P db body newId
  | .updatePricing id body => Admin.updatePricing P db id body
  | .deletePricing id => Admin.deletePricing db id
  | .createModel body now => Admin.createModel db body now
  | .updateModel name body now => Admin.updateModel db name body now
  | .deleteModel name => Admin.deleteModel db name

/-- Who sends a request. -/
structure CatalogCall where
  identity : SessionIdentity
  request : CatalogRequest
  deriving DecidableEq

/-- The catalog side of the management API: the database and the shared snapshot. -/
structure AdminState where
  db : CatalogDb
  shared : SharedGatewayState

/-- Why a start fails: a write of the imports, or a check of `from_parts`. -/
inductive StartError
  | store (error : StoreError)
  | rejected (message : String)
  deriving DecidableEq

namespace AdminState

/-- The gateway starts on a database, as `build_router` does when no statement fails: the imports of
the file come first, then `from_parts` on what they have left. `accounts` is a state with the key
map, the grants, the counter and the handles that the start has set up. -/
def boot (P : Packages) (config : GatewayConfig) (draw : BootDraw) (db : CatalogDb)
    (accounts : GatewayState) : Except StartError AdminState := do
  let db ← (db.importOnce config draw.newId draw.now).mapError .store
  let state ← (rebuild P config db.snapshot accounts).mapError .rejected
  return { db := db, shared := { state := state, catalog := db.snapshot } }

/-- `refresh_and_respond`, with what reading the config file gives: the write has committed, a
refresh that fails only adds a warning to the response. -/
def refreshAndRespond (P : Packages) (file : Except String GatewayConfig) (s : AdminState)
    (status : Nat) : AdminState × Response :=
  match file.bind fun config => rebuild P config s.db.snapshot s.shared.state with
  | .ok next =>
    ({ s with shared := { state := next, catalog := s.db.snapshot } }, .ok status none)
  | .error error =>
    (s, .ok status (some s!"saved, but applying it to the gateway failed: {error}"))

/-- A handler: the role check they all begin with, the writes, and the refresh after a success. -/
def handle (P : Packages) (file : Except String GatewayConfig) (s : AdminState)
    (call : CatalogCall) : AdminState × Response :=
  match requireAdmin call.identity with
  | .error rejection => (s, .error rejection)
  | .ok () =>
    match call.request.run P s.db with
    | (db, .error rejection) => ({ s with db := db }, .error rejection)
    | (db, .ok status) => refreshAndRespond P file { s with db := db } status

/-- One call, run to its end, with what its refresh reads from the config file. -/
def step (P : Packages) (s : AdminState) (l : CatalogCall × Except String GatewayConfig) :
    Option AdminState :=
  some (s.handle P l.2 l.1).1

end AdminState

end LiteAgentify
