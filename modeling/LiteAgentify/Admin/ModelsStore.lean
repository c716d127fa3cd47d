import LiteAgentify.Admin.ModelsApi

/-!
# Model management when store calls fail

`create_model` and `update_model` of `src/admin/models_api.rs` again, now with a store of which any
call may fail, and with the columns that `Admin.createModel` leaves out: the time a model was last
updated and the ids of the deployments. A call that fails leaves the tables as they were
(`set_deployments` is a transaction). Without failures these are the same handlers
(`createModelWith_ok`, `updateModelWith_ok`).
-/

set_option autoImplicit false

namespace LiteAgentify

namespace Admin

/-- The calls of the trait `CatalogStore` that the two handlers make, each at most once. -/
inductive StoreCall
  | listProviders
  | listPricing
  | getModel
  | createModel
  | setDeployments
  | setModelStatus
  deriving DecidableEq

/-- What a request's store calls run with: which of them fail, the times they read and the ids they
draw. -/
structure StoreCalls where
  fails : StoreCall → Bool
  now : StoreCall → DateTime
  newId : Nat → Uuid

/-- The catalog database with the columns `models.updated_at` and `model_deployments.id`. -/
structure ModelStore where
  db : CatalogDb
  updatedAt : String → DateTime
  deploymentId : String × String → Uuid

namespace ModelStore

variable (calls : StoreCalls) (store : ModelStore)

def createModel (name : String) : Except StoreError ModelStore :=
  if calls.fails .createModel then .error .failed
  else
    match store.db.createModel name (calls.now .createModel) with
    | .error e => .error e
    | .ok db => .ok { store with
        db := db
        updatedAt := Function.update store.updatedAt name (calls.now .createModel) }

/-- The new rows draw new ids, and the model is touched. -/
def setDeployments (name : String) (deployments : List (String × String)) :
    Except StoreError ModelStore :=
  if calls.fails .setDeployments then .error .failed
  else
    match store.db.setDeployments name deployments with
    | .error e => .error e
    | .ok (_, false) => .ok store
    | .ok (db, true) => .ok
      { db := db
        updatedAt := Function.update store.updatedAt name (calls.now .setDeployments)
        deploymentId := fun pair =>
          if pair.1 = name then calls.newId ((deployments.map Prod.fst).idxOf pair.2)
          else store.deploymentId pair }

def setModelStatus (name : String) (enabled : Bool) : Except StoreError ModelStore :=
  if calls.fails .setModelStatus then .error .failed
  else
    match store.db.setModelStatus name enabled with
    | .error e => .error e
    | .ok (_, false) => .ok store
    | .ok (db, true) => .ok { store with
        db := db
        updatedAt := Function.update store.updatedAt name (calls.now .setModelStatus) }

end ModelStore

/-! ## The handlers -/

section

variable (calls : StoreCalls) (store : ModelStore)

def validateDeploymentsWith (deployments : List DeploymentBody) :
    Except Rejection (List (String × String)) :=
  if calls.fails .listProviders then .error (.internal "failed to load providers")
  else validateDeployments store.db deployments

/-- The gate, for a mutation that leaves the model enabled. -/
def ensureListableWith (enabled : Bool) (name : String) (deployments : List (String × String)) :
    Except Rejection Unit :=
  if enabled ∧ deployments ≠ [] ∧ calls.fails .listPricing then
    .error (.internal "failed to load pricing")
  else ensureListableIf enabled store.db name deployments (calls.now .listPricing)

def createModelWith (body : CreateModelBody) : ModelStore × Except Rejection Nat :=
  let name := Text.trim body.name
  if name = "" ∨ name.utf8ByteSize > 200 then
    (store, .error (.badRequest "model name must be 1-200 characters"))
  else
    match validateDeploymentsWith calls store body.deployments with
    | .error rejection => (store, .error rejection)
    | .ok deployments =>
      match ensureListableWith calls store body.enabled name deployments with
      | .error rejection => (store, .error rejection)
      | .ok () =>
        match store.createModel calls name with
        | .error e => (store, .error (e.rejection "failed to create model"))
        | .ok created =>
          match created.setDeployments calls name deployments with
          | .error _ => (created, .error (.internal "failed to save deployments"))
          | .ok saved =>
            if body.enabled then
              match saved.setModelStatus calls name true with
              | .error _ => (saved, .error (.internal "failed to enable model"))
              | .ok listed => (listed, .ok 201)
            else (saved, .ok 201)

def updateModelWith (name : String) (body : UpdateModelBody) :
    ModelStore × Except Rejection Nat :=
  -- a lookup that fails is taken for a model that is not there
  if calls.fails .getModel ∨ (store.db.getModel name).isNone then
    (store, .error (.notFound "model not found"))
  else
    match validateDeploymentsWith calls store body.deployments with
    | .error rejection => (store, .error rejection)
    | .ok deployments =>
      match ensureListableWith calls store body.enabled name deployments with
      | .error rejection => (store, .error rejection)
      | .ok () =>
        match store.setDeployments calls name deployments with
        | .error e => (store, .error (e.rejection "failed to save deployments"))
        | .ok saved =>
          match saved.setModelStatus calls name body.enabled with
          | .error _ => (saved, .error (.internal "failed to update model status"))
          | .ok updated => (updated, .ok 200)

end

end Admin

end LiteAgentify
