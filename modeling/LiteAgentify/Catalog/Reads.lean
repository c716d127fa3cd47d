import LiteAgentify.Admin.ModelsStore
import LiteAgentify.Lib.Groups
import LiteAgentify.Lib.OrderBy

/-!
# Reading and writing chains

The calls of `src/catalog/store.rs` on models, with the ids of the deployments. `list_models` sorts
the rows of all deployments and groups them in a hash map, `get_model` selects those of one model,
and `set_deployments` is a transaction of which any statement may fail: it deletes the rows of a
model and inserts the new ones one by one.
-/

set_option autoImplicit false

namespace LiteAgentify

/-- The store, with the columns `models.updated_at` and `model_deployments.id`. -/
abbrev SeaOrmCatalogStore := Admin.ModelStore

/-- A `DeploymentConfig` with its id. -/
structure DeploymentRecord where
  id : Uuid
  providerId : String
  upstreamModel : String
  deriving DecidableEq

/-- A `ModelConfig` with the ids of its deployments. -/
structure ModelRecord where
  name : String
  enabled : Bool
  createdAt : DateTime
  deployments : List DeploymentRecord
  deriving DecidableEq

/-- Without the ids. -/
def DeploymentRecord.config (deployment : DeploymentRecord) : DeploymentConfig where
  providerId := deployment.providerId
  upstreamModel := deployment.upstreamModel

def ModelRecord.config (model : ModelRecord) : ModelConfig where
  name := model.name
  enabled := model.enabled
  createdAt := model.createdAt
  deployments := model.deployments.map DeploymentRecord.config

/-- The chain as `set_deployments` takes it. -/
def ModelRecord.chain (model : ModelRecord) : List (String × String) :=
  model.deployments.map fun deployment => (deployment.providerId, deployment.upstreamModel)

/-- What a call finds outside of the database: the time, the ids it draws, and which of its
statements fail. -/
structure CallDraw where
  now : DateTime
  newId : Nat → Uuid
  fails : Nat → Bool

/-- A statement of a call. -/
def CallDraw.statement (draw : CallDraw) (index : Nat) : Except StoreError Unit :=
  if draw.fails index then .error .failed else .ok ()

namespace SeaOrmCatalogStore

variable (store : SeaOrmCatalogStore)

/-! ## Reads -/

def record (row : DeploymentRow) : DeploymentRecord where
  id := store.deploymentId (row.modelName, row.providerId)
  providerId := row.providerId
  upstreamModel := row.upstreamModel

/-- `ORDER BY priority`. -/
def byPriority (rows : List DeploymentRow) : List DeploymentRow :=
  OrderBy.sortBy DeploymentRow.priority rows

/-- `ORDER BY model_name, priority`: the second sort keeps the order of rows of one model. -/
def byModelAndPriority (rows : List DeploymentRow) : List DeploymentRow :=
  (byPriority rows).insertionSort fun a b =>
    a.modelName = b.modelName ∨ store.db.collation a.modelName b.modelName

/-- Every model takes its deployments out of the map. -/
def takeDeployments (byModel : HashMap String (List DeploymentRecord)) :
    List ModelRow → List ModelRecord
  | [] => []
  | row :: rows =>
    { name := row.name
      enabled := row.enabled
      createdAt := row.createdAt
      deployments := (byModel.lookup row.name).getD [] } ::
      takeDeployments (byModel.erase row.name) rows

def listModels : List ModelRecord :=
  let models := store.db.orderBy ModelRow.name store.db.models
  let deployments := store.byModelAndPriority store.db.deployments
  let byModel : HashMap String (List DeploymentRecord) :=
    Groups.collect [] DeploymentRow.modelName (fun chain row => chain ++ [store.record row]) ∅
      deployments
  takeDeployments byModel models

def getModel (name : String) : Option ModelRecord :=
  (store.db.models.find? (·.name = name)).map fun row =>
    { name := row.name
      enabled := row.enabled
      createdAt := row.createdAt
      deployments :=
        (byPriority (store.db.deployments.filter (·.modelName = name))).map store.record }

/-! ## Writes

A call returns the database it leaves with its answer. -/

section

variable (draw : CallDraw)

def createModel (name : String) : SeaOrmCatalogStore × Except StoreError ModelRecord :=
  match (do draw.statement 0; store.db.createModel name draw.now : Except StoreError CatalogDb) with
  | .error e => (store, .error e)
  | .ok db =>
    ({ store with db := db, updatedAt := Function.update store.updatedAt name draw.now },
      .ok { name := name, enabled := false, createdAt := draw.now, deployments := [] })

def setModelStatus (name : String) (enabled : Bool) :
    SeaOrmCatalogStore × Except StoreError Bool :=
  match (do draw.statement 0; store.db.setModelStatus name enabled :
    Except StoreError (CatalogDb × Bool)) with
  | .error e => (store, .error e)
  | .ok (_, false) => (store, .ok false)
  | .ok (db, true) =>
    ({ store with db := db, updatedAt := Function.update store.updatedAt name draw.now }, .ok true)

def deleteModel (name : String) : SeaOrmCatalogStore × Except StoreError Bool :=
  match (do draw.statement 0; store.db.deleteModel name :
    Except StoreError (CatalogDb × Bool)) with
  | .error e => (store, .error e)
  | .ok (db, found) => ({ store with db := db }, .ok found)

/-- The row of an entry of a chain: its index is its priority. -/
def rowOf (name : String) (entry : (String × String) × Nat) : DeploymentRow where
  modelName := name
  providerId := entry.1.1
  upstreamModel := entry.1.2
  priority := entry.2

def insertDeployment (name : String) (txn : SeaOrmCatalogStore) (entry : (String × String) × Nat) :
    Except StoreError SeaOrmCatalogStore := do
  draw.statement (entry.2 + 3)
  let db ← txn.db.commit fun t => { t with deployments := t.deployments ++ [rowOf name entry] }
  return { txn with
    db := db
    deploymentId := Function.update txn.deploymentId (name, entry.1.1) (draw.newId entry.2) }

/-- The transaction: the database it would commit, nothing when the model is not there. -/
def replaceDeployments (name : String) (deployments : List (String × String)) :
    Except StoreError (Option SeaOrmCatalogStore) := do
  draw.statement 0
  draw.statement 1
  if store.db.models.any (·.name = name) then
    draw.statement 2
    let cleared ← store.db.commit fun t => { t with
      deployments := t.deployments.filter (·.modelName ≠ name) }
    let inserted ← deployments.zipIdx.foldlM (insertDeployment draw name)
      { store with db := cleared }
    -- the model is touched, and the transaction is committed
    draw.statement (deployments.length + 3)
    draw.statement (deployments.length + 4)
    draw.statement (deployments.length + 5)
    return some { inserted with
      updatedAt := Function.update inserted.updatedAt name draw.now }
  else return none

/-- A transaction that is not committed is rolled back. -/
def setDeployments (name : String) (deployments : List (String × String)) :
    SeaOrmCatalogStore × Except StoreError Bool :=
  match CatalogDb.firstRepeated [] (deployments.map Prod.fst) with
  | some providerId =>
    (store, .error (.conflict s!"model '{name}' lists provider '{providerId}' more than once"))
  | none =>
    match store.replaceDeployments draw name deployments with
    | .error e => (store, .error e)
    | .ok none => (store, .ok false)
    | .ok (some committed) => (committed, .ok true)

end

end SeaOrmCatalogStore

/-! ## Runs -/

/-- The calls that write models. -/
inductive ModelCall
  | createModel (name : String)
  | setModelStatus (name : String) (enabled : Bool)
  | setDeployments (name : String) (deployments : List (String × String))
  | deleteModel (name : String)
  deriving DecidableEq

/-- The database a call leaves. -/
def ModelCall.run (draw : CallDraw) (store : SeaOrmCatalogStore) : ModelCall → SeaOrmCatalogStore
  | .createModel name => (store.createModel draw name).1
  | .setModelStatus name enabled => (store.setModelStatus draw name enabled).1
  | .setDeployments name deployments => (store.setDeployments draw name deployments).1
  | .deleteModel name => (store.deleteModel draw name).1

/-- The database that calls leave, one after another. -/
def SeaOrmCatalogStore.after (store : SeaOrmCatalogStore) (calls : List (ModelCall × CallDraw)) :
    SeaOrmCatalogStore :=
  calls.foldl (fun store call => call.1.run call.2 store) store

end LiteAgentify
