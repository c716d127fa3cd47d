import LiteAgentify.Account.Bootstrap
import LiteAgentify.Catalog.Startup
import LiteAgentify.Quota.Reconcile

/-!
# The gateway over restarts

`build_router` of `src/proxy/router.rs` on the tables of the primary database: the accounts are
seeded, the file is imported, and the snapshot and the counters are read from the tables. A boot
that fails ends the process and leaves what it has written. `Gateway.step` is the gateway with its
boots, its deaths, the requests of the management API (each runs to its end before the next),
reloads of the file, and the traffic that charges, records and touches keys.
-/

set_option autoImplicit false

namespace LiteAgentify

open AdminApi UsageQuery

/-- What outlives the process. -/
structure Tables where
  users : Users
  keys : Keys
  grants : List GrantRecord
  usage : List UsageModel
  catalog : CatalogDb

/-- The freshly migrated database. -/
def Tables.empty (collation : String → String → Bool) : Tables where
  users := .empty
  keys := .empty
  grants := []
  usage := []
  catalog := .empty collation

def AdminApi.Backend.tables (w : Backend) : Tables where
  users := w.users
  keys := w.keys
  grants := w.grants
  usage := w.usage.getD []
  catalog := w.console.db

/-! ## Boots -/

/-- What a boot reads around the transaction and the imports. -/
inductive BootRead
  | connect
  | activeKeys
  | activeUsers
  | snapshot
  | spendByUser
  | spendByKey
  | grantSums
  deriving DecidableEq

/-- A boot: the file it was given, what it draws and what fails. -/
structure Boot where
  config : GatewayConfig
  seeding : Seeding
  imports : BootDraw
  /-- The statements of an import: it counts the rows of its table, then makes its calls. -/
  importFails : ImportStage → Nat → Bool
  fails : BootRead → Bool
  upstream : Handle
  usageRecorder : Handle
  spendCounter : SpendCounter

/-- Makes the calls, numbered from `n`, until one fails; whether all were made. -/
def runCalls (fails : Nat → Bool) (n : Nat) (db : CatalogDb) :
    List ImportCall → CatalogDb × Bool
  | [] => (db, true)
  | call :: left =>
    if fails n then (db, false)
    else
      match call.exec db with
      | .ok db => runCalls fails (n + 1) db left
      | .error _ => (db, false)

namespace Boot

variable (b : Boot)

def runStage (stage : ImportStage) (db : CatalogDb) : CatalogDb × Bool :=
  if b.importFails stage 0 then (db, false)
  else runCalls (b.importFails stage) 1 db (stage.calls b.config b.imports db)

/-- The next stage runs when the one before it was completed. -/
def thenStage (stage : ImportStage) (done : CatalogDb × Bool) : CatalogDb × Bool :=
  if done.2 then b.runStage stage done.1 else done

/-- `import_config_once`, then `migrate_routes_once`. -/
def runImports (db : CatalogDb) : CatalogDb × Bool :=
  b.thenStage .models (b.thenStage .pricing (b.runStage .providers db))

end Boot

def UsageQuery.UsageModel.row (row : UsageModel) : UsageRow :=
  ⟨row.userId, row.apiKeyId, row.estimatedCost⟩

/-- The entries of a map of sums, by key. -/
def sumEntries (sums : HashMap Uuid ℚ) : List (Uuid × ℚ) :=
  (sums.keys.sort (· ≤ ·)).map fun id => (id, (sums.lookup id).getD 0)

/-- The first pass of `reconcile_counters`. -/
def seededCounter (usage : List UsageModel) : MemoryCounter :=
  reconcileCounters (sumEntries (spendByUser (usage.map UsageModel.row)))
    (sumEntries (spendByKey (usage.map UsageModel.row))) ∅

namespace Tables

/-- `active_key_map`. -/
def apiKeys (t : Tables) : ApiKeyMap :=
  keyMap ((t.keys.select fun key => key.status = .active).map ApiKeyModel.toApiKeyRow)
    ((t.users.select fun user => user.status = .active).map fun user => user.row)

/-- `grant_sums` -/
def granted (t : Tables) : HashMap Uuid ℚ := grantSums (t.grants.map GrantRecord.toGrantRow)

end Tables

/-- The tables that a boot leaves and, unless it fails, what it serves. -/
def buildRouter (P : Packages) (b : Boot) (t : Tables) : Tables × Option Backend :=
  if b.fails .connect then (t, none)
  else
    match AdminApi.bootstrapAccounts P b.config b.seeding t.users t.keys with
    | .error _ => (t, none)
    | .ok (users, keys) =>
      let t := { t with users := users, keys := keys }
      if b.fails .activeKeys ∨ b.fails .activeUsers then (t, none)
      else
        let (catalog, imported) := b.runImports t.catalog
        let t := { t with catalog := catalog }
        if ¬ imported ∨ b.fails .snapshot ∨ b.fails .spendByUser ∨ b.fails .spendByKey ∨
            b.fails .grantSums then (t, none)
        else
          match buildRouterShared P b.config t.catalog.snapshot b.upstream b.usageRecorder t.apiKeys
            t.granted b.spendCounter with
          | .error _ => (t, none)
          | .ok shared => (t, some
            { users := t.users
              keys := t.keys
              grants := t.grants
              usage := some t.usage
              counters := seededCounter t.usage
              console := { db := t.catalog, shared := shared } })

/-! ## Runs -/

inductive Gateway
  | down (tables : Tables)
  | up (backend : Backend)

inductive GatewayEvent
  | boot (b : Boot)
  /-- The process dies between two requests. -/
  | die
  | call (call : ApiCall)
  /-- `POST /reload`, or the watcher, with what reading the file gives. -/
  | reload (file : Except String GatewayConfig)
  /-- The proxy has charged, the writer has inserted usage rows and touched keys. -/
  | traffic (counters : MemoryCounter) (usage : List UsageModel)
      (lastUsedAt : Uuid → Option DateTime)

namespace AdminApi.Backend

def reload (P : Packages) (w : Backend) (file : Except String GatewayConfig) : Backend :=
  { w with console := { w.console with shared := (Call.reload file).exec P w.console.shared } }

/-- The keys with other times of their last use. -/
def touched (w : Backend) (lastUsedAt : Uuid → Option DateTime) : Keys :=
  w.keys.updateWhere (fun _ => true) (fun key => { key with lastUsedAt := lastUsedAt key.id })
    (fun _ => rfl) fun _ => rfl

end AdminApi.Backend

def Gateway.step (X : Externals) : Gateway → GatewayEvent → Option Gateway
  | .down t, .boot b =>
    match buildRouter X.toPackages b t with
    | (_, some w) => some (.up w)
    | (t, none) => some (.down t)
  | .up w, .die => some (.down w.tables)
  | .up w, .call call => some (.up (serve X w call).2)
  | .up w, .reload file => some (.up (w.reload X.toPackages file))
  | .up w, .traffic counters usage lastUsedAt => some (.up { w with
      counters := counters
      usage := some usage
      keys := w.touched lastUsedAt })
  | _, _ => none

end LiteAgentify
