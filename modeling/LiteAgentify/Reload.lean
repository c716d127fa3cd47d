import LiteAgentify.State
import LiteAgentify.Lib.Run

/-!
# The shared snapshot

`src/reload.rs`: the two atomically swappable cells of `SharedGatewayState` and the four operations
on them. Each operation appears twice: as its sequential body (`Call.exec`, which returns
`Call.result`) and as the separate load, build and store steps of that body (`step`), which calls
running at the same time interleave.
-/

set_option autoImplicit false

namespace LiteAgentify

/-- `SharedGatewayState`: the serving state and the cached catalog, each behind an `ArcSwap`. -/
structure SharedGatewayState where
  state : GatewayState
  catalog : CatalogSnapshot
  deriving DecidableEq

/-- `SharedGatewayState::new`. The file that a reload reads is an input of each call. -/
def SharedGatewayState.new (state : GatewayState) (catalog : CatalogSnapshot) :
    SharedGatewayState :=
  { state := state, catalog := catalog }

/-- The end of `build_router`, its only caller outside the tests: the state built from the file and
the database's catalog, with the key map, the grants and the counter of the process. -/
def buildRouterShared (P : Packages) (config : GatewayConfig) (catalog : CatalogSnapshot)
    (upstream usageRecorder : Handle) (apiKeys : ApiKeyMap) (granted : HashMap Uuid ℚ)
    (spendCounter : SpendCounter) : Except String SharedGatewayState := do
  let state ← GatewayState.fromParts P config catalog upstream usageRecorder
  let state := ((state.withApiKeys apiKeys).withGranted granted).withSpendCounter spendCounter
  return .new state catalog

/-- A call, with the map or the catalog it is given and what reading the config file gives it. -/
inductive Call
  | storeApiKeys (apiKeys : ApiKeyMap)
  | storeGranted (granted : HashMap Uuid ℚ)
  | storeCatalog (catalog : CatalogSnapshot) (file : Except String GatewayConfig)
  | reload (file : Except String GatewayConfig)

/-- The state built from a file and a catalog, with the database-owned fields and the handles of
the current state carried over. -/
def rebuild (P : Packages) (config : GatewayConfig) (catalog : CatalogSnapshot)
    (current : GatewayState) : Except String GatewayState := do
  let next ← GatewayState.fromParts P config catalog current.upstream current.usageRecorder
  return ((next.withApiKeys current.apiKeys).withGranted current.granted).withSpendCounter
    current.spendCounter

/-- A call run by itself. -/
def Call.exec (P : Packages) (shared : SharedGatewayState) : Call → SharedGatewayState
  | .storeApiKeys apiKeys => { shared with state := shared.state.withApiKeys apiKeys }
  | .storeGranted granted => { shared with state := shared.state.withGranted granted }
  | .storeCatalog catalog file =>
    match file with
    | .error _ => shared
    | .ok config =>
      match rebuild P config catalog shared.state with
      | .error _ => shared
      | .ok next => { state := next, catalog := catalog }
  | .reload file =>
    match file with
    | .error _ => shared
    | .ok config =>
      match rebuild P config shared.catalog shared.state with
      | .error _ => shared
      | .ok next => { shared with state := next }

/-- What a call run by itself returns. -/
def Call.result (P : Packages) (shared : SharedGatewayState) : Call → Except String Unit
  | .storeApiKeys _ | .storeGranted _ => .ok ()
  | .storeCatalog catalog file =>
    file.bind fun config => (rebuild P config catalog shared.state).map fun _ => ()
  | .reload file =>
    file.bind fun config => (rebuild P config shared.catalog shared.state).map fun _ => ()

/-! ## The steps of the calls -/

/-- How far a call has come, with what its local variables hold. -/
inductive Pc
  | start
  /-- `reload` has loaded the cached catalog. -/
  | sawCatalog (catalog : CatalogSnapshot)
  /-- A `store_*` call has loaded the serving state. -/
  | sawState (current : GatewayState)
  /-- `reload` has loaded both. -/
  | sawBoth (catalog : CatalogSnapshot) (current : GatewayState)
  /-- The next state is built and not stored yet. -/
  | built (next : GatewayState)
  /-- `store_catalog` has stored the catalog and not the next state. -/
  | storedCatalog (next : GatewayState)
  | returned (result : Except String Unit)

def Pc.isReturned : Pc → Bool
  | .returned _ => true
  | _ => false

/-- What follows the build: an error ends the call before any store. -/
def Pc.ofBuild : Except String GatewayState → Pc
  | .ok next => .built next
  | .error e => .returned (.error e)

/-- The next step of a call, given the cells and its place: one load, one build or one store. -/
def Call.step (P : Packages) (shared : SharedGatewayState) :
    Call → Pc → Option (SharedGatewayState × Pc)
  | .storeApiKeys _, .start => some (shared, .sawState shared.state)
  | .storeApiKeys apiKeys, .sawState current => some (shared, .built (current.withApiKeys apiKeys))
  | .storeApiKeys _, .built next => some ({ shared with state := next }, .returned (.ok ()))
  | .storeGranted _, .start => some (shared, .sawState shared.state)
  | .storeGranted granted, .sawState current => some (shared, .built (current.withGranted granted))
  | .storeGranted _, .built next => some ({ shared with state := next }, .returned (.ok ()))
  | .storeCatalog _ (.error e), .start => some (shared, .returned (.error e))
  | .storeCatalog _ (.ok _), .start => some (shared, .sawState shared.state)
  | .storeCatalog catalog (.ok config), .sawState current =>
    some (shared, .ofBuild (rebuild P config catalog current))
  | .storeCatalog catalog _, .built next =>
    some ({ shared with catalog := catalog }, .storedCatalog next)
  | .storeCatalog _ _, .storedCatalog next =>
    some ({ shared with state := next }, .returned (.ok ()))
  | .reload (.error e), .start => some (shared, .returned (.error e))
  | .reload (.ok _), .start => some (shared, .sawCatalog shared.catalog)
  | .reload _, .sawCatalog catalog => some (shared, .sawBoth catalog shared.state)
  | .reload (.ok config), .sawBoth catalog current =>
    some (shared, .ofBuild (rebuild P config catalog current))
  | .reload _, .built next => some ({ shared with state := next }, .returned (.ok ()))
  | _, _ => none

/-- The cells and the places of the calls. -/
structure Sys (ι : Type) where
  shared : SharedGatewayState
  pc : ι → Pc

variable {ι : Type} [DecidableEq ι]

/-- One step of call `i`. -/
def Sys.step (P : Packages) (calls : ι → Call) (s : Sys ι) (i : ι) : Option (Sys ι) :=
  ((calls i).step P s.shared (s.pc i)).map fun (shared, pc) =>
    { shared := shared, pc := Function.update s.pc i pc }

/-- Every call is made, none has run. -/
def Sys.init (shared : SharedGatewayState) : Sys ι := { shared := shared, pc := fun _ => .start }

/-- The cells after the calls of a list have run one after another. -/
def sequentially (P : Packages) (calls : ι → Call) (shared : SharedGatewayState) (order : List ι) :
    SharedGatewayState :=
  order.foldl (fun shared i => (calls i).exec P shared) shared

end LiteAgentify
