import LiteAgentify.Admin.AccountApi
import LiteAgentify.Admin.Login
import LiteAgentify.Admin.ModelsApi
import LiteAgentify.Usage.Query

/-!
# What the management API reads and writes

The tables behind the console with all the columns that its handlers show, the calls of the account
and quota stores on them (`src/account/store.rs`, `src/quota/store.rs`), and the replies with their
bodies. Each statement may fail; `Faults` says which of a request's statements do.
-/

set_option autoImplicit false

namespace LiteAgentify

namespace AdminApi

open UsageQuery

/-- The functions of other crates, and of the database, that the handlers call. -/
structure Externals extends Packages where
  /-- The check of a password against an argon2 PHC string. -/
  argon2 : String → String → Bool
  /-- `DateTime::parse_from_rfc3339` -/
  parseRfc3339 : String → Except String DateTime
  /-- `date_trunc` in the time zone of the session. -/
  dateTrunc : SummaryBucket → DateTime → DateTime

/-! ## Tables -/

/-- A row of `users`. -/
structure UserModel extends UserRecord where
  createdAt : DateTime
  deriving DecidableEq

/-- A row of `api_keys`. -/
structure ApiKeyModel extends ApiKeyRow where
  keyPrefix : String
  name : String
  createdAt : DateTime
  lastUsedAt : Option DateTime

/-- A row of `credit_grants`. -/
structure GrantRecord extends GrantRow where
  id : Uuid
  note : Option String
  grantedBy : Uuid
  createdAt : DateTime
  deriving DecidableEq

abbrev Users := Table (fun user : UserModel => user.id) fun user : UserModel => user.username

abbrev Keys := Table (fun key : ApiKeyModel => key.id) fun key : ApiKeyModel => key.keyHash

structure Backend where
  users : Users
  keys : Keys
  grants : List GrantRecord
  /-- The usage table, when the recorder has a readable store. -/
  usage : Option (List UsageModel)
  /-- The spend counter of the snapshot. -/
  counters : MemoryCounter
  /-- The catalog database and the shared snapshot. -/
  console : AdminState

/-! ## Requests in progress -/

/-- The random values and the time that a handler draws. -/
structure Draws where
  id : Uuid
  /-- `generate_api_key`. -/
  apiKey : String
  /-- `hash_password` of the new password. -/
  hash : String
  now : DateTime
  deriving DecidableEq

/-- Which of a request's statements, counted in their order, fail, and whether the hashing does. -/
structure Faults where
  statement : Nat → Bool
  hashing : Bool

/-- What a handler runs with: its session's identity, what it draws, what fails and what a rebuild
reads from the config file. -/
structure Context where
  identity : SessionIdentity
  draws : Draws
  faults : Faults
  file : Except String GatewayConfig

/-- What `hash_password` returns. -/
def Context.hashed (c : Context) : Option String :=
  if c.faults.hashing then none else some c.draws.hash

/-! ## Replies -/

structure UserJson where
  id : Uuid
  username : String
  role : Role
  status : UserStatus
  createdAt : DateTime
  deriving DecidableEq

structure ApiKeyRecord where
  id : Uuid
  userId : Uuid
  keyPrefix : String
  name : String
  status : KeyStatus
  createdAt : DateTime
  lastUsedAt : Option DateTime
  allowedModels : Option (List String)
  spendCapUsd : Option ℚ
  deriving DecidableEq

structure KeyJson extends ApiKeyRecord where
  spentUsd : Option ℚ
  username : Option String
  deriving DecidableEq

structure ListResponse where
  usageEnabled : Bool
  rows : List UsageModel
  total : Nat
  page : Nat
  pageSize : Nat
  deriving DecidableEq

structure SummaryResponse where
  usageEnabled : Bool
  summary : UsageSummary
  deriving DecidableEq

structure Balance where
  granted : ℚ
  spent : ℚ
  balance : ℚ
  deriving DecidableEq

structure BalanceRow where
  userId : Uuid
  username : String
  status : UserStatus
  balance : Balance
  deriving DecidableEq

structure LedgerRow where
  id : Uuid
  userId : Uuid
  username : Option String
  amountUsd : ℚ
  note : Option String
  grantedBy : Option String
  createdAt : DateTime
  deriving DecidableEq

structure ModelJson where
  model : ModelConfig
  uncovered : List String
  deriving DecidableEq

inductive Body
  /-- A message, as the member `error` or as plain text. -/
  | error (message : String)
  | ok
  | identity (identity : SessionIdentity)
  | users (users : List UserJson)
  | user (user : UserJson)
  | keys (keys : List KeyJson)
  /-- The only body that carries a plaintext key. -/
  | created (key : String) (record : KeyJson)
  | usage (response : ListResponse)
  | summary (response : SummaryResponse)
  | balance (balance : Balance)
  | names (models : List String)
  | providers (providers : List ProviderConfig)
  | secret (value : String)
  | pricing (rules : List PricingRecord)
  | models (models : List ModelJson)
  | balances (balances : List BalanceRow)
  | grant (grant : GrantRecord)
  | ledger (grants : List LedgerRow)
  deriving DecidableEq

structure Reply where
  status : Nat
  body : Body
  warning : Option String := none
  deriving DecidableEq

/-- `Json(body)`. -/
def json (body : Body) : Reply := ⟨200, body, none⟩

def rejected (rejection : Rejection) : Reply := ⟨rejection.status, .error rejection.message, none⟩

def unauthorized (message : String) : Rejection := ⟨401, message⟩

def userJson (user : UserModel) : UserJson :=
  ⟨user.id, user.username, user.role, user.status, user.createdAt⟩

def keyRecord (key : ApiKeyModel) : ApiKeyRecord where
  id := key.id
  userId := key.userId
  keyPrefix := key.keyPrefix
  name := key.name
  status := key.status
  createdAt := key.createdAt
  lastUsedAt := key.lastUsedAt
  allowedModels := key.allowedModels.bind parseAllowedModels
  spendCapUsd := key.spendCapUsd

def keyJson (record : ApiKeyRecord) (username : Option String) (spent : Option ℚ) : KeyJson :=
  ⟨record, spent, username⟩

/-! ## The account store -/

/-- What a store call that finds a row and updates it returns: an error, `false`, or `true` with the
table that it leaves. -/
inductive Mutation (T : Type)
  | failed
  | missing
  | done (table : T)

/-- `find_by_id` and `update`, the statements `n` and `n + 1` of the request; an update with a value
that the columns cannot hold fails. -/
def updateRow {R U : Type} {key : R → Uuid} {unique : R → U} (faults : Faults) (n : Nat)
    (t : Table key unique) (k : Uuid) (storable : Bool) (f : R → R)
    (hkey : ∀ row, key (f row) = key row) (hunique : ∀ row, unique (f row) = unique row) :
    Mutation (Table key unique) :=
  if faults.statement n then .failed
  else if (t.find k).isNone then .missing
  else if faults.statement (n + 1) ∨ ¬ storable then .failed
  else .done (t.update k f hkey hunique)

namespace Backend

def setUserStatus (w : Backend) (faults : Faults) (n : Nat) (id : Uuid) (status : UserStatus) :
    Mutation Users :=
  updateRow faults n w.users id true (fun user => { user with status := status }) (fun _ => rfl)
    fun _ => rfl

def setPasswordHash (w : Backend) (faults : Faults) (n : Nat) (id : Uuid) (passwordHash : String) :
    Mutation Users :=
  updateRow faults n w.users id true (fun user => { user with passwordHash := passwordHash })
    (fun _ => rfl) fun _ => rfl

def revokeKey (w : Backend) (faults : Faults) (n : Nat) (id : Uuid) : Mutation Keys :=
  updateRow faults n w.keys id true (fun key => { key with status := .revoked }) (fun _ => rfl)
    fun _ => rfl

def setKeyLimits (w : Backend) (faults : Faults) (n : Nat) (id : Uuid)
    (allowedModels : Option (List String)) (spendCapUsd : Option Decimal) : Mutation Keys :=
  updateRow faults n w.keys id
    ((storedAmount spendCapUsd).isSome ∧ (allowedModels.getD []).all isText)
    (fun key => { key with
      allowedModels := allowedModelsToJson allowedModels
      spendCapUsd := (storedAmount spendCapUsd).join })
    (fun _ => rfl) fun _ => rfl

/-- `ORDER BY created_at`. -/
def listUsers (w : Backend) : List UserModel :=
  w.users.rows.insertionSort fun a b => a.createdAt ≤ b.createdAt

/-- The keys of an owner, or all. -/
def listKeys (w : Backend) (owner : Option Uuid) : List ApiKeyModel :=
  (w.keys.select fun key => owner.all (key.userId = ·)).insertionSort
    fun a b => a.createdAt ≤ b.createdAt

/-- `INSERT INTO users`, after the lookup of the username. -/
def createUser (w : Backend) (faults : Faults) (user : UserModel) : Except Rejection Users :=
  let failed := Rejection.internal "failed to create user"
  let taken := Rejection.conflict s!"username '{user.username}' already exists"
  if faults.statement 0 ∨ ¬ isText user.username then .error failed
  else if w.users.rows.any (·.username = user.username) then .error taken
  else if faults.statement 1 then .error failed
  else
    match w.users.insert user with
    | some users => .ok users
    | none => .error taken

/-- `INSERT INTO api_keys`; the owner is a user. -/
def createKey (w : Backend) (fault : Bool) (key : ApiKeyModel) (names : List String) :
    Option Keys :=
  if fault ∨ (w.users.find key.userId).isNone ∨ ¬ isText key.name ∨ ¬ names.all isText then none
  else w.keys.insert key

/-- `active_key_map`, the statements `n` and `n + 1` of the request. -/
def activeKeyMap (w : Backend) (faults : Faults) (n : Nat) : Option ApiKeyMap :=
  if faults.statement n ∨ faults.statement (n + 1) then none
  else some (keyMap
    ((w.keys.select fun key => key.status = .active).map ApiKeyModel.toApiKeyRow)
    ((w.users.select fun user => user.status = .active).map fun user => user.row))

/-- `refresh_api_keys`; `none` when the key map cannot be read. -/
def refreshApiKeys (w : Backend) (faults : Faults) (n : Nat) : Option Backend :=
  (w.activeKeyMap faults n).map fun apiKeys => { w with console := { w.console with
    shared := { w.console.shared with state := w.console.shared.state.withApiKeys apiKeys } } }

/-- `refresh_and_respond`: a refresh that fails adds a warning to the body. -/
def refreshAndRespond (w : Backend) (faults : Faults) (n : Nat) (body : Body) : Reply × Backend :=
  match w.refreshApiKeys faults n with
  | some w => (json body, w)
  | none => ({ json body with warning := some keyWarning }, w)

/-! ## Credits -/

/-- `balance_parts`. -/
def balanceParts (w : Backend) (userId : Uuid) : Balance :=
  let granted := (w.console.shared.state.granted.lookup userId).getD 0
  let spent := w.counters.get (.user userId)
  ⟨granted, spent, granted - spent⟩

/-- `list_grants`, newest first. -/
def listGrants (w : Backend) (userId : Option Uuid) (limit : Nat) : List GrantRecord :=
  ((w.grants.filter fun grant => userId.all (grant.userId = ·)).insertionSort
    fun a b => b.createdAt ≤ a.createdAt).take limit

/-- `append_grant`; both users exist. -/
def appendGrant (w : Backend) (fault : Bool) (amount : Decimal)
    (grant : ℚ → GrantRecord) : Option GrantRecord :=
  match amount.toNumeric with
  | none => none
  | some amount =>
    let grant := grant amount.toRat
    if fault ∨ (w.users.find grant.userId).isNone ∨ (w.users.find grant.grantedBy).isNone ∨
        ¬ grant.note.all isText then none
    else some grant

/-- `refresh_granted`. -/
def refreshGranted (w : Backend) (fault : Bool) : Option Backend :=
  if fault then none
  else some { w with console := { w.console with
    shared := { w.console.shared with
      state := w.console.shared.state.withGranted
        (grantSums (w.grants.map GrantRecord.toGrantRow)) } } }

end Backend

end AdminApi

end LiteAgentify
