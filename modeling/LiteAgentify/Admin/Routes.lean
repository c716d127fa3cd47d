import LiteAgentify.Admin.Backend

/-!
# The handlers of the management API and their routes

Every handler behind `require_session`, from the request its extractors deliver to the reply with
its body: `src/admin/account_api.rs`, `src/admin/usage_api.rs`, `src/admin/credits_api.rs`, the
reading handlers of `src/admin/models_api.rs` and `src/admin/catalog_api.rs`, and the table of
routes in `src/admin/mod.rs` (`ApiRequest.handle`). A handler runs to its end before the next.
-/

set_option autoImplicit false

namespace LiteAgentify

namespace AdminApi

open UsageQuery

variable (X : Externals) (w : Backend) (c : Context)

/-- The end of a request that is rejected. -/
def reject (rejection : Rejection) : Reply × Backend := (rejected rejection, w)

/-- The rest of a handler that begins with `require_admin`. -/
def adminOnly (handler : Reply × Backend) : Reply × Backend :=
  match requireAdmin c.identity with
  | .error rejection => reject w rejection
  | .ok () => handler

/-- What is left of a handler whose reply needs rows that a statement may fail to read. -/
def reading (fault : Bool) (message : String) (body : Body) : Reply × Backend :=
  if fault then reject w (.internal message) else (json body, w)

/-! ## Accounts -/

def me : Reply × Backend := (json (.identity c.identity), w)

def changeOwnPassword (currentPassword newPassword : String) : Reply × Backend :=
  match validatePassword newPassword with
  | .error rejection => reject w rejection
  | .ok () =>
    if c.faults.statement 0 then reject w (.internal "failed to load user")
    else
      match w.users.find c.identity.userId with
      | none => reject w (unauthorized "session user no longer exists")
      | some user =>
        if ¬ verifyPassword X.argon2 user.passwordHash currentPassword then
          reject w (unauthorized "current password is incorrect")
        else
          match c.hashed with
          | none => reject w (.internal "failed to hash password")
          | some hash =>
            match w.setPasswordHash c.faults 1 c.identity.userId hash with
            | .done users => (json .ok, { w with users := users })
            | .missing => reject w (unauthorized "session user no longer exists")
            | .failed => reject w (.internal "failed to update password")

def listUsers : Reply × Backend :=
  adminOnly w c (reading w (c.faults.statement 0) "failed to list users"
    (.users (w.listUsers.map userJson)))

def createUser (username password role : String) : Reply × Backend :=
  adminOnly w c <|
    match validateUser username password role c.hashed with
    | .error rejection => reject w rejection
    | .ok (username, role, hash) =>
      let user : UserModel :=
        { id := c.draws.id
          username := username
          passwordHash := hash
          role := role
          status := .active
          createdAt := c.draws.now }
      match w.createUser c.faults user with
      | .error rejection => reject w rejection
      | .ok users => (⟨201, .user (userJson user), none⟩, { w with users := users })

def disableUser (id : Uuid) : Reply × Backend :=
  adminOnly w c <|
    if id = c.identity.userId then reject w (.badRequest "cannot disable your own account")
    else
      match w.setUserStatus c.faults 0 id .disabled with
      | .done users => { w with users := users }.refreshAndRespond c.faults 2 .ok
      | .missing => reject w (.notFound "user not found")
      | .failed => reject w (.internal "failed to disable user")

def enableUser (id : Uuid) : Reply × Backend :=
  adminOnly w c <|
    match w.setUserStatus c.faults 0 id .active with
    | .done users => { w with users := users }.refreshAndRespond c.faults 2 .ok
    | .missing => reject w (.notFound "user not found")
    | .failed => reject w (.internal "failed to enable user")

def resetPassword (id : Uuid) (password : String) : Reply × Backend :=
  adminOnly w c <|
    match validateNewPassword password c.hashed with
    | .error rejection => reject w rejection
    | .ok hash =>
      match w.setPasswordHash c.faults 0 id hash with
      | .done users => (json .ok, { w with users := users })
      | .missing => reject w (.notFound "user not found")
      | .failed => reject w (.internal "failed to reset password")

/-! ## Keys -/

def listKeys : Reply × Backend :=
  let owner := if c.identity.role = .admin then none else some c.identity.userId
  if c.faults.statement 0 then reject w (.internal "failed to list keys")
  else if c.identity.role = .admin ∧ c.faults.statement 1 then
    reject w (.internal "failed to list users")
  else
    -- only admins see whose key it is
    let username (key : ApiKeyModel) : Option String :=
      if c.identity.role = .admin then (w.users.find key.userId).map fun user => user.username
      else none
    (json (.keys ((w.listKeys owner).map fun key =>
      keyJson (keyRecord key) (username key) (some (w.counters.get (.key key.id))))), w)

/-- A byte in lower-case hex. -/
def hexByte (byte : UInt8) : List Char :=
  [Nat.digitChar (byte.toNat / 16), Nat.digitChar (byte.toNat % 16)]

def hashApiKeyHex (P : Packages) (key : String) : String :=
  String.ofList ((hashApiKey P key).toList.flatMap hexByte)

/-- The first `PREFIX_LEN` characters. -/
def keyPrefix (key : String) : String := String.ofList (key.toList.take 8)

/-- The row that `create_key` inserts. -/
def newKey (P : Packages) (name : String) (allowedModels : Option (List String))
    (spendCapUsd : Option ℚ) : ApiKeyModel where
  id := c.draws.id
  userId := c.identity.userId
  keyHash := hashApiKeyHex P c.draws.apiKey
  keyPrefix := keyPrefix c.draws.apiKey
  name := name
  status := .active
  createdAt := c.draws.now
  lastUsedAt := none
  allowedModels := allowedModelsToJson allowedModels
  spendCapUsd := spendCapUsd

def createKey (body : CreateKeyRequest) : Reply × Backend :=
  match validateKey X.toPackages body with
  | .error rejection => reject w rejection
  | .ok (allowedModels, spendCap) =>
    let created := (storedAmount spendCap).bind fun spendCap =>
      let key := newKey c X.toPackages (Text.trim body.name) allowedModels spendCap
      (w.createKey (c.faults.statement 0) key (allowedModels.getD [])).map fun keys => (key, keys)
    match created with
    | none => reject w (.internal "failed to create key")
    | some (key, keys) => { w with keys := keys }.refreshAndRespond c.faults 1
        (.created c.draws.apiKey (keyJson (keyRecord key) none none))

/-- `get_key`, and the owner check of `update_key` and `revoke_key`: a key of someone else's is
answered like one that does not exist. -/
def ownKey (id : Uuid) : Except Rejection ApiKeyModel :=
  if c.faults.statement 0 then .error (.internal "failed to load key")
  else
    match w.keys.find id with
    | none => .error (.notFound "key not found")
    | some key =>
      if c.identity.role ≠ .admin ∧ key.userId ≠ c.identity.userId then
        .error (.notFound "key not found")
      else .ok key

def updateKey (id : Uuid) (body : UpdateKeyRequest) : Reply × Backend :=
  match ownKey w c id with
  | .error rejection => reject w rejection
  | .ok _ =>
    match validateLimits X.toPackages body with
    | .error rejection => reject w rejection
    | .ok (allowedModels, spendCap) =>
      match w.setKeyLimits c.faults 1 id allowedModels spendCap with
      | .done keys => { w with keys := keys }.refreshAndRespond c.faults 3 .ok
      | .missing => reject w (.notFound "key not found")
      | .failed => reject w (.internal "failed to update key")

def revokeKey (id : Uuid) : Reply × Backend :=
  match ownKey w c id with
  | .error rejection => reject w rejection
  | .ok key =>
    if key.status = .revoked then (json .ok, w)
    else
      match w.revokeKey c.faults 1 id with
      | .done keys => { w with keys := keys }.refreshAndRespond c.faults 3 .ok
      | .missing => reject w (.notFound "key not found")
      | .failed => reject w (.internal "failed to revoke key")

/-! ## Usage -/

structure ListQuery where
  since : Option String
  till : Option String
  provider : Option String
  model : Option String
  status : Option String
  user : Option Uuid
  apiKey : Option Uuid
  page : Option Nat
  pageSize : Option Nat

structure SummaryQuery where
  since : Option String
  till : Option String
  bucket : Option String
  user : Option Uuid

def parseTime (value : Option String) (field : String) : Except Rejection (Option DateTime) :=
  match value with
  | none => .ok none
  | some value =>
    match X.parseRfc3339 value with
    | .ok t => .ok (some t)
    | .error error => .error (.badRequest s!"invalid {field} timestamp '{value}': {error}")

/-- `u16::from_str`. -/
def parseU16 (s : String) : Option Nat := (Text.parseU64 s).filter (· < 2 ^ 16)

def parseStatus (value : Option String) : Except Rejection (Option StatusFilter) :=
  match value with
  | none => .ok none
  | some code =>
    if code = "4xx" then .ok (some .clientError)
    else if code = "5xx" then .ok (some .serverError)
    else
      match parseU16 code with
      | some code => .ok (some (.exact code))
      | none => .error (.badRequest
          s!"invalid status filter '{code}': expected a status code, 4xx, or 5xx")

def parseBucket (value : Option String) : Except Rejection SummaryBucket :=
  match value with
  | none => .ok .day
  | some bucket =>
    if bucket = "day" then .ok .day
    else if bucket = "hour" then .ok .hour
    else .error (.badRequest s!"invalid bucket '{bucket}': expected hour or day")

/-- The user whose rows are asked for: an admin's filter, or the session's own user. -/
def scopedUser (user : Option Uuid) : Option Uuid :=
  match c.identity.role with
  | .admin => user
  | .user => some c.identity.userId

/-- The parameters of a list. -/
def listParams (query : ListQuery) : Except Rejection UsageListParams := do
  let since ← parseTime X query.since "from"
  let till ← parseTime X query.till "to"
  let status ← parseStatus query.status
  return {
    since := since
    till := till
    provider := query.provider
    model := query.model
    status := status
    userId := scopedUser c query.user
    apiKeyId := query.apiKey
    page := max (query.page.getD 1) 1
    pageSize := max 1 (min (query.pageSize.getD 50) 200) }

def queryFailed (error : String) : Rejection := .internal s!"usage query failed: {error}"

def listUsage (query : ListQuery) : Reply × Backend :=
  (match listParams X c query with
    | .error rejection => rejected rejection
    | .ok params =>
      match w.usage with
      | none => json (.usage ⟨false, [], 0, params.page, params.pageSize⟩)
      | some table =>
        match list params c.faults.statement table with
        | .error error => rejected (queryFailed error)
        | .ok page => json (.usage ⟨true, page.rows, page.total, params.page, params.pageSize⟩), w)

def summaryParams (query : SummaryQuery) : Except Rejection UsageSummaryParams := do
  let since ← parseTime X query.since "from"
  let till ← parseTime X query.till "to"
  let bucket ← parseBucket query.bucket
  return { since := since, till := till, bucket := bucket, userId := scopedUser c query.user }

def usageSummary (query : SummaryQuery) : Reply × Backend :=
  (match summaryParams X c query with
    | .error rejection => rejected rejection
    | .ok params =>
      match w.usage with
      | none => json (.summary ⟨false, {}⟩)
      | some table =>
        match summary X.dateTrunc params c.faults.statement table with
        | .error error => rejected (queryFailed error)
        | .ok summary => json (.summary ⟨true, summary⟩), w)

/-! ## Credits -/

def myBalance : Reply × Backend := (json (.balance (w.balanceParts c.identity.userId)), w)

def listBalances : Reply × Backend :=
  adminOnly w c (reading w (c.faults.statement 0) "failed to list users"
    (.balances (w.listUsers.map fun user =>
      ⟨user.id, user.username, user.status, w.balanceParts user.id⟩)))

def createGrant (body : GrantBody) (note : Option String) : Reply × Backend :=
  adminOnly w c <|
    match validateGrant X.toPackages body with
    | .error rejection => reject w rejection
    | .ok amount =>
      if c.faults.statement 0 then reject w (.internal "failed to load user")
      else if (w.users.find body.userId).isNone then reject w (.notFound "user not found")
      else
        let row (amountUsd : ℚ) : GrantRecord :=
          { id := c.draws.id
            userId := body.userId
            amountUsd := amountUsd
            note := (note.map Text.trim).filter (· ≠ "")
            grantedBy := c.identity.userId
            createdAt := c.draws.now }
        match w.appendGrant (c.faults.statement 1) amount row with
        | none => reject w (.internal "failed to append grant")
        | some grant =>
          let w := { w with grants := w.grants ++ [grant] }
          match w.refreshGranted (c.faults.statement 2) with
          | some w => (⟨201, .grant grant, none⟩, w)
          | none => (⟨201, .grant grant, some grantWarning⟩, w)

def listLedger (userId : Option Uuid) (limit : Option Nat) : Reply × Backend :=
  adminOnly w c <|
    if c.faults.statement 0 then reject w (.internal "failed to list grants")
    else
      let username (id : Uuid) : Option String := (w.users.find id).map fun user => user.username
      reading w (c.faults.statement 1) "failed to list users"
        (.ledger ((w.listGrants userId (min (limit.getD 100) 1000)).map fun grant =>
          { id := grant.id
            userId := grant.userId
            username := username grant.userId
            amountUsd := grant.amountUsd
            note := grant.note
            grantedBy := username grant.grantedBy
            createdAt := grant.createdAt }))

/-! ## The catalog -/

def modelJson (pricing : List PricingConfig) (model : ModelConfig) : ModelJson where
  model := model
  uncovered := (uncoveredDeployments model pricing).map fun deployment =>
    s!"{deployment.providerId}:{deployment.upstreamModel}"

def listModels : Reply × Backend :=
  let db := w.console.db
  adminOnly w c (reading w (c.faults.statement 0 || c.faults.statement 1) "failed to list models"
    (.models (db.listModels.map (modelJson (db.listPricing.map PricingRecord.config)))))

/-- The names of the enabled models, as the catalog lists them. -/
def enabledNames (db : CatalogDb) : List String :=
  (db.listModels.filter fun model => model.enabled).map fun model => model.name

def listModelNames : Reply × Backend :=
  reading w (c.faults.statement 0) "failed to list models" (.names (enabledNames w.console.db))

/-- Keeps the last four characters of a secret of at least eight. -/
def maskKeepingSuffix (secret : String) : String :=
  let chars := secret.toList.length
  if chars ≥ 8 then Admin.maskPrefix ++ String.ofList (secret.toList.drop (chars - 4))
  else Admin.maskPrefix

def providerJson (provider : ProviderConfig) : ProviderConfig :=
  { provider with apiKey := maskKeepingSuffix provider.apiKey }

def listProviders : Reply × Backend :=
  adminOnly w c (reading w (c.faults.statement 0) "failed to list providers"
    (.providers (w.console.db.listProviders.map providerJson)))

def revealProviderKey (id : String) : Reply × Backend :=
  adminOnly w c <|
    if c.faults.statement 0 then reject w (.internal "failed to load provider")
    else
      match w.console.db.getProvider id with
      | none => reject w (.notFound "provider not found")
      | some provider => (json (.secret provider.apiKey), w)

def listPricing : Reply × Backend :=
  adminOnly w c (reading w (c.faults.statement 0) "failed to list pricing"
    (.pricing w.console.db.listPricing))

/-- The handlers that write the catalog. -/
def writeCatalog (request : CatalogRequest) : Reply × Backend :=
  let (console, response) := w.console.handle X.toPackages c.file ⟨c.identity, request⟩
  (match response with
    | .ok status warning => ⟨status, .ok, warning⟩
    | .error rejection => rejected rejection, { w with console := console })

/-! ## Routes -/

/-- A request behind `require_session`. -/
inductive ApiRequest
  | listUsage (query : ListQuery)
  | usageSummary (query : SummaryQuery)
  | me
  | changeOwnPassword (currentPassword newPassword : String)
  | listUsers
  | createUser (username password role : String)
  | disableUser (id : Uuid)
  | enableUser (id : Uuid)
  | resetPassword (id : Uuid) (password : String)
  | listKeys
  | createKey (body : CreateKeyRequest)
  | updateKey (id : Uuid) (body : UpdateKeyRequest)
  | revokeKey (id : Uuid)
  | listProviders
  | revealProviderKey (id : String)
  | listPricing
  | listModels
  | listModelNames
  /-- The nine requests that write providers, pricing rules and models. -/
  | writeCatalog (request : CatalogRequest)
  | listBalances
  | createGrant (body : GrantBody) (note : Option String)
  | listLedger (userId : Option Uuid) (limit : Option Nat)
  | myBalance
  | logout

/-- The handler that the route of a request names. -/
def ApiRequest.handle : ApiRequest → Reply × Backend
  | listUsage query => AdminApi.listUsage X w c query
  | usageSummary query => AdminApi.usageSummary X w c query
  | me => AdminApi.me w c
  | changeOwnPassword currentPassword newPassword =>
    AdminApi.changeOwnPassword X w c currentPassword newPassword
  | listUsers => AdminApi.listUsers w c
  | createUser username password role => AdminApi.createUser w c username password role
  | disableUser id => AdminApi.disableUser w c id
  | enableUser id => AdminApi.enableUser w c id
  | resetPassword id password => AdminApi.resetPassword w c id password
  | listKeys => AdminApi.listKeys w c
  | createKey body => AdminApi.createKey X w c body
  | updateKey id body => AdminApi.updateKey X w c id body
  | revokeKey id => AdminApi.revokeKey w c id
  | listProviders => AdminApi.listProviders w c
  | revealProviderKey id => AdminApi.revealProviderKey w c id
  | listPricing => AdminApi.listPricing w c
  | listModels => AdminApi.listModels w c
  | listModelNames => AdminApi.listModelNames w c
  | writeCatalog request => AdminApi.writeCatalog X w c request
  | listBalances => AdminApi.listBalances w c
  | createGrant body note => AdminApi.createGrant X w c body note
  | listLedger userId limit => AdminApi.listLedger w c userId limit
  | myBalance => AdminApi.myBalance w c
  -- the session and its cookie are no part of the backend
  | logout => (json .ok, w)

/-- A request, with what its handler runs with. -/
structure ApiCall where
  context : Context
  request : ApiRequest

def serve (X : Externals) (w : Backend) (call : ApiCall) : Reply × Backend :=
  call.request.handle X w call.context

end AdminApi

end LiteAgentify
