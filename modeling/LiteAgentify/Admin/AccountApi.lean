import LiteAgentify.Admin
import LiteAgentify.Lib.Run

/-!
# Account and credit mutations

`src/admin/account_api.rs`, `src/admin/credits_api.rs` and the refreshes of `src/admin/mod.rs`: the
handlers that change who may call the gateway and how much credit they have. A handler runs as a
sequence of steps, one for each database statement and one for the publication of what it read; any
statement may fail. Handlers running at the same time interleave their steps.
-/

set_option autoImplicit false

namespace LiteAgentify

/-! ## Request bodies -/

structure CreateKeyRequest where
  name : String
  allowedModels : Option (List String) := none
  spendCapUsd : Option String := none

structure UpdateKeyRequest where
  allowedModels : Option (List String) := none
  spendCapUsd : Option String := none

structure GrantBody where
  userId : Uuid
  amountUsd : String

/-- Parses an optional decimal spend cap; an empty string means uncapped. -/
def parseSpendCap (P : Packages) (value : Option String) : Except Rejection (Option Decimal) :=
  match (value.map Text.trim).filter (· ≠ "") with
  | none => .ok none
  | some text =>
    match P.decimalFromStr text with
    | none => .error (.badRequest "spend_cap_usd must be a decimal number")
    | some cap =>
      if cap.toRat ≤ 0 then .error (.badRequest "spend_cap_usd must be positive")
      else .ok (some cap)

/-- One iteration of `normalize_allowed_models`'s loop. -/
def normalizeName (normalized : List String) (name : String) : Except Rejection (List String) :=
  let name := Text.trim name
  if name = "" then .error (.badRequest "allowed_models cannot contain empty names")
  else if name ∈ normalized then .ok normalized
  else .ok (normalized ++ [name])

/-- Trims, deduplicates and bounds an allowed-models list. -/
def normalizeAllowedModels (allowedModels : Option (List String)) :
    Except Rejection (Option (List String)) :=
  match allowedModels with
  | none => .ok none
  | some names =>
    match names.foldlM normalizeName [] with
    | .error rejection => .error rejection
    | .ok normalized =>
      if normalized.isEmpty then
        .error (.badRequest
          "allowed_models cannot be an empty list; send null to allow every model")
      else if normalized.length > 200 then
        .error (.badRequest "allowed_models cannot exceed 200 entries")
      else .ok (some normalized)

/-- A limit as the `numeric` column stores it. -/
def storedAmount (amount : Option Decimal) : Option (Option ℚ) :=
  match amount with
  | none => some none
  | some amount => amount.toNumeric.map fun amount => some amount.toRat

/-! ## Handlers -/

/-- A request to one of the handlers, with the random values its handler draws. -/
inductive AccountRequest
  | createKey (identity : SessionIdentity) (body : CreateKeyRequest) (id : Uuid) (keyHash : String)
  | updateKey (identity : SessionIdentity) (id : Uuid) (body : UpdateKeyRequest)
  | revokeKey (identity : SessionIdentity) (id : Uuid)
  | disableUser (identity : SessionIdentity) (id : Uuid)
  | enableUser (identity : SessionIdentity) (id : Uuid)
  | createGrant (identity : SessionIdentity) (body : GrantBody)

/-- How far a handler has come, with what it holds. -/
inductive Place
  | start
  /-- `update_key` and `revoke_key` have loaded the key and checked its owner. -/
  | loaded
  /-- The row to update, or the user to grant to, was found. -/
  | found
  /-- The write is done. -/
  | written
  /-- `active_key_map` has read the active keys. -/
  | readKeys (keys : List ApiKeyRow)
  /-- `active_key_map` has returned. -/
  | refreshed (apiKeys : ApiKeyMap)
  /-- `grant_sums` has returned. -/
  | summed (granted : HashMap Uuid ℚ)
  | returned (response : Response)

def keyWarning : String :=
  "saved, but applying the change to the gateway failed; it will apply on next restart"

def grantWarning : String :=
  "saved, but applying the balance to the gateway failed; it will apply on next restart"

/-- `get_key` and the checks that `update_key` and `revoke_key` make on what it returns. -/
def loadKey (db : Database) (fault : Bool) (identity : SessionIdentity) (id : Uuid)
    (next : ApiKeyRow → Place) : Place :=
  if fault then .returned (.error (.internal "failed to load key"))
  else
    match db.findKey id with
    | none => .returned (.error (.notFound "key not found"))
    | some key =>
      if identity.role ≠ .admin ∧ key.userId ≠ identity.userId then
        .returned (.error (.notFound "key not found"))
      else next key

/-- The `find_by_id` a store mutation begins with. -/
def findRow {R : Type} (row : Option R) (fault : Bool) (failed missing : String) : Place :=
  if fault then .returned (.error (.internal failed))
  else if row.isSome then .found else .returned (.error (.notFound missing))

/-- A statement that writes. -/
def writeRow (db : Database) (written : Option Database) (fault : Bool) (failed : String) :
    Database × Place :=
  match fault, written with
  | false, some db' => (db', .written)
  | _, _ => (db, .returned (.error (.internal failed)))

/-- `create_key`'s validation. -/
def validateKey (P : Packages) (body : CreateKeyRequest) :
    Except Rejection (Option (List String) × Option Decimal) :=
  let name := Text.trim body.name
  if name = "" ∨ name.utf8ByteSize > 100 then
    .error (.badRequest "key name must be 1-100 characters")
  else do
    let allowedModels ← normalizeAllowedModels body.allowedModels
    let spendCap ← parseSpendCap P body.spendCapUsd
    return (allowedModels, spendCap)

/-- `update_key`'s validation. -/
def validateLimits (P : Packages) (body : UpdateKeyRequest) :
    Except Rejection (Option (List String) × Option Decimal) := do
  let allowedModels ← normalizeAllowedModels body.allowedModels
  let spendCap ← parseSpendCap P body.spendCapUsd
  return (allowedModels, spendCap)

/-- `create_grant`'s validation. -/
def validateGrant (P : Packages) (body : GrantBody) : Except Rejection Decimal :=
  match P.decimalFromStr (Text.trim body.amountUsd) with
  | none => .error (.badRequest "amount_usd must be a decimal number")
  | some amount =>
    if amount.toRat = 0 then .error (.badRequest "amount_usd cannot be zero") else .ok amount

/-- The row a validated grant appends, when the `numeric` column can hold the amount. -/
def grantRow (P : Packages) (body : GrantBody) : Option GrantRow :=
  match validateGrant P body with
  | .ok amount => amount.toNumeric.map fun amount =>
      { userId := body.userId, amountUsd := amount.toRat }
  | .error _ => none

namespace AccountRequest

/-- The handlers that refresh the key map; `create_grant` refreshes the grants. -/
def refreshesKeys : AccountRequest → Bool
  | createGrant _ _ => false
  | _ => true

/-- The statements up to and including the handler's write. -/
def writeStep (P : Packages) (db : Database) (fault : Bool) :
    AccountRequest → Place → Option (Database × Place)
  | createKey identity body id keyHash, .start =>
    match validateKey P body with
    | .error rejection => some (db, .returned (.error rejection))
    | .ok (allowedModels, spendCap) =>
      some (writeRow db ((storedAmount spendCap).bind fun spendCap => db.insertKey
        { id := id
          userId := identity.userId
          keyHash := keyHash
          status := .active
          allowedModels := allowedModelsToJson allowedModels
          spendCapUsd := spendCap }) fault "failed to create key")
  | updateKey identity id body, .start =>
    some (db, loadKey db fault identity id fun _ =>
      match validateLimits P body with
      | .error rejection => .returned (.error rejection)
      | .ok _ => .loaded)
  | updateKey _ id _, .loaded =>
    some (db, findRow (db.findKey id) fault "failed to update key" "key not found")
  | updateKey _ id body, .found =>
    match validateLimits P body with
    | .error rejection => some (db, .returned (.error rejection))
    | .ok (allowedModels, spendCap) =>
      some (writeRow db ((storedAmount spendCap).map (db.setKeyLimits id allowedModels)) fault
        "failed to update key")
  | revokeKey identity id, .start =>
    some (db, loadKey db fault identity id fun key =>
      if key.status = .revoked then .returned (.ok 200 none) else .loaded)
  | revokeKey _ id, .loaded =>
    some (db, findRow (db.findKey id) fault "failed to revoke key" "key not found")
  | revokeKey _ id, .found =>
    some (writeRow db (some (db.setKeyStatus id .revoked)) fault "failed to revoke key")
  | disableUser identity id, .start =>
    match requireAdmin identity with
    | .error rejection => some (db, .returned (.error rejection))
    | .ok () =>
      if id = identity.userId then
        some (db, .returned (.error (.badRequest "cannot disable your own account")))
      else some (db, findRow (db.findUser id) fault "failed to disable user" "user not found")
  | disableUser _ id, .found =>
    some (writeRow db (some (db.setUserStatus id .disabled)) fault "failed to disable user")
  | enableUser identity id, .start =>
    match requireAdmin identity with
    | .error rejection => some (db, .returned (.error rejection))
    | .ok () => some (db, findRow (db.findUser id) fault "failed to enable user" "user not found")
  | enableUser _ id, .found =>
    some (writeRow db (some (db.setUserStatus id .active)) fault "failed to enable user")
  | createGrant identity body, .start =>
    match requireAdmin identity with
    | .error rejection => some (db, .returned (.error rejection))
    | .ok () =>
      match validateGrant P body with
      | .error rejection => some (db, .returned (.error rejection))
      | .ok _ => some (db, findRow (db.findUser body.userId) fault "failed to load user"
          "user not found")
  | createGrant identity body, .found =>
    some (writeRow db ((grantRow P body).bind fun grant => db.insertGrant grant identity.userId)
      fault "failed to append grant")
  | _, _ => none

/-- The refresh after the write: what is read from the database, then published to the snapshot. -/
def refreshStep (request : AccountRequest) (db : Database) (snapshot : GatewayState)
    (fault : Bool) : Place → Option (GatewayState × Place)
  | .written =>
    match request.refreshesKeys, fault with
    | true, false => some (snapshot, .readKeys db.activeKeys)
    | true, true => some (snapshot, .returned (.ok 200 (some keyWarning)))
    | false, false => some (snapshot, .summed (grantSums db.grants))
    | false, true => some (snapshot, .returned (.ok 201 (some grantWarning)))
  | .readKeys keys =>
    if fault then some (snapshot, .returned (.ok 200 (some keyWarning)))
    else some (snapshot, .refreshed (keyMap keys db.activeUsers))
  | .refreshed apiKeys => some (snapshot.withApiKeys apiKeys, .returned (.ok 200 none))
  | .summed granted => some (snapshot.withGranted granted, .returned (.ok 201 none))
  | _ => none

end AccountRequest

/-! ## Handlers running together -/

/-- The database, the serving snapshot and the places of the handlers. -/
structure Console (ι : Type) where
  db : Database
  snapshot : GatewayState
  place : ι → Place

variable {ι : Type} [DecidableEq ι]

namespace Console

/-- One step of a handler; the label says whether its statement fails. -/
def step (P : Packages) (requests : ι → AccountRequest) (s : Console ι) (l : ι × Bool) :
    Option (Console ι) :=
  match (requests l.1).writeStep P s.db l.2 (s.place l.1) with
  | some (db, place) => some { s with db := db, place := Function.update s.place l.1 place }
  | none =>
    ((requests l.1).refreshStep s.db s.snapshot l.2 (s.place l.1)).map fun (snapshot, place) =>
      { s with snapshot := snapshot, place := Function.update s.place l.1 place }

/-- The gateway has started: the snapshot holds what the database says, no handler has run. -/
def init (db : Database) (snapshot : GatewayState) : Console ι where
  db := db
  snapshot := (snapshot.withApiKeys (activeKeyMap db)).withGranted (grantSums db.grants)
  place := fun _ => .start

end Console

end LiteAgentify
