import LiteAgentify.Account.Users
import LiteAgentify.Admin.Routes

/-!
# Account seeding at startup

`bootstrap_accounts` of `src/account/bootstrap.rs`, on both account tables: an empty `users` table
gets the bootstrap admin, an empty `api_keys` table the `gateway_keys` of the file. Both happen in
one transaction, so that an error leaves the tables as they were.
-/

set_option autoImplicit false

namespace LiteAgentify

namespace AdminApi

/-- The statements of the transaction. -/
inductive SeedStatement
  | begin
  | countUsers
  | insertUser
  | countKeys
  | findAdmin
  | insertKey (index : Nat)
  | commit
  deriving DecidableEq

/-- What a boot draws for the accounts, and which statements fail. -/
structure Seeding where
  userId : Uuid
  userNow : DateTime
  keyId : Nat → Uuid
  keyNow : Nat → DateTime
  /-- `hash_password` of a password that is still in plaintext. -/
  hashed : Except String String
  /-- Which of the admins `one` returns. -/
  one : Nat
  fails : SeedStatement → Bool

/-- A statement, which may fail or be rejected; `context` is what its error says. -/
def Seeding.attempt {T : Type} (seeding : Seeding) (statement : SeedStatement) (context : String)
    (result : Option T) : Except String T :=
  if seeding.fails statement then .error context
  else
    match result with
    | some value => .ok value
    | none => .error context

section
variable (P : Packages) (config : GatewayConfig) (seeding : Seeding)

/-- The first step: the id of the bootstrap admin, when this boot creates it, and the users. -/
def seedAdmin (users : Users) : Except String (Option Uuid × Users) :=
  if users.rows.length = 0 then
    match config.adminPassword with
    | none => .error "no users exist and no admin_password is configured: set admin_password in the config file to seed the bootstrap admin account"
    | some password => do
      let hashed := if isPhcHash password then .ok password else seeding.hashed
      let passwordHash ← hashed
      let user : UserModel :=
        { id := seeding.userId
          username := "admin"
          passwordHash := passwordHash
          role := .admin
          status := .active
          createdAt := seeding.userNow }
      let users ← seeding.attempt .insertUser "failed to create bootstrap admin user"
        (if isText passwordHash then users.insert user else none)
      return (some seeding.userId, users)
  else .ok (none, users)

/-- The row of an entry of `gateway_keys` with its index. -/
def importedKey (owner : Uuid) (entry : String × Nat) : ApiKeyModel where
  id := seeding.keyId entry.2
  userId := owner
  keyHash := hashApiKeyHex P entry.1
  keyPrefix := keyPrefix entry.1
  name := s!"imported-{entry.2 + 1}"
  status := .active
  createdAt := seeding.keyNow entry.2
  lastUsedAt := none
  allowedModels := none
  spendCapUsd := none

def importKey (owner : Uuid) (keys : Keys) (entry : String × Nat) : Except String Keys :=
  seeding.attempt (.insertKey entry.2) "failed to import legacy gateway key"
    (if isText (keyPrefix entry.1) then keys.insert (importedKey P seeding owner entry) else none)

/-- The owner of the imported keys: the admin just created, or one that the table has. -/
def keyOwner (admin : Option Uuid) (users : Users) : Except String Uuid :=
  match admin with
  | some id => .ok id
  | none => do
    let found ← seeding.attempt .findAdmin "failed to find an admin user for key import"
      (some ((users.select (·.role = .admin)).rotate seeding.one).head?)
    match found with
    | some user => .ok user.id
    | none => .error "cannot import gateway_keys: no admin user exists"

/-- The second step. -/
def importKeys (admin : Option Uuid) (users : Users) (keys : Keys) : Except String Keys :=
  if keys.rows.length = 0 ∧ ¬ config.gatewayKeys.isEmpty then do
    let owner ← keyOwner seeding admin users
    config.gatewayKeys.zipIdx.foldlM (importKey P seeding owner) keys
  else .ok keys

def bootstrapAccounts (users : Users) (keys : Keys) : Except String (Users × Keys) := do
  seeding.attempt .begin "failed to begin bootstrap" (some ())
  seeding.attempt .countUsers "failed to count users" (some ())
  let (admin, users) ← seedAdmin config seeding users
  seeding.attempt .countKeys "failed to count api keys" (some ())
  let keys ← importKeys P config seeding admin users keys
  seeding.attempt .commit "failed to commit bootstrap" (some ())
  return (users, keys)

end

end AdminApi

end LiteAgentify
