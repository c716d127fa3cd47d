import LiteAgentify.Account
import LiteAgentify.State

/-!
# The management API: sessions, responses and the account database

`src/admin/mod.rs` as far as every handler shares it, and the account side of the database: the
`users`, `api_keys` and `credit_grants` tables with the statements that read and write them. A row
echoed in a response body is left out of the response.
-/

set_option autoImplicit false

namespace LiteAgentify

structure SessionIdentity where
  userId : Uuid
  username : String
  role : Role
  deriving DecidableEq

/-- An error response. -/
structure Rejection where
  status : Nat
  message : String
  deriving DecidableEq

namespace Rejection

def badRequest (message : String) : Rejection := ⟨400, message⟩
def notFound (message : String) : Rejection := ⟨404, message⟩
def conflict (message : String) : Rejection := ⟨409, message⟩
def internal (message : String) : Rejection := ⟨500, message⟩

end Rejection

/-- A handler's response. A successful one may carry a warning that the snapshot refresh failed. -/
inductive Response
  | ok (status : Nat) (warning : Option String)
  | error (rejection : Rejection)
  deriving DecidableEq

namespace Response

def isSuccess : Response → Bool
  | ok _ _ => true
  | error _ => false

/-- The request succeeded and the snapshot was refreshed. -/
def isAcknowledged : Response → Bool
  | ok _ none => true
  | _ => false

/-- The request succeeded and the snapshot was not refreshed. -/
def isWarned : Response → Bool
  | ok _ (some _) => true
  | _ => false

end Response

def requireAdmin (identity : SessionIdentity) : Except Rejection Unit :=
  if identity.role = .admin then .ok () else .error ⟨403, "admin role required"⟩

/-! ## The account database -/

/-- The account tables. The primary keys are part of the type. -/
structure Database where
  users : List UserRow
  keys : List ApiKeyRow
  grants : List GrantRow
  userIds : (users.map UserRow.id).Nodup
  keyIds : (keys.map ApiKeyRow.id).Nodup

namespace Database

def findUser (db : Database) (id : Uuid) : Option UserRow := db.users.find? (·.id = id)

def findKey (db : Database) (id : Uuid) : Option ApiKeyRow := db.keys.find? (·.id = id)

def activeKeys (db : Database) : List ApiKeyRow := db.keys.filter (·.status = .active)

def activeUsers (db : Database) : List UserRow := db.users.filter (·.status = .active)

/-- `INSERT INTO api_keys`: the constraints are the primary key, the unique hash and the owner. -/
def insertKey (db : Database) (key : ApiKeyRow) : Option Database :=
  if h : key.id ∉ db.keys.map ApiKeyRow.id ∧ key.keyHash ∉ db.keys.map ApiKeyRow.keyHash ∧
      key.userId ∈ db.users.map UserRow.id then
    some { db with
      keys := db.keys ++ [key]
      keyIds := by
        rw [List.map_append, List.nodup_append]
        refine ⟨db.keyIds, List.nodup_singleton _, fun a ha b hb => ?_⟩
        rw [List.map_singleton, List.mem_singleton] at hb
        rintro rfl
        exact h.1 (hb ▸ ha) }
  else none

/-- An `UPDATE` of the keys that leaves the ids alone. -/
def mapKeys (db : Database) (f : ApiKeyRow → ApiKeyRow) (hf : ∀ key, (f key).id = key.id) :
    Database :=
  { db with
    keys := db.keys.map f
    keyIds := by
      have : ApiKeyRow.id ∘ f = ApiKeyRow.id := funext hf
      rw [List.map_map, this]
      exact db.keyIds }

/-- `UPDATE api_keys SET status = … WHERE id = …`. -/
def setKeyStatus (db : Database) (id : Uuid) (status : KeyStatus) : Database :=
  db.mapKeys (fun key => if key.id = id then { key with status := status } else key)
    fun key => by split <;> rfl

/-- `UPDATE api_keys SET allowed_models = …, spend_cap_usd = … WHERE id = …`. -/
def setKeyLimits (db : Database) (id : Uuid) (allowedModels : Option (List String))
    (spendCapUsd : Option ℚ) : Database :=
  db.mapKeys (fun key =>
      if key.id = id then
        { key with allowedModels := allowedModelsToJson allowedModels, spendCapUsd := spendCapUsd }
      else key)
    fun key => by split <;> rfl

/-- `UPDATE users SET status = … WHERE id = …`. -/
def setUserStatus (db : Database) (id : Uuid) (status : UserStatus) : Database :=
  { db with
    users := db.users.map fun user => if user.id = id then { user with status := status } else user
    userIds := by
      have : UserRow.id ∘ (fun user : UserRow =>
          if user.id = id then { user with status := status } else user) = UserRow.id := by
        funext user
        simp only [Function.comp_apply]
        split <;> rfl
      rw [List.map_map, this]
      exact db.userIds }

/-- `INSERT INTO credit_grants`: both users exist. -/
def insertGrant (db : Database) (grant : GrantRow) (grantedBy : Uuid) : Option Database :=
  if grant.userId ∈ db.users.map UserRow.id ∧ grantedBy ∈ db.users.map UserRow.id then
    some { db with grants := db.grants ++ [grant] }
  else none

end Database

/-- `AccountStore::active_key_map` on a database that no one writes to meanwhile. -/
def activeKeyMap (db : Database) : ApiKeyMap := keyMap db.activeKeys db.activeUsers

end LiteAgentify
