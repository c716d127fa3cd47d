import LiteAgentify.Account
import LiteAgentify.Model

/-!
# User accounts

The `users` side of `src/account/store.rs` and of `src/account/bootstrap.rs`: the rows with their
credentials, the statements that read and write them, and the seeding of the first admin.
`src/admin/password.rs`: the check of a password against the stored value.
-/

set_option autoImplicit false

namespace LiteAgentify

structure UserRecord where
  id : Uuid
  username : String
  passwordHash : String
  role : Role
  status : UserStatus
  deriving DecidableEq

/-- The columns that the key map reads. -/
def UserRecord.row (user : UserRecord) : UserRow := ⟨user.id, user.role, user.status⟩

def Role.parse (value : String) : Option Role :=
  if value = "admin" then some .admin else if value = "user" then some .user else none

/-! ## The table -/

/-- The `users` table; the primary key and the unique index on usernames are part of the type. -/
structure UserTable where
  users : List UserRecord
  ids : (users.map UserRecord.id).Nodup
  usernames : (users.map UserRecord.username).Nodup

namespace UserTable

def empty : UserTable := ⟨[], List.nodup_nil, List.nodup_nil⟩

def findUserByUsername (table : UserTable) (username : String) : Option UserRecord :=
  table.users.find? (·.username = username)

def getUser (table : UserTable) (id : Uuid) : Option UserRecord := table.users.find? (·.id = id)

/-- `INSERT INTO users`: a taken id or username is a duplicate key. -/
def insert (table : UserTable) (user : UserRecord) : Option UserTable :=
  if h : user.id ∉ table.users.map UserRecord.id ∧
      user.username ∉ table.users.map UserRecord.username then
    some
      { users := table.users ++ [user]
        ids := by
          rw [List.map_append, List.nodup_append]
          refine ⟨table.ids, List.nodup_singleton _, fun a ha b hb => ?_⟩
          rw [List.map_singleton, List.mem_singleton] at hb
          intro heq
          exact h.1 (hb ▸ heq ▸ ha)
        usernames := by
          rw [List.map_append, List.nodup_append]
          refine ⟨table.usernames, List.nodup_singleton _, fun a ha b hb => ?_⟩
          rw [List.map_singleton, List.mem_singleton] at hb
          intro heq
          exact h.2 (hb ▸ heq ▸ ha) }
  else none

/-- An `UPDATE` of the row with this id that leaves its id and username alone. -/
def update (table : UserTable) (id : Uuid) (f : UserRecord → UserRecord)
    (hid : ∀ user, (f user).id = user.id) (hname : ∀ user, (f user).username = user.username) :
    UserTable where
  users := table.users.map fun user => if user.id = id then f user else user
  ids := by
    have : UserRecord.id ∘ (fun user : UserRecord => if user.id = id then f user else user) =
        UserRecord.id := by
      funext user
      simp only [Function.comp_apply]
      split
      · exact hid user
      · rfl
    rw [List.map_map, this]
    exact table.ids
  usernames := by
    have : UserRecord.username ∘ (fun user : UserRecord => if user.id = id then f user else user) =
        UserRecord.username := by
      funext user
      simp only [Function.comp_apply]
      split
      · exact hname user
      · rfl
    rw [List.map_map, this]
    exact table.usernames

def setUserStatus (table : UserTable) (id : Uuid) (status : UserStatus) : UserTable :=
  table.update id (fun user => { user with status := status }) (fun _ => rfl) fun _ => rfl

def setPasswordHash (table : UserTable) (id : Uuid) (passwordHash : String) : UserTable :=
  table.update id (fun user => { user with passwordHash := passwordHash }) (fun _ => rfl)
    fun _ => rfl

end UserTable

/-! ## Passwords -/

/-- The stored value is an argon2 PHC string rather than plaintext. -/
def isPhcHash (value : String) : Bool := (Text.stripPrefix "$argon2" value).isSome

/-- The submitted password against the stored value; `argon2` parses and checks a PHC string. -/
def verifyPassword (argon2 : String → String → Bool) (stored submitted : String) : Bool :=
  if isPhcHash stored then argon2 stored submitted else Text.asBytes stored = Text.asBytes submitted

/-! ## The first admin -/

/-- The account seeding of `bootstrap_accounts`: an empty table gets the user `admin`. The id and
what `hash_password` makes of a plaintext password are drawn by the caller. -/
def bootstrapAccounts (table : UserTable) (config : GatewayConfig) (id : Uuid)
    (hashed : Except String String) : Except String UserTable :=
  if table.users = [] then
    match config.adminPassword with
    | none => .error "no users exist and no admin_password is configured: set admin_password in the config file to seed the bootstrap admin account"
    | some password =>
      let passwordHash := if isPhcHash password then .ok password else hashed
      match passwordHash with
      | .error error => .error error
      | .ok passwordHash =>
        match table.insert ⟨id, "admin", passwordHash, .admin, .active⟩ with
        | some table => .ok table
        | none => .error "failed to create bootstrap admin user"
  else .ok table

end LiteAgentify
