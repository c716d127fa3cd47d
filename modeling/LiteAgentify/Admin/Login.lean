import LiteAgentify.Admin.Session
import LiteAgentify.Account.Users
import LiteAgentify.Lib.Run

/-!
# Logins and user management

`login`, `logout` and `require_session` of `src/admin/mod.rs` and the user handlers of
`src/admin/account_api.rs` over the in-memory session store. A request runs as a sequence of steps,
one for each statement on the users table, each operation of the session store and each password
verification; requests running at the same time interleave their steps, and time passes between
them. Any statement may fail.
-/

set_option autoImplicit false

namespace LiteAgentify

/-! ## Requests -/

/-- A call behind `require_session`, with the random values its handler draws: `hashed` is what
`hash_password` makes of the new password. -/
inductive AdminCall
  | createUser (username password role : String) (hashed : Option String) (id : Uuid)
  | disableUser (id : Uuid)
  | enableUser (id : Uuid)
  | resetPassword (id : Uuid) (password : String) (hashed : Option String)
  | changeOwnPassword (currentPassword newPassword : String) (hashed : Option String)
  | logout
  /-- A handler that neither writes users nor touches sessions. -/
  | other
  deriving DecidableEq

inductive AdminRequest
  /-- `POST /api/login`; `token` is what `random_token` draws. -/
  | login (username password token : String)
  /-- A call with the token of its session cookie. -/
  | call (cookie : Option String) (call : AdminCall)
  deriving DecidableEq

/-- How far a request has come, with what it holds. -/
inductive AdminPlace
  | start
  /-- A login that was not locked out. -/
  | checked
  /-- `find_user_by_username` has returned. -/
  | lookedUp (user : Option UserRecord)
  /-- The credentials did not verify. -/
  | failed
  | verified (user : UserRecord)
  /-- The failures are cleared, the session is yet to be opened. -/
  | cleared (user : UserRecord)
  /-- `require_session` let the call pass. -/
  | authorized (identity : SessionIdentity)
  /-- `change_own_password` has verified the current password. -/
  | confirmed (identity : SessionIdentity)
  /-- The row to write was found, or the username to insert was not. -/
  | located (identity : SessionIdentity)
  /-- The write is done. -/
  | written
  /-- The user's sessions are removed. -/
  | swept
  | returned (status : Nat)
  deriving DecidableEq

/-- `MIN_PASSWORD_LEN`. -/
def minPasswordLen : Nat := 8

def validatePassword (password : String) : Except Rejection Unit :=
  if password.utf8ByteSize < minPasswordLen then
    .error (.badRequest "password must be at least 8 characters")
  else .ok ()

/-- `create_user`'s validation: the trimmed username, the role and the hash. -/
def validateUser (username password role : String) (hashed : Option String) :
    Except Rejection (String × Role × String) :=
  let username := Text.trim username
  if username = "" ∨ username.utf8ByteSize > 64 then
    .error (.badRequest "username must be 1-64 characters")
  else
    match validatePassword password with
    | .error rejection => .error rejection
    | .ok () =>
      match Role.parse role with
      | none => .error (.badRequest "role must be 'admin' or 'user'")
      | some role =>
        match hashed with
        | none => .error (.internal "failed to hash password")
        | some hash => .ok (username, role, hash)

/-- The validation of a new password, and its hash. -/
def validateNewPassword (password : String) (hashed : Option String) : Except Rejection String :=
  match validatePassword password with
  | .error rejection => .error rejection
  | .ok () =>
    match hashed with
    | none => .error (.internal "failed to hash password")
    | some hash => .ok hash

/-- The end of a request that is rejected. -/
def Rejection.place (rejection : Rejection) : AdminPlace := .returned rejection.status

/-- The `find_by_id` that a store mutation begins with. -/
def locateUser (users : UserTable) (fault : Bool) (identity : SessionIdentity) (id : Uuid) :
    AdminPlace :=
  if fault then .returned 500
  else if (users.getUser id).isSome then .located identity else .returned 404

/-! ## Steps -/

/-- The users and the sessions, which every request works on. -/
structure AdminStores where
  users : UserTable
  sessions : MemorySessionStore

/-- One step of a login; `none` when it has returned. -/
def loginStep (argon2 : String → String → Bool) (sessionTtl : Nat)
    (username password token : String) (now : Nat) (fault : Bool) (stores : AdminStores) :
    AdminPlace → Option (AdminStores × AdminPlace)
  | .start =>
    let (locked, sessions) := stores.sessions.isLocked username now
    some ({ stores with sessions := sessions }, if locked then .returned 429 else .checked)
  | .checked =>
    some (stores,
      if fault then .returned 500 else .lookedUp (stores.users.findUserByUsername username))
  | .lookedUp (some user) =>
    some (stores,
      if verifyPassword argon2 user.passwordHash password ∧ user.status = .active then
        .verified user
      else .failed)
  -- an unknown username is verified against a dummy hash, for the time it takes
  | .lookedUp none => some (stores, .failed)
  | .failed =>
    some ({ stores with sessions := stores.sessions.registerFailure username now }, .returned 401)
  | .verified user =>
    some ({ stores with sessions := stores.sessions.clearFailures username }, .cleared user)
  | .cleared user =>
    let identity : SessionIdentity := ⟨user.id, user.username, user.role⟩
    some ({ stores with sessions := stores.sessions.openSession token identity sessionTtl now },
      .returned 200)
  | _ => none

/-- `require_session`: the identity behind the cookie; an expired session is removed. -/
def requireSession (cookie : Option String) (now : Nat) (stores : AdminStores) :
    AdminStores × AdminPlace :=
  match cookie with
  | none => (stores, .returned 401)
  | some token =>
    let (identity, sessions) := stores.sessions.get token now
    ({ stores with sessions := sessions },
      match identity with
      | some identity => .authorized identity
      | none => .returned 401)

namespace AdminCall

/-- What a handler does with the identity of its session, up to its first write. -/
def enter (argon2 : String → String → Bool) (fault : Bool) (users : UserTable)
    (identity : SessionIdentity) : AdminCall → AdminPlace
  | createUser username password role hashed _ =>
    match requireAdmin identity with
    | .error rejection => rejection.place
    | .ok () =>
      match validateUser username password role hashed with
      | .error rejection => rejection.place
      | .ok (username, _, _) =>
        if fault then .returned 500
        else if (users.findUserByUsername username).isSome then .returned 409
        else .located identity
  | disableUser id =>
    match requireAdmin identity with
    | .error rejection => rejection.place
    | .ok () =>
      if id = identity.userId then (Rejection.badRequest "cannot disable your own account").place
      else locateUser users fault identity id
  | enableUser id =>
    match requireAdmin identity with
    | .error rejection => rejection.place
    | .ok () => locateUser users fault identity id
  | resetPassword id password hashed =>
    match requireAdmin identity with
    | .error rejection => rejection.place
    | .ok () =>
      match validateNewPassword password hashed with
      | .error rejection => rejection.place
      | .ok _ => locateUser users fault identity id
  | changeOwnPassword currentPassword newPassword _ =>
    match validatePassword newPassword with
    | .error rejection => rejection.place
    | .ok () =>
      if fault then .returned 500
      else
        match users.getUser identity.userId with
        | none => .returned 401
        | some user =>
          if verifyPassword argon2 user.passwordHash currentPassword then .confirmed identity
          else .returned 401
  | logout | other => .returned 200

/-- The write of a handler that has found its row; `none` is a write that fails. -/
def write (users : UserTable) (identity : SessionIdentity) : AdminCall → Option UserTable
  | createUser username password role hashed id =>
    match validateUser username password role hashed with
    | .error _ => none
    | .ok (username, role, hash) => users.insert ⟨id, username, hash, role, .active⟩
  | disableUser id => some (users.setUserStatus id .disabled)
  | enableUser id => some (users.setUserStatus id .active)
  | resetPassword id _ hashed => hashed.map (users.setPasswordHash id)
  | changeOwnPassword _ _ hashed => hashed.map (users.setPasswordHash identity.userId)
  | logout | other => none

/-- The status of a failed write: a username taken meanwhile is a conflict. -/
def writeFailure (fault : Bool) : AdminCall → Nat
  | createUser _ _ _ _ _ => if fault then 500 else 409
  | _ => 500

/-- The user whose sessions are removed after the write. -/
def sweeps : AdminCall → Option Uuid
  | disableUser id => some id
  | resetPassword id _ _ => some id
  | _ => none

/-- The status of a completed handler. -/
def success : AdminCall → Nat
  | createUser _ _ _ _ _ => 201
  | _ => 200

/-- One step of a call; `none` when it has returned. -/
def step (argon2 : String → String → Bool) (cookie : Option String) (now : Nat) (fault : Bool)
    (stores : AdminStores) (call : AdminCall) : AdminPlace → Option (AdminStores × AdminPlace)
  | .start => some (requireSession cookie now stores)
  | .authorized identity =>
    match call, cookie with
    | logout, some token =>
      some ({ stores with sessions := stores.sessions.remove token }, .returned 200)
    | _, _ => some (stores, call.enter argon2 fault stores.users identity)
  | .confirmed identity =>
    match call with
    | changeOwnPassword _ _ none => some (stores, .returned 500)
    | changeOwnPassword _ _ (some _) =>
      some (stores, match locateUser stores.users fault identity identity.userId with
        | .returned 404 => .returned 401
        | place => place)
    | _ => none
  | .located identity =>
    match fault, call.write stores.users identity with
    | false, some users => some ({ stores with users := users }, .written)
    | _, _ => some (stores, .returned (call.writeFailure fault))
  | .written =>
    match call.sweeps with
    | some id => some ({ stores with sessions := stores.sessions.removeUser id }, .swept)
    | none => some (stores, .returned call.success)
  | .swept => some (stores, .returned call.success)
  | _ => none

end AdminCall

/-! ## Requests running together -/

structure AdminServer (ι : Type) where
  stores : AdminStores
  now : Nat
  place : ι → AdminPlace

inductive AdminLabel (ι : Type)
  /-- The next step of a request; the label says whether its statement fails. -/
  | request (i : ι) (fault : Bool)
  | tick (ms : Nat)

namespace AdminServer

variable {ι : Type} [DecidableEq ι] (argon2 : String → String → Bool) (sessionTtl : Nat)
  (requests : ι → AdminRequest)

def requestStep (s : AdminServer ι) (i : ι) (fault : Bool) : Option (AdminStores × AdminPlace) :=
  match requests i with
  | .login username password token =>
    loginStep argon2 sessionTtl username password token s.now fault s.stores (s.place i)
  | .call cookie call => call.step argon2 cookie s.now fault s.stores (s.place i)

def step (s : AdminServer ι) : AdminLabel ι → Option (AdminServer ι)
  | .request i fault =>
    (s.requestStep argon2 sessionTtl requests i fault).map fun (stores, place) =>
      { s with stores := stores, place := Function.update s.place i place }
  | .tick ms => some { s with now := s.now + ms }

/-- The gateway has started: no session is open, no failure is recorded, no request has run. -/
def init (users : UserTable) (lockout start : Nat) : AdminServer ι where
  stores := ⟨users, .new lockout⟩
  now := start
  place := fun _ => .start

/-- `session_identity`: whom a token stands for. -/
def sessionIdentity (s : AdminServer ι) (token : String) : Option SessionIdentity :=
  (s.stores.sessions.get token s.now).1

end AdminServer

end LiteAgentify
