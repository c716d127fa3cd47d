import LiteAgentify.Admin.Session
import LiteAgentify.Lib.KeySpace
import Std.Data.String.ToNat

/-!
# Sessions and login lockout in Redis

`RedisSessionStore` of `src/admin/session.rs` on a Redis that answers every command. A session is a
text under its token with the session TTL; the tokens of a user are in a set, whose TTL every login
refreshes. A lockout is a key with the window as its TTL, and so is the count of failures.
-/

set_option autoImplicit false

namespace LiteAgentify

abbrev Redis := KeySpace String String String

/-- `serde_json` on the session payload. -/
structure SessionJson where
  toString : SessionIdentity → String
  fromStr : String → Option SessionIdentity

/-- `Duration::as_secs` of milliseconds. -/
def asSecs (duration : Nat) : Nat := duration / 1000

def sessionKey (token : String) : String := s!"session:{token}"

/-- Per-user token index so disabling a user can find all their sessions. -/
def userSessionsKey (userId : Uuid) : String := s!"session_user:{userId}"

def lockoutKey (username : String) : String := s!"lockout:{username}"

def lockoutFailsKey (username : String) : String := s!"lockout_fails:{username}"

/-- A call on the sessions of a store. -/
inductive SessionOp
  | openSession (token : String) (identity : SessionIdentity)
  | get (token : String)
  | remove (token : String)
  | removeUser (userId : Uuid)
  deriving DecidableEq

structure RedisSessionStore where
  /-- What is behind `connection`. -/
  redis : Redis
  lockout : Nat

namespace RedisSessionStore

/-- A store on an empty Redis. -/
def new (lockout : Nat) : RedisSessionStore := ⟨∅, lockout⟩

/-! ## Sessions -/

/-- `SessionStore::open`, with a TTL of a second at least (`EX 0` is an error). -/
def openSession (json : SessionJson) (store : RedisSessionStore) (token : String)
    (identity : SessionIdentity) (ttl : Nat) (now : Nat) : RedisSessionStore :=
  let redis := store.redis.setEx now (sessionKey token) (json.toString identity) (asSecs ttl)
  let redis := redis.sadd now (userSessionsKey identity.userId) token
  { store with redis := redis.expire now (userSessionsKey identity.userId) (asSecs ttl) }

/-- The identity of a session; a corrupt payload is no session. -/
def get (json : SessionJson) (store : RedisSessionStore) (token : String) (now : Nat) :
    Option SessionIdentity :=
  (store.redis.get now (sessionKey token)).bind json.fromStr

/-- The identity is fetched first so the index stays clean. -/
def remove (json : SessionJson) (store : RedisSessionStore) (token : String) (now : Nat) :
    RedisSessionStore :=
  let identity := store.get json token now
  let redis := store.redis.del now (sessionKey token)
  match identity with
  | some identity => { store with redis := redis.srem now (userSessionsKey identity.userId) token }
  | none => { store with redis := redis }

def removeUser (store : RedisSessionStore) (userId : Uuid) (now : Nat) : RedisSessionStore :=
  let tokens := store.redis.smembers now (userSessionsKey userId)
  let redis := tokens.foldl (fun redis token => redis.del now (sessionKey token)) store.redis
  { store with redis := redis.del now (userSessionsKey userId) }

/-! ## Lockout -/

def isLocked (store : RedisSessionStore) (username : String) (now : Nat) : Bool :=
  store.redis.has now (lockoutKey username)

/-- The window of the lockout keys, in seconds. -/
def window (store : RedisSessionStore) : Nat := max (asSecs store.lockout) 1

def registerFailure (store : RedisSessionStore) (username : String) (now : Nat) :
    RedisSessionStore :=
  let fails := lockoutFailsKey username
  let (count, redis) := store.redis.incr now fails
  let redis := redis.expire now fails store.window
  match count with
  | some count =>
    if count ≥ lockoutThreshold then
      let redis := redis.setEx now (lockoutKey username) "1" store.window
      { store with redis := redis.del now fails }
    else { store with redis := redis }
  | none => { store with redis := redis }

def clearFailures (store : RedisSessionStore) (username : String) (now : Nat) :
    RedisSessionStore :=
  { store with
    redis := (store.redis.del now (lockoutFailsKey username)).del now (lockoutKey username) }

end RedisSessionStore

/-! ## Calls -/

structure SessionCall where
  now : Nat
  op : SessionOp
  deriving DecidableEq

/-- A call; a `get` is answered. -/
def MemorySessionStore.callSession (ttl : Nat) (store : MemorySessionStore) (c : SessionCall) :
    Option (Option SessionIdentity) × MemorySessionStore :=
  match c.op with
  | .openSession token identity => (none, store.openSession token identity ttl c.now)
  | .get token =>
    let (identity, store) := store.get token c.now
    (some identity, store)
  | .remove token => (none, store.remove token)
  | .removeUser userId => (none, store.removeUser userId)

def RedisSessionStore.callSession (json : SessionJson) (ttl : Nat) (store : RedisSessionStore)
    (c : SessionCall) : Option (Option SessionIdentity) × RedisSessionStore :=
  match c.op with
  | .openSession token identity => (none, store.openSession json token identity ttl c.now)
  | .get token => (some (store.get json token c.now), store)
  | .remove token => (none, store.remove json token c.now)
  | .removeUser userId => (none, store.removeUser userId c.now)

/-! ## The keys -/

theorem sessionKey_inj {token token' : String} :
    sessionKey token = sessionKey token' ↔ token = token' := by
  simp [sessionKey, toString]

theorem userSessionsKey_inj {userId userId' : Uuid} :
    userSessionsKey userId = userSessionsKey userId' ↔ userId = userId' := by
  simp [userSessionsKey, toString]

theorem sessionKey_ne (token : String) (userId : Uuid) :
    sessionKey token ≠ userSessionsKey userId := by
  intro h
  have hlist := congrArg String.toList h
  simp [sessionKey, userSessionsKey, toString] at hlist

theorem lockoutKey_inj {username username' : String} :
    lockoutKey username = lockoutKey username' ↔ username = username' := by
  simp [lockoutKey, toString]

theorem lockoutFailsKey_inj {username username' : String} :
    lockoutFailsKey username = lockoutFailsKey username' ↔ username = username' := by
  simp [lockoutFailsKey, toString]

theorem lockoutKey_ne (username username' : String) :
    lockoutKey username ≠ lockoutFailsKey username' := by
  intro h
  have hlist := congrArg String.toList h
  simp [lockoutKey, lockoutFailsKey, toString] at hlist

end LiteAgentify
