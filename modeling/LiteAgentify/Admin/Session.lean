import LiteAgentify.Admin
import LiteAgentify.Lib.Maps

/-!
# Sessions and login lockout

`src/admin/session.rs`: the login limiter and the in-memory session store, the default. The clock
(an `Instant`, in milliseconds) is an argument of each operation; each operation holds its lock, so
it is one step.
-/

set_option autoImplicit false

namespace LiteAgentify

def lockoutThreshold : Nat := 5

/-- `Duration::from_secs(60)`. -/
def lockoutWindow : Nat := 60000

/-- Upper bound on tracked lockout entries. -/
def lockoutMaxEntries : Nat := 10000

/-! ## The limiter -/

structure LimiterEntry where
  consecutiveFailures : Nat := 0
  lockedUntil : Option Nat := none
  deriving DecidableEq

/-- The entry is worth keeping: its lock has not expired, or it counts failures. -/
def LimiterEntry.live (now : Nat) (entry : LimiterEntry) : Bool :=
  entry.lockedUntil.any (now < ·) || 0 < entry.consecutiveFailures

/-- Per-username lockout. -/
structure LoginLimiter where
  entries : HashMap String LimiterEntry
  lockout : Nat

namespace LoginLimiter

def new (lockout : Nat) : LoginLimiter := ⟨∅, lockout⟩

/-- Whether the username is locked; an expired lock is cleared. -/
def isLocked (limiter : LoginLimiter) (username : String) (now : Nat) : Bool × LoginLimiter :=
  match limiter.entries.lookup username with
  | none => (false, limiter)
  | some entry =>
    match entry.lockedUntil with
    | some lockedUntil =>
      if now < lockedUntil then (true, limiter)
      else (false, { limiter with
        entries := limiter.entries.insert username { entry with lockedUntil := none } })
    | none => (false, limiter)

/-- A full map drops its expired entries before a new username comes in. -/
def makeRoom (limiter : LoginLimiter) (username : String) (now : Nat) : LoginLimiter :=
  if Maps.size limiter.entries ≥ lockoutMaxEntries ∧ ¬ limiter.entries.containsKey username then
    { limiter with entries := Maps.retain (fun _ entry => entry.live now) limiter.entries }
  else limiter

/-- The map is full of live entries and refuses to grow by this username. -/
def refuses (limiter : LoginLimiter) (username : String) (now : Nat) : Bool :=
  Maps.size limiter.entries ≥ lockoutMaxEntries ∧ ¬ limiter.entries.containsKey username ∧
    Maps.size (limiter.makeRoom username now).entries ≥ lockoutMaxEntries

def registerFailure (limiter : LoginLimiter) (username : String) (now : Nat) : LoginLimiter :=
  let limiter' := limiter.makeRoom username now
  if limiter.refuses username now then limiter'
  else
    let entry := (limiter'.entries.lookup username).getD {}
    let failures := entry.consecutiveFailures + 1
    let entry : LimiterEntry :=
      if failures ≥ lockoutThreshold then
        { consecutiveFailures := 0, lockedUntil := some (now + limiter.lockout) }
      else { entry with consecutiveFailures := failures }
    { limiter' with entries := limiter'.entries.insert username entry }

def reset (limiter : LoginLimiter) (username : String) : LoginLimiter :=
  { limiter with entries := limiter.entries.erase username }

end LoginLimiter

/-! ## The session store -/

structure MemorySession where
  identity : SessionIdentity
  expiresAt : Nat
  deriving DecidableEq

structure MemorySessionStore where
  sessions : HashMap String MemorySession
  limiter : LoginLimiter

namespace MemorySessionStore

def new (lockout : Nat) : MemorySessionStore := ⟨∅, .new lockout⟩

/-- `SessionStore::open`. -/
def openSession (store : MemorySessionStore) (token : String) (identity : SessionIdentity)
    (ttl : Nat) (now : Nat) : MemorySessionStore :=
  { store with sessions := store.sessions.insert token ⟨identity, now + ttl⟩ }

/-- The identity of an unexpired session; an expired one is removed. -/
def get (store : MemorySessionStore) (token : String) (now : Nat) :
    Option SessionIdentity × MemorySessionStore :=
  match store.sessions.lookup token with
  | some session =>
    if now < session.expiresAt then (some session.identity, store)
    else (none, { store with sessions := store.sessions.erase token })
  | none => (none, store)

def remove (store : MemorySessionStore) (token : String) : MemorySessionStore :=
  { store with sessions := store.sessions.erase token }

def removeUser (store : MemorySessionStore) (userId : Uuid) : MemorySessionStore :=
  { store with
    sessions := Maps.retain (fun _ session => session.identity.userId ≠ userId) store.sessions }

def isLocked (store : MemorySessionStore) (username : String) (now : Nat) :
    Bool × MemorySessionStore :=
  let (locked, limiter) := store.limiter.isLocked username now
  (locked, { store with limiter := limiter })

def registerFailure (store : MemorySessionStore) (username : String) (now : Nat) :
    MemorySessionStore :=
  { store with limiter := store.limiter.registerFailure username now }

def clearFailures (store : MemorySessionStore) (username : String) : MemorySessionStore :=
  { store with limiter := store.limiter.reset username }

end MemorySessionStore

end LiteAgentify
