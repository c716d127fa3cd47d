import LiteAgentify.Admin.Login
import LiteAgentify.Admin.RedisSession
import LiteAgentify.Lib.Mealy

/-!
# The login endpoint

`login` of `src/admin/mod.rs` as one call with its whole response, over any implementation of the
trait `SessionStore`. `loginStep` is the same handler cut into the steps that other requests can
come between (`login_steps`).
-/

set_option autoImplicit false

namespace LiteAgentify

/-! ## Session stores -/

/-- What a login needs of the trait `SessionStore`. Opening a session says whether it was stored. -/
structure SessionBackend (σ : Type) where
  openSession : σ → String → SessionIdentity → Nat → Nat → Bool × σ
  isLocked : σ → String → Nat → Bool × σ
  registerFailure : σ → String → Nat → σ
  clearFailures : σ → String → Nat → σ

def memoryBackend : SessionBackend MemorySessionStore where
  openSession store token identity ttl now := (true, store.openSession token identity ttl now)
  isLocked := MemorySessionStore.isLocked
  registerFailure := MemorySessionStore.registerFailure
  clearFailures store username _ := store.clearFailures username

/-- A Redis that answers every command, for a TTL of a second at least. -/
def redisBackend (json : SessionJson) : SessionBackend RedisSessionStore where
  openSession store token identity ttl now :=
    (true, store.openSession json token identity ttl now)
  isLocked store username now := (store.isLocked username now, store)
  registerFailure := RedisSessionStore.registerFailure
  clearFailures := RedisSessionStore.clearFailures

/-! ## The handler -/

inductive LoginBody
  | text (message : String)
  /-- `{"ok": true, "username": .., "role": ..}` -/
  | welcome (username : String) (role : Role)
  deriving DecidableEq

structure LoginResponse where
  status : Nat
  body : LoginBody
  setCookie : Option String := none
  deriving DecidableEq

/-- A request to `POST /api/login` at some time; `token` is what `random_token` draws. -/
structure LoginCall where
  now : Nat
  username : String
  password : String
  token : String
  deriving DecidableEq

def setCookieHeader (token : String) (maxAgeSecs : Nat) : String :=
  s!"lite_agentify_admin={token}; HttpOnly; SameSite=Strict; Path=/admin; Max-Age={maxAgeSecs}"

section

variable {σ : Type} (argon2 : String → String → Bool) (backend : SessionBackend σ)
  (sessionTtl : Nat) (users : UserTable)

/-- The user that the credentials verify. An unknown username is verified against a dummy hash, for
the time it takes. -/
def verifiedUser (username password : String) : Option UserRecord :=
  match users.findUserByUsername username with
  | some user =>
    if verifyPassword argon2 user.passwordHash password ∧ user.status = .active then some user
    else none
  | none => none

/-- `login`, where the lookup does not fail. -/
def login (sessions : σ) (c : LoginCall) : LoginResponse × σ :=
  let (locked, sessions) := backend.isLocked sessions c.username c.now
  if locked then
    ({ status := 429, body := .text "too many failed login attempts; try again later" }, sessions)
  else
    match verifiedUser argon2 users c.username c.password with
    | none =>
      ({ status := 401, body := .text "invalid credentials" },
        backend.registerFailure sessions c.username c.now)
    | some user =>
      let sessions := backend.clearFailures sessions c.username c.now
      let (stored, sessions) := backend.openSession sessions c.token
        ⟨user.id, user.username, user.role⟩ sessionTtl c.now
      if stored then
        ({ status := 200
           body := .welcome user.username user.role
           setCookie := some (setCookieHeader c.token (asSecs sessionTtl)) }, sessions)
      -- no session persisted means no cookie is issued
      else ({ status := 500, body := .text "login failed" }, sessions)

end

/-! ## The steps of a login -/

/-- **The steps in a row.** A login that no other request interrupts and whose lookup does not fail
does in its steps what the handler does in one call. -/
theorem login_steps (argon2 : String → String → Bool) (sessionTtl : Nat) (users : UserTable)
    (sessions : MemorySessionStore) (c : LoginCall) :
    Relation.ReflTransGen
      (fun s s' => loginStep argon2 sessionTtl c.username c.password c.token c.now false s.1 s.2 =
        some s')
      (⟨users, sessions⟩, .start)
      (⟨users, (login argon2 memoryBackend sessionTtl users sessions c).2⟩,
        .returned (login argon2 memoryBackend sessionTtl users sessions c).1.status) := by
  unfold login memoryBackend
  cases hlocked : (sessions.isLocked c.username c.now).1 with
  | true =>
    refine .single ?_
    simp [loginStep, hlocked]
  | false =>
    refine .head (b := (⟨users, (sessions.isLocked c.username c.now).2⟩, .checked)) ?_ ?_
    · simp [loginStep, hlocked]
    refine .head (b := (⟨users, (sessions.isLocked c.username c.now).2⟩,
      .lookedUp (users.findUserByUsername c.username))) rfl ?_
    simp only [hlocked, Bool.false_eq_true, if_false, verifiedUser]
    cases users.findUserByUsername c.username with
    | none => exact .head rfl (.single rfl)
    | some user =>
      by_cases h : verifyPassword argon2 user.passwordHash c.password ∧ user.status = .active
      · simp only [h, and_self, if_true]
        refine .head (b := (_, .verified user)) (by simp [loginStep, h]; rfl) ?_
        exact .head rfl (.single rfl)
      · simp only [h, if_false]
        refine .head (b := (_, .failed)) (by simp [loginStep, h]; rfl) ?_
        exact .single rfl

end LiteAgentify
