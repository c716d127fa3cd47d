import LiteAgentify.Admin.LoginApi
import LiteAgentify.Admin.Routes

/-!
# The admin router

`admin_router_with_state` of `src/admin/mod.rs`: `login`, and the handlers behind `require_session`
with the session of their cookie, over the backend and the in-memory session store. A request runs
to its end before the next, at one moment of a clock that does not go back.
-/

set_option autoImplicit false

namespace LiteAgentify

open AdminApi

/-- `SESSION_TTL` -/
def sessionTtl : Nat := 24 * 60 * 60 * 1000

/-- `session_cookie`: the value of the first cookie of that name. -/
def sessionCookie (P : Packages) (headers : HeaderMap) : Option String :=
  ((headers.get "cookie").bind P.headerToStr).bind fun value =>
    let pairs := (value.toList.splitOn ';').map String.ofList
    (pairs.filterMap fun pair => Text.stripPrefix "lite_agentify_admin" (Text.trim pair)).findSome?
      (Text.stripPrefix "=")

/-- The users as `login` looks them up. -/
def AdminApi.Backend.userTable (w : Backend) : UserTable where
  users := w.users.rows.map UserModel.toUserRecord
  ids := by
    rw [List.map_map]
    exact w.users.keys
  usernames := by
    rw [List.map_map]
    exact w.users.uniques

inductive RouterRequest
  | login (username password : String)
  /-- A route behind `require_session`. -/
  | api (request : ApiRequest)

/-- A request, with what its handler draws, which of its statements fail and what a rebuild reads;
`token` is what `random_token` returns. -/
structure RouterCall where
  headers : HeaderMap
  now : Nat
  token : String
  draws : Draws
  faults : Faults
  file : Except String GatewayConfig
  request : RouterRequest

inductive RouterReply
  | login (response : LoginResponse)
  /-- `401 admin session required` -/
  | sessionRequired
  | api (reply : Reply) (setCookie : Option String)

structure AdminRouter where
  backend : Backend
  sessions : MemorySessionStore
  /-- The time of the last request. -/
  now : Nat

namespace AdminRouter

/-- The gateway has started. -/
def init (backend : Backend) (lockout now : Nat) : AdminRouter := ⟨backend, .new lockout, now⟩

section

variable (X : Externals) (s : AdminRouter) (c : RouterCall)

/-- `session_identity` of the request's cookie; an expired session is removed. -/
def session : Option SessionIdentity × MemorySessionStore :=
  match sessionCookie X.toPackages c.headers with
  | some token => s.sessions.get token c.now
  | none => (none, s.sessions)

/-- `login`; its one statement is the lookup of the user. -/
def login (username password : String) : LoginResponse × MemorySessionStore :=
  if c.faults.statement 0 then
    let (locked, sessions) := s.sessions.isLocked username c.now
    if locked then
      ({ status := 429, body := .text "too many failed login attempts; try again later" }, sessions)
    else ({ status := 500, body := .text "login failed" }, sessions)
  else
    LiteAgentify.login X.argon2 memoryBackend sessionTtl s.backend.userTable s.sessions
      ⟨c.now, username, password, c.token⟩

/-- What a handler does to the sessions besides; `drop_user_sessions` follows a write that was
done. -/
def sweep (token : Option String) (request : ApiRequest) (reply : Reply)
    (sessions : MemorySessionStore) : MemorySessionStore :=
  match request with
  | .logout => (token.map sessions.remove).getD sessions
  | .disableUser id | .resetPassword id _ =>
    if reply.status = 200 then sessions.removeUser id else sessions
  | _ => sessions

def handle : RouterReply × AdminRouter :=
  match c.request with
  | .login username password =>
    let (response, sessions) := s.login X c username password
    (.login response, { s with sessions := sessions, now := c.now })
  | .api request =>
    match s.session X c with
    | (none, sessions) => (.sessionRequired, { s with sessions := sessions, now := c.now })
    | (some identity, sessions) =>
      let (reply, backend) := serve X s.backend ⟨⟨identity, c.draws, c.faults, c.file⟩, request⟩
      let cookie := match request with
        | .logout => some (setCookieHeader "" 0)
        | _ => none
      (.api reply cookie,
        { backend := backend
          sessions := sweep (sessionCookie X.toPackages c.headers) request reply sessions
          now := c.now })

/-- The next request, unless it comes from before the last. -/
def step : Option AdminRouter := if s.now ≤ c.now then some (s.handle X c).2 else none

end

end AdminRouter

end LiteAgentify
