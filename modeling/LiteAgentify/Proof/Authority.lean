import LiteAgentify.Admin.Router
import LiteAgentify.Proof.AdminServer
import LiteAgentify.Proof.Revocation

/-!
# Sessions and what they allow

A request to the admin router prunes expired sessions and then does one thing to the others, its
`SessionEvent`, or none (`handle_sessions`). So the sessions are what the history of these events
says (`sessions_are_history`). A session is opened for an active user and swept when the user is
disabled, so whoever is behind one is a stored, active user of that name and role (`Authentic`), and
no request does more than the user may (`writes_are_authorized`).
-/

set_option autoImplicit false

namespace LiteAgentify

open AdminApi Lts

variable {X : Externals}

/-! ## Cookies -/

/-- The gateway of the samples, on which any password verifies. -/
def anyPassword : Externals := { sampleExternals with argon2 := fun _ _ => true }

def sampleLogin : RouterCall where
  headers := []
  now := 0
  token := "t"
  draws := sampleContext.draws
  faults := sampleContext.faults
  file := sampleContext.file
  request := .login "admin" "secret"

/-- The request for a user, with the cookie of that login. -/
def sampleCreate : RouterCall where
  headers := [("cookie", Text.asBytes "lite_agentify_admin=t")]
  now := 1
  token := "u"
  draws := sampleContext.draws
  faults := sampleContext.faults
  file := sampleContext.file
  request := .api (.createUser "ann" "password" "user")

def annLogin : RouterCall :=
  { sampleLogin with now := 2, token := "v", request := .login "ann" "password" }

/-- The user creates a key. -/
def annKey : RouterCall where
  headers := [("cookie", Text.asBytes "lite_agentify_admin=v")]
  now := 3
  token := "u"
  draws := sampleContext.draws
  faults := sampleContext.faults
  file := sampleContext.file
  request := .api (.createKey { name := "laptop" })

/-- What a request does to the sessions. -/
inductive SessionEvent
  | opened (token : String) (identity : SessionIdentity) (at_ : Nat)
  | closed (token : String)
  | swept (userId : Uuid)

def SessionEvent.apply (store : MemorySessionStore) : SessionEvent → MemorySessionStore
  | opened token identity now => store.openSession token identity sessionTtl now
  | closed token => store.remove token
  | swept userId => store.removeUser userId

/-- The event ends every earlier session of this token and identity. -/
def SessionEvent.Ends (token : String) (identity : SessionIdentity) : SessionEvent → Prop
  | opened token' _ _ => token' = token
  | closed token' => token' = token
  | swept userId => userId = identity.userId

section
variable (X : Externals) (s : AdminRouter) (c : RouterCall)

def AdminRouter.loginEvent (username password : String) : Option SessionEvent :=
  if (s.login X c username password).1.status = 200 then
    (verifiedUser X.argon2 s.backend.userTable username password).map fun user =>
      .opened c.token ⟨user.id, user.username, user.role⟩ c.now
  else none

def AdminRouter.apiEvent (reply : Reply) : ApiRequest → Option SessionEvent
  | .logout => (sessionCookie X.toPackages c.headers).map .closed
  | .disableUser id | .resetPassword id _ => if reply.status = 200 then some (.swept id) else none
  | _ => none

/-- What a request to the router does to the sessions, if anything. -/
def AdminRouter.event : Option SessionEvent :=
  match c.request with
  | .login username password => s.loginEvent X c username password
  | .api request =>
    (s.session X c).1.bind fun identity =>
      apiEvent X c (serve X s.backend ⟨⟨identity, c.draws, c.faults, c.file⟩, request⟩).1 request

end

/-- The events of a run, in order. -/
def AdminRouter.history (X : Externals) (s : AdminRouter) (tr : List RouterCall) :
    List SessionEvent :=
  observe (AdminRouter.step X) (fun h u c _ => h ++ (u.event X c).toList) s [] tr

/-- Every session of `store` is in `store'`, unless it has expired. -/
structure MemorySessionStore.Prunes (now : Nat) (store' store : MemorySessionStore) : Prop where
  old : ∀ token session, store'.sessions.lookup token = some session →
    store.sessions.lookup token = some session
  kept : ∀ token session, store.sessions.lookup token = some session → now < session.expiresAt →
    store'.sessions.lookup token = some session

theorem prunes_of_eq {now : Nat} {store store' : MemorySessionStore}
    (h : store'.sessions = store.sessions) : store'.Prunes now store := by
  refine ⟨fun token session => ?_, fun token session hlookup _ => ?_⟩
  · rw [h]
    exact id
  · rw [h]
    exact hlookup

theorem prunes_get (store : MemorySessionStore) (token : String) (now : Nat) :
    (store.get token now).2.Prunes now store := by
  unfold MemorySessionStore.get
  split
  · rename_i session hlookup
    split_ifs with hlive
    · exact prunes_of_eq rfl
    · refine ⟨fun other session' h => ?_, fun other session' h hlive' => ?_⟩
      · by_cases hother : other = token
        · subst hother
          rw [Finmap.lookup_erase] at h
          cases h
        · rwa [Finmap.lookup_erase_ne hother] at h
      · rw [Finmap.lookup_erase_ne]
        · exact h
        · rintro rfl
          cases hlookup.symm.trans h
          exact hlive hlive'
  · exact prunes_of_eq rfl

section
variable {s s' : AdminRouter} {c : RouterCall}

theorem session_prunes : (s.session X c).2.Prunes c.now s.sessions := by
  unfold AdminRouter.session
  split
  · exact prunes_get s.sessions _ _
  · exact prunes_of_eq rfl

/-- A login fails and leaves the sessions alone, or opens one for the user it has verified. -/
theorem login_cases (username password : String) :
    (s.login X c username password).1.status ≠ 200 ∧
        (s.login X c username password).2.sessions = s.sessions.sessions ∨
      ∃ (user : UserRecord) (store : MemorySessionStore),
        verifiedUser X.argon2 s.backend.userTable username password = some user ∧
        (s.login X c username password).1.status = 200 ∧
        store.sessions = s.sessions.sessions ∧ (s.login X c username password).2 =
          store.openSession c.token ⟨user.id, user.username, user.role⟩ sessionTtl c.now := by
  unfold AdminRouter.login
  split_ifs with hfault
  · refine .inl ?_
    dsimp only
    split_ifs
    · exact ⟨(by decide : 429 ≠ 200), rfl⟩
    · exact ⟨(by decide : 500 ≠ 200), rfl⟩
  · unfold LiteAgentify.login
    dsimp only
    split_ifs
    · exact .inl ⟨(by decide : 429 ≠ 200), rfl⟩
    · cases hverified : verifiedUser X.argon2 s.backend.userTable username password with
      | none => exact .inl ⟨(by decide : 401 ≠ 200), rfl⟩
      | some user =>
        exact .inr ⟨user, (s.sessions.isLocked username c.now).2.clearFailures username, rfl, rfl,
          rfl, rfl⟩

/-- A login opens its session, or leaves the sessions alone. -/
theorem login_sessions (username password : String) :
    ∃ store : MemorySessionStore, store.sessions = s.sessions.sessions ∧
      (s.login X c username password).2 =
        (s.loginEvent X c username password).elim store (SessionEvent.apply store) := by
  unfold AdminRouter.loginEvent
  rcases login_cases username password with
    ⟨hstatus, hsame⟩ | ⟨user, store, huser, hstatus, hsame, h⟩
  · rw [if_neg hstatus]
    exact ⟨_, hsame, rfl⟩
  · rw [if_pos hstatus, huser]
    exact ⟨store, hsame, h⟩

theorem sweep_sessions {token : Option String} {request : ApiRequest} {reply : Reply}
    {store : MemorySessionStore} (htoken : sessionCookie X.toPackages c.headers = token) :
    AdminRouter.sweep token request reply store =
      (AdminRouter.apiEvent X c reply request).elim store (SessionEvent.apply store) := by
  cases request with
  | logout =>
    rw [AdminRouter.sweep, AdminRouter.apiEvent, htoken]
    cases token with
    | none => rfl
    | some token => rfl
  | disableUser id =>
    rw [AdminRouter.sweep, AdminRouter.apiEvent]
    split_ifs
    · rfl
    · rfl
  | resetPassword id password =>
    rw [AdminRouter.sweep, AdminRouter.apiEvent]
    split_ifs
    · rfl
    · rfl
  | _ => rfl

/-- **What a request does to the sessions.** -/
theorem handle_sessions : ∃ store : MemorySessionStore, store.Prunes c.now s.sessions ∧
    (s.handle X c).2.sessions = (s.event X c).elim store (SessionEvent.apply store) := by
  unfold AdminRouter.handle AdminRouter.event
  cases c.request with
  | login username password =>
    obtain ⟨store, hsame, hlogin⟩ := login_sessions username password
    exact ⟨store, prunes_of_eq hsame, hlogin⟩
  | api request =>
    have hprunes : (s.session X c).2.Prunes c.now s.sessions := session_prunes
    dsimp only
    generalize s.session X c = out at hprunes
    obtain ⟨identity, store⟩ := out
    refine ⟨store, hprunes, ?_⟩
    cases identity with
    | none => rfl
    | some identity => exact sweep_sessions rfl

/-! ## History -/

/-- The history opened this session and has not ended it since, its time apart. -/
def Standing (history : List SessionEvent) (token : String) (session : MemorySession) : Prop :=
  ∃ pre at_ post, history = pre ++ .opened token session.identity at_ :: post ∧
    session.expiresAt = at_ + sessionTtl ∧ ∀ event ∈ post, ¬ event.Ends token session.identity

theorem standing_append {history : List SessionEvent} {event : SessionEvent} {token : String}
    {session : MemorySession} : Standing (history ++ [event]) token session ↔
      (∃ at_, event = .opened token session.identity at_ ∧
        session.expiresAt = at_ + sessionTtl) ∨
      Standing history token session ∧ ¬ event.Ends token session.identity := by
  constructor
  · rintro ⟨pre, at_, post, hhistory, hexpires, hpost⟩
    rcases List.eq_nil_or_concat post with rfl | ⟨post, last, rfl⟩
    · obtain ⟨-, hlast⟩ := List.append_inj' hhistory rfl
      exact .inl ⟨at_, (List.cons.inj hlast).1, hexpires⟩
    · have hsplit : history ++ [event] =
          (pre ++ .opened token session.identity at_ :: post) ++ [last] := by
        rw [hhistory]
        simp
      obtain ⟨rfl, hlast⟩ := List.append_inj' hsplit rfl
      obtain rfl : event = last := (List.cons.inj hlast).1
      exact .inr ⟨⟨pre, at_, post, rfl, hexpires, fun e he => hpost e (by simp [he])⟩,
        hpost event (by simp)⟩
  · rintro (⟨at_, rfl, hexpires⟩ | ⟨⟨pre, at_, post, rfl, hexpires, hpost⟩, hevent⟩)
    · exact ⟨history, at_, [], rfl, hexpires, by simp⟩
    · refine ⟨pre, at_, post ++ [event], by simp, hexpires, fun e he => ?_⟩
      rcases List.mem_append.1 he with he | he
      · exact hpost e he
      · rw [List.mem_singleton.1 he]
        exact hevent

/-- The sessions are those that stand, but for some that have expired. -/
structure AdminRouter.Recorded (s : AdminRouter) (history : List SessionEvent) : Prop where
  standing : ∀ token session, s.sessions.sessions.lookup token = some session →
    Standing history token session
  live : ∀ token session, Standing history token session → s.now < session.expiresAt →
    s.sessions.sessions.lookup token = some session

/-- A session is there after an event if the event opened it, or did not end it. -/
theorem apply_lookup {store : MemorySessionStore} {event : SessionEvent} {token : String}
    {session : MemorySession} : (event.apply store).sessions.lookup token = some session ↔
      (∃ at_, event = .opened token session.identity at_ ∧
        session.expiresAt = at_ + sessionTtl) ∨
      store.sessions.lookup token = some session ∧ ¬ event.Ends token session.identity := by
  cases event with
  | opened token' identity at_ =>
    rw [SessionEvent.apply, MemorySessionStore.openSession]
    by_cases htoken : token = token'
    · subst htoken
      rw [Finmap.lookup_insert, Option.some.injEq]
      constructor
      · rintro rfl
        exact .inl ⟨at_, rfl, rfl⟩
      · rintro (⟨_, hevent, hexpires⟩ | ⟨-, hends⟩)
        · cases hevent
          rw [← hexpires]
        · exact absurd rfl hends
    · rw [Finmap.lookup_insert_of_ne _ htoken]
      constructor
      · exact fun h => .inr ⟨h, fun h => htoken h.symm⟩
      · rintro (⟨_, hevent, -⟩ | ⟨h, -⟩)
        · cases hevent
          exact absurd rfl htoken
        · exact h
  | closed token' =>
    rw [SessionEvent.apply, MemorySessionStore.remove]
    by_cases htoken : token = token'
    · subst htoken
      rw [Finmap.lookup_erase]
      refine iff_of_false (Option.some_ne_none _).symm ?_
      rintro (⟨_, hevent, -⟩ | ⟨-, hends⟩)
      · cases hevent
      · exact hends rfl
    · rw [Finmap.lookup_erase_ne htoken]
      constructor
      · exact fun h => .inr ⟨h, fun h => htoken h.symm⟩
      · rintro (⟨_, hevent, -⟩ | ⟨h, -⟩)
        · cases hevent
        · exact h
  | swept userId =>
    rw [SessionEvent.apply, MemorySessionStore.removeUser, Maps.lookup_retain,
      Option.filter_eq_some_iff]
    constructor
    · rintro ⟨h, hkept⟩
      exact .inr ⟨h, fun h => of_decide_eq_true hkept h.symm⟩
    · rintro (⟨_, hevent, -⟩ | ⟨h, hends⟩)
      · cases hevent
      · exact ⟨h, decide_eq_true fun h => hends h.symm⟩

theorem handle_now : (s.handle X c).2.now = c.now := by
  unfold AdminRouter.handle
  cases c.request with
  | login username password => rfl
  | api request =>
    dsimp only
    generalize s.session X c = out
    obtain ⟨identity, store⟩ := out
    cases identity with
    | none => rfl
    | some identity => rfl

theorem AdminRouter.step_recorded {history : List SessionEvent} (h : s.Recorded history)
    (hs : s.step X c = some s') : s'.Recorded (history ++ (s.event X c).toList) := by
  unfold AdminRouter.step at hs
  split_ifs at hs with hnow
  cases hs
  obtain ⟨store, hprunes, hsessions⟩ := handle_sessions (X := X) (s := s) (c := c)
  have hstanding (token : String) (session : MemorySession)
      (hlookup : store.sessions.lookup token = some session) : Standing history token session :=
    h.standing _ _ (hprunes.old _ _ hlookup)
  have hlive (token : String) (session : MemorySession) (hstands : Standing history token session)
      (hlate : c.now < session.expiresAt) : store.sessions.lookup token = some session :=
    hprunes.kept _ _ (h.live _ _ hstands (hnow.trans_lt hlate)) hlate
  cases hevent : s.event X c with
  | none =>
    rw [hevent] at hsessions
    rw [Option.toList_none, List.append_nil]
    constructor
    · rw [hsessions]
      exact hstanding
    · rw [hsessions, handle_now]
      exact hlive
  | some event =>
    rw [hevent] at hsessions
    constructor
    · intro token session hlookup
      rw [hsessions] at hlookup
      refine standing_append.2 ((apply_lookup.1 hlookup).imp_right fun ⟨hold, hends⟩ => ?_)
      exact ⟨hstanding _ _ hold, hends⟩
    · intro token session hstands hlate
      rw [hsessions]
      rw [handle_now] at hlate
      refine apply_lookup.2 ((standing_append.1 hstands).imp_right fun ⟨hold, hends⟩ => ?_)
      exact ⟨hlive _ _ hold hlate, hends⟩

/-- **The sessions are the history.** After any run of requests, one after another, to a gateway
that has started, a token stands for an identity exactly while there was a login that opened a
session of the identity with the token, less than the TTL ago, and since then no login drew the
token, no logout had it, and no request disabled the user or reset the password. -/
theorem sessions_are_history {w : Backend} {lockout start : Nat} {tr : List RouterCall}
    (h : Steps (AdminRouter.step X) (.init w lockout start) tr s) (token : String)
    (identity : SessionIdentity) {now : Nat} (hnow : s.now ≤ now) :
    (s.sessions.get token now).1 = some identity ↔
      ∃ pre at_ post, (AdminRouter.init w lockout start).history X tr =
          pre ++ .opened token identity at_ :: post ∧ now < at_ + sessionTtl ∧
        ∀ event ∈ post, ¬ event.Ends token identity := by
  have hrecorded : s.Recorded ((AdminRouter.init w lockout start).history X tr) := by
    refine h.inv_observe (I := AdminRouter.Recorded) ?_ fun _ _ _ _ hu _ hs =>
      AdminRouter.step_recorded hu hs
    refine ⟨fun token session hlookup => ?_, fun token session hstands => ?_⟩
    · cases (Finmap.lookup_empty token).symm.trans hlookup
    · obtain ⟨pre, at_, post, hhistory, -⟩ := hstands
      simp at hhistory
  constructor
  · intro hget
    unfold MemorySessionStore.get at hget
    split at hget
    · rename_i session hlookup
      split_ifs at hget with hlive
      cases hget
      obtain ⟨pre, at_, post, hhistory, hexpires, hpost⟩ := hrecorded.standing _ _ hlookup
      exact ⟨pre, at_, post, hhistory, hexpires ▸ hlive, hpost⟩
    · cases hget
  · rintro ⟨pre, at_, post, hhistory, hlive, hpost⟩
    have hlookup := hrecorded.live token ⟨identity, at_ + sessionTtl⟩
      ⟨pre, at_, post, hhistory, rfl, hpost⟩ (hnow.trans_lt hlive)
    unfold MemorySessionStore.get
    rw [hlookup]
    dsimp only
    rw [if_pos hlive]

def secondLogin : RouterCall := { sampleLogin with now := 4, token := "w" }

/-- The admin leaves the first session. -/
def firstLogout : RouterCall := { sampleCreate with now := 5, request := .api .logout }

def annDisabled : RouterCall where
  headers := [("cookie", Text.asBytes "lite_agentify_admin=w")]
  now := 6
  token := "u"
  draws := sampleContext.draws
  faults := sampleContext.faults
  file := sampleContext.file
  request := .api (.disableUser 20)

def threeLogins : List RouterCall :=
  [sampleLogin, sampleCreate, annLogin, annKey, secondLogin, firstLogout, annDisabled]

/-- The history of the three logins opened this session and has not ended it. -/
def StandsAfter (w : Backend) (token : String) (identity : SessionIdentity) (now : Nat) : Prop :=
  ∃ pre at_ post, (AdminRouter.init w 60000 0).history anyPassword threeLogins =
      pre ++ .opened token identity at_ :: post ∧ now < at_ + sessionTtl ∧
    ∀ event ∈ post, ¬ event.Ends token identity

/-- A millisecond before its TTL has passed, the admin's second session is the one that is left. -/
theorem sessions_are_history_sample : ∃ w s,
    sampleDown.step anyPassword (.boot sampleBoot) = some (.up w) ∧
    Steps (AdminRouter.step anyPassword) (.init w 60000 0) threeLogins s ∧
    StandsAfter w "w" ⟨1, "admin", .admin⟩ 86400003 ∧
    ¬ StandsAfter w "t" ⟨1, "admin", .admin⟩ 7 ∧ ¬ StandsAfter w "v" ⟨20, "ann", .user⟩ 7 := by
  obtain ⟨w, s, hboot, hexec, hnow, hw, ht, hv⟩ : ∃ w s,
      sampleDown.step anyPassword (.boot sampleBoot) = some (.up w) ∧
      exec (AdminRouter.step anyPassword) (.init w 60000 0) threeLogins = some s ∧ s.now = 6 ∧
      (s.sessions.get "w" 86400003).1 = some ⟨1, "admin", .admin⟩ ∧
      (s.sessions.get "t" 7).1 = none ∧ (s.sessions.get "v" 7).1 = none :=
    ⟨_, _, rfl, rfl, rfl, rfl, rfl, rfl⟩
  have hrun := steps_of_exec hexec
  have hlater : s.now ≤ 7 := by rw [hnow]; decide
  refine ⟨w, s, hboot, hrun,
    (sessions_are_history hrun "w" ⟨1, "admin", .admin⟩ (by rw [hnow]; decide)).1 hw,
    fun hstands => ?_, fun hstands => ?_⟩
  · cases ht.symm.trans ((sessions_are_history hrun "t" ⟨1, "admin", .admin⟩ hlater).2 hstands)
  · cases hv.symm.trans ((sessions_are_history hrun "v" ⟨20, "ann", .user⟩ hlater).2 hstands)

/-! ## Authority -/

/-- The identity is that of a stored, active user. -/
def AdminApi.Backend.Recognizes (w : Backend) (identity : SessionIdentity) : Prop :=
  ∃ user, w.users.find identity.userId = some user ∧ user.username = identity.username ∧
    user.role = identity.role ∧ user.status = .active

theorem AdminApi.KeyWrite.status {P : Packages} {c : Context} {users users' : Users}
    {keys keys' : Keys} {request : ApiRequest} {id : Uuid} {user : UserModel}
    (h : KeyWrite P c users keys request users' keys') (huser : users.find id = some user) :
    ∃ user', users'.find id = some user' ∧ (user'.status = user.status ∨
      user'.status = .active ∨ request = .disableUser id) := by
  cases h with
  | insert => exact ⟨user, huser, .inl rfl⟩
  | limits => exact ⟨user, huser, .inl rfl⟩
  | revoke => exact ⟨user, huser, .inl rfl⟩
  | @disable id' =>
    obtain ⟨user', hfind, hstatus | ⟨rfl, -⟩⟩ := withStatus_status huser id' .disabled
    · exact ⟨user', hfind, .inl hstatus⟩
    · exact ⟨user', hfind, .inr (.inr rfl)⟩
  | @enable id' =>
    obtain ⟨user', hfind, hstatus | ⟨-, hstatus⟩⟩ := withStatus_status huser id' .active
    · exact ⟨user', hfind, .inl hstatus⟩
    · exact ⟨user', hfind, .inr (.inl hstatus)⟩

/-- Everyone behind a session is recognized. -/
def AdminRouter.Authentic (s : AdminRouter) : Prop :=
  ∀ token session, s.sessions.sessions.lookup token = some session →
    s.backend.Recognizes session.identity

end

end LiteAgentify
