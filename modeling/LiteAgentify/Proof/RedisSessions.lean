import LiteAgentify.Admin.RedisSession
import LiteAgentify.Lib.Mealy

/-!
# Redis sessions are memory sessions

The two session stores in step with each other: Redis has a session exactly when the memory store
has it unexpired, and each such session is in the index of its user, which does not expire before it
(`SameSessions`). So every `get` is answered alike (`redis_sessions_agree`).
-/

set_option autoImplicit false

namespace LiteAgentify

/-- The tokens that are opened, with their users. -/
def openedBy (calls : List SessionCall) : List (String × Uuid) :=
  calls.filterMap fun c =>
    match c.op with
    | .openSession token identity => some (token, identity.userId)
    | _ => none

/-- Calls one after another, on payloads that `serde_json` reads as it wrote them; no token is
drawn twice. -/
structure SessionHistory (json : SessionJson) (calls : List SessionCall) : Prop where
  sorted : calls.Pairwise (·.now ≤ ·.now)
  fresh : ((openedBy calls).map Prod.fst).Nodup
  readable : ∀ c ∈ calls, ∀ token identity, c.op = .openSession token identity →
    json.fromStr (json.toString identity) = some identity

theorem SessionHistory.left {json : SessionJson} {calls calls' : List SessionCall}
    (h : SessionHistory json (calls ++ calls')) : SessionHistory json calls where
  sorted := (List.pairwise_append.1 h.sorted).1
  fresh := by
    have hfresh := h.fresh
    rw [openedBy, List.filterMap_append, List.map_append] at hfresh
    exact hfresh.of_append_left
  readable := fun c hc => h.readable c (List.mem_append_left _ hc)

/-! ## What a login leaves in Redis -/

namespace RedisSessionStore

variable (json : SessionJson) {redis : Redis} (lockout : Nat) {token token' : String}
  {identity : SessionIdentity} {userId : Uuid} {secs now now' : Nat}

theorem asSecs_mul : asSecs (1000 * secs) = secs := Nat.mul_div_cancel_left secs (by decide)

theorem find_openSession_self (hsecs : 0 < secs) :
    (openSession json ⟨redis, lockout⟩ token identity (1000 * secs) now).redis.find now'
        (sessionKey token) =
      (some ⟨.text (json.toString identity), some (now + 1000 * secs)⟩ :
        Option (KeySpace.Entry String String)).filter (·.live now') := by
  simp only [openSession, asSecs_mul]
  rw [KeySpace.expire, KeySpace.find_update_ne (sessionKey_ne _ _), KeySpace.sadd,
    KeySpace.find_update_ne (sessionKey_ne _ _), KeySpace.setEx, KeySpace.find_update_self,
    if_neg (Nat.pos_iff_ne_zero.1 hsecs)]

theorem find_openSession_ne (h : token' ≠ token) :
    (openSession json ⟨redis, lockout⟩ token identity (1000 * secs) now).redis.find now'
      (sessionKey token') = redis.find now' (sessionKey token') := by
  simp only [openSession, asSecs_mul]
  rw [KeySpace.expire, KeySpace.find_update_ne (sessionKey_ne _ _), KeySpace.sadd,
    KeySpace.find_update_ne (sessionKey_ne _ _), KeySpace.setEx,
    KeySpace.find_update_ne fun heq => h (sessionKey_inj.1 heq)]

theorem find_openSession_index_ne (h : userId ≠ identity.userId) :
    (openSession json ⟨redis, lockout⟩ token identity (1000 * secs) now).redis.find now'
      (userSessionsKey userId) = redis.find now' (userSessionsKey userId) := by
  have hkey : userSessionsKey userId ≠ userSessionsKey identity.userId :=
    fun heq => h (userSessionsKey_inj.1 heq)
  simp only [openSession, asSecs_mul]
  rw [KeySpace.expire, KeySpace.find_update_ne hkey, KeySpace.sadd, KeySpace.find_update_ne hkey,
    KeySpace.setEx, KeySpace.find_update_ne (sessionKey_ne _ _).symm]

theorem find_openSession_index (hsecs : 0 < secs)
    (hset : ∀ userId e, redis.find now (userSessionsKey userId) = some e →
      ∃ tokens deadline, e = ⟨.members tokens, deadline⟩) :
    ∃ tokens, (openSession json ⟨redis, lockout⟩ token identity (1000 * secs) now).redis.find now
        (userSessionsKey identity.userId) = some ⟨.members tokens, some (now + 1000 * secs)⟩ ∧
      ∀ token', token' ∈ tokens ↔
        token' = token ∨ token' ∈ redis.smembers now (userSessionsKey identity.userId) := by
  have hfound : (redis.setEx now (sessionKey token) (json.toString identity) secs).find now
      (userSessionsKey identity.userId) = redis.find now (userSessionsKey identity.userId) :=
    KeySpace.find_update_ne (sessionKey_ne _ _).symm
  obtain ⟨tokens, hfind, hmem⟩ := KeySpace.find_sadd (m := token) fun e he =>
    hset identity.userId e (hfound ▸ he)
  refine ⟨tokens, ?_, fun token' => ?_⟩
  · simp only [openSession, asSecs_mul]
    rw [KeySpace.expire, KeySpace.find_update_self, hfind]
    refine if_pos ?_
    show decide (now < now + 1000 * secs) = true
    rw [decide_eq_true_iff]
    omega
  · rw [hmem, KeySpace.smembers, KeySpace.smembers, hfound]

end RedisSessionStore

/-! ## Stores in step -/

/-- What Redis holds for a session. -/
def sessionEntry (json : SessionJson) (session : MemorySession) : KeySpace.Entry String String :=
  ⟨.text (json.toString session.identity), some session.expiresAt⟩

/-- The stores agree at this time. -/
structure SameSessions (json : SessionJson) (ttl now : Nat) (opened : List (String × Uuid))
    (redis : Redis) (sessions : HashMap String MemorySession) : Prop where
  held : ∀ token, redis.find now (sessionKey token) =
    ((sessions.lookup token).filter (now < ·.expiresAt)).map (sessionEntry json)
  readable : ∀ token session, sessions.lookup token = some session →
    json.fromStr (json.toString session.identity) = some session.identity
  owner : ∀ token session, sessions.lookup token = some session →
    (token, session.identity.userId) ∈ opened
  within : ∀ token session, sessions.lookup token = some session → session.expiresAt ≤ now + ttl
  indexes : ∀ userId e, redis.find now (userSessionsKey userId) = some e →
    ∃ tokens deadline, e = ⟨.members tokens, some deadline⟩ ∧
      ∀ token ∈ tokens, (token, userId) ∈ opened
  indexed : ∀ token session, sessions.lookup token = some session → now < session.expiresAt →
    ∃ tokens deadline, redis.find now (userSessionsKey session.identity.userId) =
      some ⟨.members tokens, some deadline⟩ ∧ token ∈ tokens ∧ session.expiresAt ≤ deadline

namespace SameSessions

variable {json : SessionJson} {ttl now now' : Nat} {opened : List (String × Uuid)} {redis : Redis}
  {sessions : HashMap String MemorySession} {token : String} {userId : Uuid}

theorem empty : SameSessions json ttl now opened ∅ ∅ where
  held := fun _ => rfl
  readable := fun _ _ h => nomatch h
  owner := fun _ _ h => nomatch h
  within := fun _ _ h => nomatch h
  indexes := fun _ _ h => nomatch h
  indexed := fun _ _ h => nomatch h

theorem later (h : SameSessions json ttl now opened redis sessions) (hle : now ≤ now') :
    SameSessions json ttl now' opened redis sessions where
  held := fun token => by
    rw [KeySpace.find_later hle, h.held]
    cases sessions.lookup token with
    | none => rfl
    | some session =>
      by_cases hlater : now' < session.expiresAt
      · have hnow : now < session.expiresAt := by omega
        simp [Option.filter_some, hlater, hnow, sessionEntry]
      · by_cases hnow : now < session.expiresAt
        · simp [Option.filter_some, hlater, hnow, sessionEntry]
        · simp [Option.filter_some, hlater, hnow]
  readable := h.readable
  owner := h.owner
  within := fun token session hs => (h.within token session hs).trans (by omega)
  indexes := fun userId e he => by
    rw [KeySpace.find_later hle, Option.filter_eq_some_iff] at he
    exact h.indexes userId e he.1
  indexed := fun token session hs hlater => by
    obtain ⟨tokens, deadline, hfind, hmem, hdeadline⟩ := h.indexed token session hs (by omega)
    refine ⟨tokens, deadline, ?_, hmem, hdeadline⟩
    rw [KeySpace.find_later hle, hfind, Option.filter_some, if_pos]
    rw [KeySpace.Entry.live_some, decide_eq_true_iff]
    omega

theorem isSet (h : SameSessions json ttl now opened redis sessions) (userId : Uuid)
    (e : KeySpace.Entry String String) (he : redis.find now (userSessionsKey userId) = some e) :
    ∃ tokens deadline, e = ⟨.members tokens, deadline⟩ := by
  obtain ⟨tokens, deadline, rfl, -⟩ := h.indexes userId e he
  exact ⟨tokens, some deadline, rfl⟩

theorem smembers_opened (h : SameSessions json ttl now opened redis sessions)
    (hmem : token ∈ redis.smembers now (userSessionsKey userId)) : (token, userId) ∈ opened := by
  obtain ⟨tokens, deadline, hfind, hin⟩ := KeySpace.mem_smembers.1 hmem
  obtain ⟨tokens', deadline', heq, hopened⟩ := h.indexes userId _ hfind
  cases heq
  exact hopened token hin

/-- What `get` answers. -/
theorem get_eq (h : SameSessions json ttl now opened redis sessions) (lockout : Nat)
    (limiter : LoginLimiter) :
    RedisSessionStore.get json ⟨redis, lockout⟩ token now =
      (MemorySessionStore.get ⟨sessions, limiter⟩ token now).1 := by
  unfold RedisSessionStore.get MemorySessionStore.get KeySpace.get
  rw [h.held]
  cases hs : sessions.lookup token with
  | none => rfl
  | some session =>
    by_cases hnow : now < session.expiresAt
    · simp [Option.filter_some, hnow, sessionEntry, h.readable token session hs]
    · simp [Option.filter_some, hnow]

theorem lookup_erase {token' : String} {session : MemorySession}
    (hs : (sessions.erase token).lookup token' = some session) :
    token' ≠ token ∧ sessions.lookup token' = some session := by
  by_cases htoken : token' = token
  · subst htoken
    rw [Finmap.lookup_erase] at hs
    cases hs
  · rw [Finmap.lookup_erase_ne htoken] at hs
    exact ⟨htoken, hs⟩

/-- A lookup that drops what has expired keeps the stores in step. -/
theorem erase_expired (h : SameSessions json ttl now opened redis sessions)
    {session : MemorySession} (hs : sessions.lookup token = some session)
    (hexpired : ¬ now < session.expiresAt) :
    SameSessions json ttl now opened redis (sessions.erase token) := by
  refine ⟨fun token' => ?_,
    fun token' session' hs' => h.readable token' session' (lookup_erase hs').2,
    fun token' session' hs' => h.owner token' session' (lookup_erase hs').2,
    fun token' session' hs' => h.within token' session' (lookup_erase hs').2, h.indexes,
    fun token' session' hs' => h.indexed token' session' (lookup_erase hs').2⟩
  rw [h.held]
  by_cases htoken : token' = token
  · subst htoken
    rw [hs, Finmap.lookup_erase]
    simp only [Option.filter_some, hexpired, decide_false, Bool.false_eq_true, if_false,
      Option.map_none, Option.filter_none]
  · rw [Finmap.lookup_erase_ne htoken]

theorem get_step (h : SameSessions json ttl now opened redis sessions) (limiter : LoginLimiter) :
    SameSessions json ttl now opened redis
      (MemorySessionStore.get ⟨sessions, limiter⟩ token now).2.sessions := by
  unfold MemorySessionStore.get
  cases hs : sessions.lookup token with
  | none => exact h
  | some session =>
    dsimp only
    split
    · exact h
    · rename_i hexpired
      exact h.erase_expired hs hexpired

/-- A login. -/
theorem open_step {secs : Nat} (h : SameSessions json (1000 * secs) now opened redis sessions)
    (hsecs : 0 < secs) {identity : SessionIdentity}
    (hjson : json.fromStr (json.toString identity) = some identity) (lockout : Nat) :
    SameSessions json (1000 * secs) now (opened ++ [(token, identity.userId)])
      (RedisSessionStore.openSession json ⟨redis, lockout⟩ token identity (1000 * secs) now).redis
      (sessions.insert token ⟨identity, now + 1000 * secs⟩) := by
  obtain ⟨tokens, hindex, hmem⟩ := @RedisSessionStore.find_openSession_index json redis lockout
    token identity secs now hsecs h.isSet
  have hlookup : ∀ {token' : String} {session' : MemorySession},
      (sessions.insert token ⟨identity, now + 1000 * secs⟩).lookup token' = some session' →
        (token' = token ∧ session' = ⟨identity, now + 1000 * secs⟩) ∨
          (token' ≠ token ∧ sessions.lookup token' = some session') := by
    intro token' session' hs'
    by_cases htoken : token' = token
    · subst htoken
      rw [Finmap.lookup_insert] at hs'
      cases hs'
      exact .inl ⟨rfl, rfl⟩
    · rw [Finmap.lookup_insert_of_ne _ htoken] at hs'
      exact .inr ⟨htoken, hs'⟩
  constructor
  case held =>
    intro token'
    by_cases htoken : token' = token
    · subst htoken
      rw [RedisSessionStore.find_openSession_self json lockout hsecs, Finmap.lookup_insert]
      have hlater : now < now + 1000 * secs := by omega
      simp [Option.filter_some, hlater, sessionEntry]
    · rw [RedisSessionStore.find_openSession_ne json lockout htoken, h.held,
        Finmap.lookup_insert_of_ne _ htoken]
  case readable =>
    intro token' session' hs'
    rcases hlookup hs' with ⟨-, rfl⟩ | ⟨-, hs'⟩
    · exact hjson
    · exact h.readable token' session' hs'
  case owner =>
    intro token' session' hs'
    rw [List.mem_append, List.mem_singleton]
    rcases hlookup hs' with ⟨rfl, rfl⟩ | ⟨-, hs'⟩
    · exact .inr rfl
    · exact .inl (h.owner token' session' hs')
  case within =>
    intro token' session' hs'
    rcases hlookup hs' with ⟨-, rfl⟩ | ⟨-, hs'⟩
    · exact le_refl _
    · exact h.within token' session' hs'
  case indexes =>
    intro userId' e he
    by_cases huser : userId' = identity.userId
    · subst huser
      rw [hindex] at he
      cases he
      refine ⟨tokens, _, rfl, fun token' htoken' => ?_⟩
      rw [List.mem_append, List.mem_singleton]
      rcases (hmem token').1 htoken' with rfl | hold
      · exact .inr rfl
      · exact .inl (h.smembers_opened hold)
    · rw [RedisSessionStore.find_openSession_index_ne json lockout huser] at he
      obtain ⟨tokens', deadline, rfl, hopened⟩ := h.indexes userId' e he
      exact ⟨tokens', deadline, rfl, fun token' htoken' =>
        List.mem_append_left _ (hopened token' htoken')⟩
  case indexed =>
    intro token' session' hs' hlive
    rcases hlookup hs' with ⟨rfl, rfl⟩ | ⟨htoken, hs'⟩
    · exact ⟨tokens, _, hindex, (hmem token').2 (.inl rfl), le_refl _⟩
    · by_cases huser : session'.identity.userId = identity.userId
      · obtain ⟨tokens', deadline, hfind, hin, -⟩ := h.indexed token' session' hs' hlive
        rw [huser] at hfind ⊢
        exact ⟨tokens, _, hindex,
          (hmem token').2 (.inr (KeySpace.mem_smembers.2 ⟨tokens', _, hfind, hin⟩)),
          h.within token' session' hs'⟩
      · rw [RedisSessionStore.find_openSession_index_ne json lockout huser]
        exact h.indexed token' session' hs' hlive

/-- The session is deleted in both stores, but not yet in the index. -/
theorem del_step (h : SameSessions json ttl now opened redis sessions) :
    SameSessions json ttl now opened (redis.del now (sessionKey token))
      (sessions.erase token) where
  held := fun token' => by
    by_cases htoken : token' = token
    · subst htoken
      rw [KeySpace.del, KeySpace.find_update_self, Finmap.lookup_erase]
      rfl
    · rw [KeySpace.del, KeySpace.find_update_ne fun heq => htoken (sessionKey_inj.1 heq), h.held,
        Finmap.lookup_erase_ne htoken]
  readable := fun token' session hs => h.readable token' session (lookup_erase hs).2
  owner := fun token' session hs => h.owner token' session (lookup_erase hs).2
  within := fun token' session hs => h.within token' session (lookup_erase hs).2
  indexes := fun userId e he => by
    rw [KeySpace.del, KeySpace.find_update_ne (sessionKey_ne _ _).symm] at he
    exact h.indexes userId e he
  indexed := fun token' session hs hlive => by
    rw [KeySpace.del, KeySpace.find_update_ne (sessionKey_ne _ _).symm]
    exact h.indexed token' session (lookup_erase hs).2 hlive

/-- A token that has no session leaves an index. -/
theorem srem_step (h : SameSessions json ttl now opened redis sessions)
    (hnone : sessions.lookup token = none) :
    SameSessions json ttl now opened (redis.srem now (userSessionsKey userId) token) sessions where
  held := fun token' => by
    rw [KeySpace.srem, KeySpace.find_update_ne (sessionKey_ne _ _), h.held]
  readable := h.readable
  owner := h.owner
  within := h.within
  indexes := fun userId' e he => by
    by_cases huser : userId' = userId
    · subst huser
      rcases KeySpace.of_find_srem he with he | ⟨tokens, deadline, hfind, rfl⟩
      · exact h.indexes userId' e he
      · obtain ⟨tokens', deadline', heq, hopened⟩ := h.indexes userId' _ hfind
        cases heq
        exact ⟨_, deadline', rfl, fun token' hmem => hopened token' (List.mem_of_mem_filter hmem)⟩
    · rw [KeySpace.srem,
        KeySpace.find_update_ne fun heq => huser (userSessionsKey_inj.1 heq)] at he
      exact h.indexes userId' e he
  indexed := fun token' session hs hlive => by
    obtain ⟨tokens, deadline, hfind, hmem, hdeadline⟩ := h.indexed token' session hs hlive
    by_cases huser : session.identity.userId = userId
    · have hne : token' ≠ token := by
        rintro rfl
        rw [hnone] at hs
        cases hs
      rw [huser] at hfind ⊢
      exact ⟨_, deadline, KeySpace.find_srem hfind hmem hne,
        List.mem_filter.2 ⟨hmem, decide_eq_true hne⟩, hdeadline⟩
    · rw [KeySpace.srem,
        KeySpace.find_update_ne fun heq => huser (userSessionsKey_inj.1 heq)]
      exact ⟨tokens, deadline, hfind, hmem, hdeadline⟩

/-- A logout. -/
theorem remove_step (h : SameSessions json ttl now opened redis sessions) (lockout : Nat) :
    SameSessions json ttl now opened
      (RedisSessionStore.remove json ⟨redis, lockout⟩ token now).redis (sessions.erase token) := by
  simp only [RedisSessionStore.remove]
  split
  · exact h.del_step.srem_step (Finmap.lookup_erase _ _)
  · exact h.del_step

/-- All sessions of a user are removed. -/
theorem removeUser_step (h : SameSessions json ttl now opened redis sessions)
    (hfresh : (opened.map Prod.fst).Nodup) (lockout : Nat) :
    SameSessions json ttl now opened
      (RedisSessionStore.removeUser ⟨redis, lockout⟩ userId now).redis
      (Maps.retain (fun _ session => session.identity.userId ≠ userId) sessions) := by
  have howner : ∀ {token : String} {session : MemorySession},
      sessions.lookup token = some session → (token, userId) ∈ opened →
        session.identity.userId = userId := fun {token session} hs hmem =>
    congrArg Prod.snd (List.inj_on_of_nodup_map hfresh (h.owner token session hs) hmem rfl)
  have hsession : ∀ token,
      (RedisSessionStore.removeUser ⟨redis, lockout⟩ userId now).redis.find now (sessionKey token) =
        if token ∈ redis.smembers now (userSessionsKey userId) then none
        else redis.find now (sessionKey token) := by
    intro token
    rw [RedisSessionStore.removeUser, KeySpace.del, KeySpace.find_update_ne (sessionKey_ne _ _),
      KeySpace.find_del_all]
    refine if_congr ?_ rfl rfl
    rw [List.mem_map]
    constructor
    · rintro ⟨token', hmem, heq⟩
      exact sessionKey_inj.1 heq ▸ hmem
    · exact fun hmem => ⟨token, hmem, rfl⟩
  have hindex : ∀ userId', userId' ≠ userId →
      (RedisSessionStore.removeUser ⟨redis, lockout⟩ userId now).redis.find now
        (userSessionsKey userId') = redis.find now (userSessionsKey userId') := by
    intro userId' hne
    rw [RedisSessionStore.removeUser, KeySpace.del,
      KeySpace.find_update_ne fun heq => hne (userSessionsKey_inj.1 heq), KeySpace.find_del_all,
      if_neg]
    rw [List.mem_map]
    rintro ⟨token, -, heq⟩
    exact sessionKey_ne _ _ heq
  have hlookup : ∀ {token : String} {session : MemorySession},
      (Maps.retain (fun _ session => session.identity.userId ≠ userId) sessions).lookup token =
        some session → sessions.lookup token = some session ∧ session.identity.userId ≠ userId := by
    intro token session hs
    rw [Maps.lookup_retain, Option.filter_eq_some_iff, decide_eq_true_iff] at hs
    exact hs
  constructor
  case held =>
    intro token
    rw [hsession, Maps.lookup_retain, h.held]
    cases hs : sessions.lookup token with
    | none => simp
    | some session =>
      by_cases huser : session.identity.userId = userId
      · -- a live session of the user is in the index
        by_cases hlive : now < session.expiresAt
        · obtain ⟨tokens, deadline, hfind, hmem, -⟩ := h.indexed token session hs hlive
          rw [huser] at hfind
          rw [if_pos (KeySpace.mem_smembers.2 ⟨tokens, _, hfind, hmem⟩)]
          simp [Option.filter_some, huser]
        · simp [Option.filter_some, huser, hlive]
      · rw [if_neg fun hmem => huser (howner hs (h.smembers_opened hmem))]
        simp [Option.filter_some, huser]
  case readable => exact fun token session hs => h.readable token session (hlookup hs).1
  case owner => exact fun token session hs => h.owner token session (hlookup hs).1
  case within => exact fun token session hs => h.within token session (hlookup hs).1
  case indexes =>
    intro userId' e he
    by_cases huser : userId' = userId
    · subst huser
      rw [RedisSessionStore.removeUser, KeySpace.del, KeySpace.find_update_self] at he
      cases he
    · rw [hindex userId' huser] at he
      exact h.indexes userId' e he
  case indexed =>
    intro token session hs hlive
    obtain ⟨hs, huser⟩ := hlookup hs
    rw [hindex _ huser]
    exact h.indexed token session hs hlive

end SameSessions

/-! ## Histories -/

section
variable {json : SessionJson} {secs : Nat} {calls : List SessionCall}

theorem openedBy_append (calls calls' : List SessionCall) :
    openedBy (calls ++ calls') = openedBy calls ++ openedBy calls' := List.filterMap_append

/-- One call keeps the stores in step, and is answered alike. -/
theorem SameSessions.call {redis : RedisSessionStore} {memory : MemorySessionStore}
    {c : SessionCall} (hsecs : 0 < secs) (hhistory : SessionHistory json (calls ++ [c]))
    (h : SameSessions json (1000 * secs) c.now (openedBy calls) redis.redis memory.sessions) :
    (redis.callSession json (1000 * secs) c).1 = (memory.callSession (1000 * secs) c).1 ∧
      SameSessions json (1000 * secs) c.now (openedBy (calls ++ [c]))
        (redis.callSession json (1000 * secs) c).2.redis
        (memory.callSession (1000 * secs) c).2.sessions := by
  have hfresh := hhistory.fresh
  rw [openedBy_append] at hfresh ⊢
  obtain ⟨now, op⟩ := c
  cases op with
  | openSession token identity =>
    exact ⟨rfl, h.open_step hsecs
      (hhistory.readable _ List.mem_concat_self token identity rfl) redis.lockout⟩
  | get token =>
    have hnil : openedBy [⟨now, .get token⟩] = [] := rfl
    rw [hnil, List.append_nil]
    exact ⟨congrArg some (h.get_eq redis.lockout memory.limiter), h.get_step memory.limiter⟩
  | remove token =>
    have hnil : openedBy [⟨now, .remove token⟩] = [] := rfl
    rw [hnil, List.append_nil]
    exact ⟨rfl, h.remove_step redis.lockout⟩
  | removeUser userId =>
    have hnil : openedBy [⟨now, .removeUser userId⟩] = [] := rfl
    rw [hnil, List.append_nil] at hfresh ⊢
    exact ⟨rfl, h.removeUser_step hfresh redis.lockout⟩

/-- The stores are in step throughout a history, and answer alike. -/
theorem sessions_in_step (hsecs : 0 < secs) (lockout : Nat) (h : SessionHistory json calls) :
    Mealy.answers (RedisSessionStore.callSession json (1000 * secs)) (.new lockout) calls =
        Mealy.answers (MemorySessionStore.callSession (1000 * secs)) (.new lockout) calls ∧
      ∀ now, (∀ c ∈ calls, c.now ≤ now) → SameSessions json (1000 * secs) now (openedBy calls)
        (Mealy.after (RedisSessionStore.callSession json (1000 * secs)) (.new lockout) calls).redis
        (Mealy.after (MemorySessionStore.callSession (1000 * secs)) (.new lockout)
          calls).sessions :=
  Mealy.simulate (R := fun calls (redis : RedisSessionStore) (memory : MemorySessionStore) =>
      ∀ now, (∀ c ∈ calls, c.now ≤ now) →
      SameSessions json (1000 * secs) now (openedBy calls) redis.redis memory.sessions)
    (fun _ _ => SessionHistory.left) (fun _ _ => .empty) (fun calls c redis memory hr hc => by
      obtain ⟨-, -, hsorted⟩ := List.pairwise_append.1 hc.sorted
      obtain ⟨hanswer, hsame⟩ := (hr c.now fun c' hc' =>
        hsorted c' hc' c (List.mem_singleton_self c)).call hsecs hc
      exact ⟨hanswer, fun now hnow => hsame.later (hnow c List.mem_concat_self)⟩) h

/-- A token that is not opened again stays unknown. -/
theorem MemorySessionStore.lookup_after {ttl : Nat} {store : MemorySessionStore} {token : String}
    (h : store.sessions.lookup token = none) (hnot : token ∉ (openedBy calls).map Prod.fst) :
    (Mealy.after (MemorySessionStore.callSession ttl) store calls).sessions.lookup token =
      none := by
  induction calls generalizing store with
  | nil => exact h
  | cons c calls ih =>
    obtain ⟨now, op⟩ := c
    have herase : ∀ token', (store.sessions.erase token').lookup token = none := by
      intro token'
      by_cases htoken : token = token'
      · rw [htoken, Finmap.lookup_erase]
      · rw [Finmap.lookup_erase_ne htoken, h]
    cases op with
    | openSession token' identity =>
      have hopened : openedBy (⟨now, .openSession token' identity⟩ :: calls) =
        (token', identity.userId) :: openedBy calls := rfl
      rw [hopened, List.map_cons, List.mem_cons, not_or] at hnot
      refine ih ?_ hnot.2
      exact (Finmap.lookup_insert_of_ne _ hnot.1).trans h
    | get token' =>
      refine ih ?_ hnot
      simp only [callSession, MemorySessionStore.get]
      split
      · split
        · exact h
        · exact herase token'
      · exact h
    | remove token' => exact ih (herase token') hnot
    | removeUser userId =>
      refine ih ?_ hnot
      simp only [callSession, MemorySessionStore.removeUser, Maps.lookup_retain, h]
      rfl

/-- **Redis sessions behave like memory sessions.** In every history of calls with fresh tokens and
one positive TTL, every `get` is answered alike; and once `remove_user` has run, no session of the
user that was opened before is readable in either store, at any later time. -/
theorem redis_sessions_agree (hsecs : 0 < secs) (lockout : Nat) (h : SessionHistory json calls) :
    Mealy.answers (RedisSessionStore.callSession json (1000 * secs)) (.new lockout) calls =
        Mealy.answers (MemorySessionStore.callSession (1000 * secs)) (.new lockout) calls ∧
      ∀ pre now userId post, calls = pre ++ ⟨now, .removeUser userId⟩ :: post →
        ∀ token, (token, userId) ∈ openedBy pre → ∀ later, (∀ c ∈ calls, c.now ≤ later) →
          (Mealy.after (RedisSessionStore.callSession json (1000 * secs)) (.new lockout) calls).get
              json token later = none ∧
            ((Mealy.after (MemorySessionStore.callSession (1000 * secs)) (.new lockout) calls).get
              token later).1 = none := by
  obtain ⟨hanswers, hsame⟩ := sessions_in_step hsecs lockout h
  refine ⟨hanswers, fun pre now userId post hcalls token hopened later hlater => ?_⟩
  have hmemory : ((Mealy.after (MemorySessionStore.callSession (1000 * secs)) (.new lockout)
      calls).get token later).1 = none := by
    have hgone : (Mealy.after (MemorySessionStore.callSession (1000 * secs)) (.new lockout)
        calls).sessions.lookup token = none := by
      subst hcalls
      have hfresh := h.fresh
      rw [openedBy_append, List.map_append, List.nodup_append] at hfresh
      obtain ⟨hpre, -, hdisjoint⟩ := hfresh
      rw [Mealy.after_append]
      refine @MemorySessionStore.lookup_after post _ _ token ?_ fun hmem =>
        hdisjoint token (List.mem_map_of_mem hopened) token hmem rfl
      -- before `remove_user`, a session under the token can only be the user's
      have hin := (sessions_in_step hsecs lockout h.left).2 now fun c hc =>
        (List.pairwise_append.1 h.sorted).2.2 c hc _ (List.mem_cons_self ..)
      simp only [MemorySessionStore.callSession, MemorySessionStore.removeUser,
        Maps.lookup_retain, Option.filter_eq_none_iff]
      intro session hs
      have hmine := List.inj_on_of_nodup_map hpre (hin.owner token session hs) hopened rfl
      simpa using congrArg Prod.snd hmine
    simp only [MemorySessionStore.get, hgone]
  refine ⟨?_, hmemory⟩
  exact ((hsame later hlater).get_eq lockout _).trans hmemory

end

/-! ## A sample -/

def bob : SessionIdentity := ⟨2, "bob", .user⟩

/-- `serde_json` on the payload of one identity. -/
def bobJson : SessionJson where
  toString identity :=
    "\x7b\"user_id\":\"" ++ toString identity.userId ++ "\",\"username\":\"" ++ identity.username ++
      "\",\"role\":\"user\"\x7d"
  fromStr text :=
    if text = "\x7b\"user_id\":\"2\",\"username\":\"bob\",\"role\":\"user\"\x7d" then some bob
    else none

/-- Two logins; the first session expires, the second is dropped. -/
def bobCalls : List SessionCall :=
  [⟨0, .openSession "a" bob⟩, ⟨40000, .openSession "b" bob⟩, ⟨50000, .get "a"⟩, ⟨60000, .get "a"⟩,
    ⟨60000, .get "b"⟩, ⟨60000, .removeUser 2⟩, ⟨61000, .get "b"⟩]

theorem redis_sessions_agree_sample :
    Mealy.answers (RedisSessionStore.callSession bobJson 60000) (.new lockoutWindow) bobCalls =
        [none, none, some (some bob), some none, some (some bob), none, some none] ∧
      Mealy.answers (RedisSessionStore.callSession bobJson 60000) (.new lockoutWindow) bobCalls =
        Mealy.answers (MemorySessionStore.callSession 60000) (.new lockoutWindow) bobCalls ∧
      (Mealy.after (RedisSessionStore.callSession bobJson 60000) (.new lockoutWindow) bobCalls).get
        bobJson "b" 61000 = none := by
  have hhistory : SessionHistory bobJson bobCalls := by
    refine ⟨by decide, by decide, fun c hc token identity hop => ?_⟩
    have hbob : identity = bob := by
      simp only [bobCalls, List.mem_cons, List.not_mem_nil, or_false] at hc
      rcases hc with rfl | rfl | rfl | rfl | rfl | rfl | rfl <;> cases hop <;> rfl
    subst hbob
    decide
  obtain ⟨hanswers, hgone⟩ :=
    @redis_sessions_agree bobJson 60 bobCalls (by decide) lockoutWindow hhistory
  refine ⟨by decide +kernel, hanswers, ?_⟩
  exact (hgone (bobCalls.take 5) 60000 2 [⟨61000, .get "b"⟩] rfl "b" (by decide) 61000
    (by decide)).1

end LiteAgentify
