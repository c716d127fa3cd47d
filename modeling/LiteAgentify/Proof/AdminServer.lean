import LiteAgentify.Admin.Login

/-!
# What a step of the admin server does

`AdminServer.Effect` lists what one step of a request can do to the users, the sessions and the
place of the request; steps that write no user, open or sweep no session and hold no user's row are
one case (`quiet`). The invariants case on it (`step_effect`), not on the handlers.
-/

set_option autoImplicit false

namespace LiteAgentify

/-! ## The users table -/

namespace UserTable

variable {table table' : UserTable} {user : UserRecord} {id : Uuid}

theorem mem_insert (h : table.insert user = some table') {u : UserRecord} :
    u ∈ table'.users ↔ u ∈ table.users ∨ u = user := by
  unfold insert at h
  split at h
  · cases h
    simp
  · cases h

theorem insert_new (h : table.insert user = some table') :
    user.id ∉ table.users.map UserRecord.id := by
  unfold insert at h
  split at h
  · rename_i hnew
    exact hnew.1
  · cases h

theorem mem_setUserStatus {status : UserStatus} {u : UserRecord} :
    u ∈ (table.setUserStatus id status).users ↔
      ∃ v ∈ table.users, u = if v.id = id then { v with status := status } else v := by
  simp [setUserStatus, update, @eq_comm _ _ u]

theorem mem_setPasswordHash {hash : String} {u : UserRecord} :
    u ∈ (table.setPasswordHash id hash).users ↔
      ∃ v ∈ table.users, u = if v.id = id then { v with passwordHash := hash } else v := by
  simp [setPasswordHash, update, @eq_comm _ _ u]

theorem ids_update {f : UserRecord → UserRecord} (hid : ∀ user, (f user).id = user.id)
    (hname : ∀ user, (f user).username = user.username) :
    (table.update id f hid hname).users.map UserRecord.id = table.users.map UserRecord.id := by
  simp only [update, List.map_map]
  refine List.map_congr_left fun user _ => ?_
  simp only [Function.comp_apply]
  split
  · exact hid user
  · rfl

theorem getUser_isSome : (table.getUser id).isSome ↔ id ∈ table.users.map UserRecord.id := by
  simp [getUser]

theorem findUserByUsername_mem {username : String}
    (h : table.findUserByUsername username = some user) : user ∈ table.users :=
  List.mem_of_find?_eq_some h

end UserTable

/-! ## Rejections -/

theorem requireAdmin_status {identity : SessionIdentity} {rejection : Rejection}
    (h : requireAdmin identity = .error rejection) : rejection.status ≠ 200 := by
  unfold requireAdmin at h
  split at h
  · cases h
  · cases h
    decide

theorem validateNewPassword_status {password : String} {hashed : Option String}
    {rejection : Rejection} (h : validateNewPassword password hashed = .error rejection) :
    rejection.status ≠ 200 := by
  unfold validateNewPassword at h
  split at h
  · rename_i hpassword
    cases h
    unfold validatePassword at hpassword
    split at hpassword
    · cases hpassword
      decide
    · cases hpassword
  · split at h
    · cases h
      decide
    · cases h

namespace AdminCall

theorem writeFailure_ne (call : AdminCall) (fault : Bool) : call.writeFailure fault ≠ 200 := by
  cases call with
  | createUser username password role hashed id => cases fault <;> simp [writeFailure]
  | disableUser id => simp [writeFailure]
  | enableUser id => simp [writeFailure]
  | resetPassword id password hashed => simp [writeFailure]
  | changeOwnPassword current new hashed => simp [writeFailure]
  | logout => simp [writeFailure]
  | other => simp [writeFailure]

/-- No write removes an id. -/
theorem write_ids {call : AdminCall} {identity : SessionIdentity} {users users' : UserTable}
    (h : call.write users identity = some users') {id : Uuid}
    (hid : id ∈ users.users.map UserRecord.id) : id ∈ users'.users.map UserRecord.id := by
  cases call with
  | createUser username password role hashed newId =>
    simp only [write] at h
    split at h
    · cases h
    · obtain ⟨user, huser, rfl⟩ := List.mem_map.1 hid
      exact List.mem_map_of_mem ((UserTable.mem_insert h).2 (.inl huser))
  | disableUser target =>
    cases h
    rwa [UserTable.setUserStatus, UserTable.ids_update]
  | enableUser target =>
    cases h
    rwa [UserTable.setUserStatus, UserTable.ids_update]
  | resetPassword target password hashed =>
    obtain ⟨hash, -, rfl⟩ := Option.map_eq_some_iff.1 h
    rwa [UserTable.setPasswordHash, UserTable.ids_update]
  | changeOwnPassword current new hashed =>
    obtain ⟨hash, -, rfl⟩ := Option.map_eq_some_iff.1 h
    rwa [UserTable.setPasswordHash, UserTable.ids_update]
  | logout => cases h
  | other => cases h

end AdminCall

/-! ## Steps -/

/-- The request disables the user. -/
def AdminRequest.isDisable (request : AdminRequest) (id : Uuid) : Bool :=
  match request with
  | .call _ (.disableUser id') => id' = id
  | _ => false

/-- The row of a user that a login holds. -/
def AdminPlace.row : AdminPlace → Option UserRecord
  | .lookedUp user => user
  | .verified user | .cleared user => some user
  | _ => none

/-- A place that a step reaches without effect on users or new sessions. Of the requests that
return successfully there none is a login or sweeps. -/
def AdminPlace.Quiet (request : AdminRequest) : AdminPlace → Prop
  | .checked | .failed | .authorized _ | .confirmed _ => True
  | .returned status => status = 200 → ∃ cookie call, request = .call cookie call ∧
      call.sweeps = none
  | _ => False

/-- The sessions of one store are among those of another. -/
def MemorySessionStore.SessionsIn (store' store : MemorySessionStore) : Prop :=
  ∀ token session, store'.sessions.lookup token = some session →
    store.sessions.lookup token = some session

namespace AdminServer

variable {ι : Type} {argon2 : String → String → Bool} {sessionTtl : Nat}
  {requests : ι → AdminRequest} {s s' : AdminServer ι} {i : ι}

/-- What a step of request `i` does: the stores after it, and the place it comes to. -/
inductive Effect (argon2 : String → String → Bool) (requests : ι → AdminRequest)
    (s : AdminServer ι) (i : ι) : AdminStores → AdminPlace → Prop
  | lookup {username password token : String} :
      requests i = .login username password token → s.place i = .checked →
      Effect argon2 requests s i s.stores
        (.lookedUp (s.stores.users.findUserByUsername username))
  | verify {username password token : String} {user : UserRecord} :
      requests i = .login username password token → s.place i = .lookedUp (some user) →
      verifyPassword argon2 user.passwordHash password → user.status = .active →
      Effect argon2 requests s i s.stores (.verified user)
  | clear {username password token : String} {user : UserRecord}
      {sessions : MemorySessionStore} :
      requests i = .login username password token → s.place i = .verified user →
      sessions.sessions = s.stores.sessions.sessions →
      Effect argon2 requests s i ⟨s.stores.users, sessions⟩ (.cleared user)
  | issue {username password token : String} {user : UserRecord} {expiresAt : Nat}
      {sessions : MemorySessionStore} :
      requests i = .login username password token → s.place i = .cleared user →
      sessions.sessions =
        s.stores.sessions.sessions.insert token ⟨⟨user.id, user.username, user.role⟩, expiresAt⟩ →
      Effect argon2 requests s i ⟨s.stores.users, sessions⟩ (.returned 200)
  | locate {cookie : Option String} {call : AdminCall} {identity : SessionIdentity} :
      requests i = .call cookie call →
      (∀ id, call = .disableUser id → id ≠ identity.userId ∧
        id ∈ s.stores.users.users.map UserRecord.id) →
      Effect argon2 requests s i s.stores (.located identity)
  | write {cookie : Option String} {call : AdminCall} {identity : SessionIdentity}
      {users : UserTable} :
      requests i = .call cookie call → s.place i = .located identity →
      call.write s.stores.users identity = some users →
      Effect argon2 requests s i ⟨users, s.stores.sessions⟩ .written
  | sweep {cookie : Option String} {call : AdminCall} {id : Uuid} :
      requests i = .call cookie call → s.place i = .written → call.sweeps = some id →
      Effect argon2 requests s i ⟨s.stores.users, s.stores.sessions.removeUser id⟩ .swept
  | respond {cookie : Option String} {call : AdminCall} :
      requests i = .call cookie call → s.place i = .swept →
      Effect argon2 requests s i s.stores (.returned call.success)
  | quiet {sessions : MemorySessionStore} {place : AdminPlace} :
      sessions.SessionsIn s.stores.sessions → place.Quiet (requests i) →
      Effect argon2 requests s i ⟨s.stores.users, sessions⟩ place

theorem get_sessionsIn (store : MemorySessionStore) (token : String) (now : Nat) :
    (store.get token now).2.SessionsIn store := by
  unfold MemorySessionStore.get
  split
  · split
    · exact fun _ _ h => h
    · intro t session h
      by_cases ht : t = token
      · subst ht
        simp at h
      · rwa [Finmap.lookup_erase_ne ht] at h
  · exact fun _ _ h => h

theorem remove_sessionsIn (store : MemorySessionStore) (token : String) :
    (store.remove token).SessionsIn store := by
  intro t session h
  by_cases ht : t = token
  · subst ht
    simp [MemorySessionStore.remove] at h
  · simp only [MemorySessionStore.remove] at h
    rwa [Finmap.lookup_erase_ne ht] at h

/-- A response that is no success, or of a handler that does not sweep. -/
theorem returned_effect {cookie : Option String} {call : AdminCall} {status : Nat}
    {sessions : MemorySessionStore} (hr : requests i = .call cookie call)
    (hin : sessions.SessionsIn s.stores.sessions) (hs : status = 200 → call.sweeps = none) :
    Effect argon2 requests s i ⟨s.stores.users, sessions⟩ (.returned status) := by
  exact .quiet hin fun hstatus => ⟨cookie, call, hr, hs hstatus⟩

theorem loginStep_effect {username password token : String} {fault : Bool} {stores : AdminStores}
    {place : AdminPlace} (hr : requests i = .login username password token)
    (h : loginStep argon2 sessionTtl username password token s.now fault s.stores (s.place i) =
      some (stores, place)) : Effect argon2 requests s i stores place := by
  have hquiet : ∀ {sessions : MemorySessionStore} {status : Nat},
      sessions.sessions = s.stores.sessions.sessions → status ≠ 200 →
      Effect argon2 requests s i ⟨s.stores.users, sessions⟩ (.returned status) := by
    intro sessions status hsame hstatus
    refine .quiet (fun _ _ h => ?_) fun h => absurd h hstatus
    rwa [hsame] at h
  cases hp : s.place i with
  | start =>
    rw [hp] at h
    simp only [loginStep, Option.some.injEq, Prod.mk.injEq] at h
    obtain ⟨rfl, rfl⟩ := h
    by_cases hl : (s.stores.sessions.isLocked username s.now).1
    · rw [if_pos hl]
      exact hquiet rfl (by decide)
    · rw [if_neg hl]
      exact .quiet (fun _ _ h => h) trivial
  | checked =>
    rw [hp] at h
    cases h
    split
    · exact hquiet rfl (by decide)
    · exact .lookup hr hp
  | lookedUp user =>
    rw [hp] at h
    cases user with
    | none =>
      cases h
      exact .quiet (fun _ _ h => h) trivial
    | some user =>
      cases h
      split
      · rename_i hv
        exact .verify hr hp hv.1 hv.2
      · exact .quiet (fun _ _ h => h) trivial
  | failed =>
    rw [hp] at h
    cases h
    exact hquiet rfl (by decide)
  | verified user =>
    rw [hp] at h
    cases h
    exact .clear hr hp rfl
  | cleared user =>
    rw [hp] at h
    cases h
    exact .issue hr hp rfl
  | authorized identity => rw [hp] at h; cases h
  | confirmed identity => rw [hp] at h; cases h
  | located identity => rw [hp] at h; cases h
  | written => rw [hp] at h; cases h
  | swept => rw [hp] at h; cases h
  | returned status => rw [hp] at h; cases h

theorem locateUser_effect {cookie : Option String} {call : AdminCall} {identity : SessionIdentity}
    {id : Uuid} {fault : Bool} (hr : requests i = .call cookie call)
    (hcall : ∀ target, call = .disableUser target → target = id ∧ id ≠ identity.userId) :
    Effect argon2 requests s i s.stores (locateUser s.stores.users fault identity id) := by
  unfold locateUser
  split
  · exact returned_effect hr (fun _ _ h => h) (by simp)
  · split
    · rename_i hid
      refine .locate hr fun target htarget => ?_
      obtain ⟨rfl, hne⟩ := hcall target htarget
      exact ⟨hne, UserTable.getUser_isSome.1 hid⟩
    · exact returned_effect hr (fun _ _ h => h) (by simp)

/-- A handler's way from its session to its row. -/
theorem enter_effect {cookie : Option String} {call : AdminCall} {identity : SessionIdentity}
    {fault : Bool} (hr : requests i = .call cookie call) :
    Effect argon2 requests s i s.stores (call.enter argon2 fault s.stores.users identity) := by
  have hreturn : ∀ {status : Nat}, (status = 200 → call.sweeps = none) →
      Effect argon2 requests s i s.stores (.returned status) :=
    fun hs => returned_effect hr (fun _ _ h => h) hs
  cases call with
  | createUser username password role hashed id =>
    simp only [AdminCall.enter]
    split
    · exact hreturn fun _ => rfl
    · split
      · exact hreturn fun _ => rfl
      · split
        · exact hreturn fun _ => rfl
        · split
          · exact hreturn fun _ => rfl
          · exact .locate hr fun target htarget => by cases htarget
  | disableUser id =>
    simp only [AdminCall.enter]
    split
    · rename_i rejection hadmin
      exact hreturn fun h => absurd h (requireAdmin_status hadmin)
    · split
      · exact hreturn (by simp [Rejection.badRequest])
      · rename_i hne
        refine locateUser_effect hr fun target htarget => ?_
        cases htarget
        exact ⟨rfl, hne⟩
  | enableUser id =>
    simp only [AdminCall.enter]
    split
    · exact hreturn fun _ => rfl
    · exact locateUser_effect hr fun target htarget => by cases htarget
  | resetPassword id password hashed =>
    simp only [AdminCall.enter]
    split
    · rename_i rejection hadmin
      exact hreturn fun h => absurd h (requireAdmin_status hadmin)
    · split
      · rename_i rejection hpassword
        exact hreturn fun h => absurd h (validateNewPassword_status hpassword)
      · exact locateUser_effect hr fun target htarget => by cases htarget
  | changeOwnPassword current new hashed =>
    simp only [AdminCall.enter]
    split
    · exact hreturn fun _ => rfl
    · split
      · exact hreturn fun _ => rfl
      · split
        · exact hreturn fun _ => rfl
        · split
          · exact .quiet (fun _ _ h => h) trivial
          · exact hreturn fun _ => rfl
  | logout => exact hreturn fun _ => rfl
  | other => exact hreturn fun _ => rfl

theorem requireSession_effect {cookie : Option String} {call : AdminCall}
    (hr : requests i = .call cookie call) :
    Effect argon2 requests s i (requireSession cookie s.now s.stores).1
      (requireSession cookie s.now s.stores).2 := by
  unfold requireSession
  split
  · exact returned_effect hr (fun _ _ h => h) (by simp)
  · rename_i token
    have hin := get_sessionsIn s.stores.sessions token s.now
    cases hget : s.stores.sessions.get token s.now with
    | mk identity sessions =>
      rw [hget] at hin
      cases identity with
      | some identity => exact .quiet hin trivial
      | none => exact returned_effect hr hin (by simp)

theorem callStep_effect {cookie : Option String} {call : AdminCall} {fault : Bool}
    {stores : AdminStores} {place : AdminPlace} (hr : requests i = .call cookie call)
    (h : call.step argon2 cookie s.now fault s.stores (s.place i) = some (stores, place)) :
    Effect argon2 requests s i stores place := by
  cases hp : s.place i with
  | start =>
    rw [hp, AdminCall.step, Option.some.injEq] at h
    have := @requireSession_effect _ argon2 _ s _ _ _ hr
    rwa [h] at this
  | authorized identity =>
    rw [hp] at h
    simp only [AdminCall.step] at h
    split at h
    · cases h
      exact returned_effect hr (remove_sessionsIn _ _) fun _ => rfl
    · cases h
      exact enter_effect hr
  | confirmed identity =>
    rw [hp] at h
    simp only [AdminCall.step] at h
    split at h
    · cases h
      exact returned_effect hr (fun _ _ h => h) fun _ => rfl
    · cases h
      split
      · exact returned_effect hr (fun _ _ h => h) fun _ => rfl
      · exact locateUser_effect hr fun target htarget => by cases htarget
    · cases h
  | located identity =>
    rw [hp] at h
    simp only [AdminCall.step] at h
    split at h
    · rename_i users hwrite
      cases h
      exact .write hr hp hwrite
    · cases h
      exact returned_effect hr (fun _ _ h => h) fun h => absurd h (call.writeFailure_ne _)
  | written =>
    rw [hp] at h
    simp only [AdminCall.step] at h
    split at h
    · rename_i id hid
      cases h
      exact .sweep hr hp hid
    · rename_i hid
      cases h
      exact returned_effect hr (fun _ _ h => h) fun _ => hid
  | swept =>
    rw [hp] at h
    cases h
    exact .respond hr hp
  | checked => rw [hp] at h; cases h
  | lookedUp user => rw [hp] at h; cases h
  | failed => rw [hp] at h; cases h
  | verified user => rw [hp] at h; cases h
  | cleared user => rw [hp] at h; cases h
  | returned status => rw [hp] at h; cases h

/-- A place after a step of request `i`. -/
theorem place_update [DecidableEq ι] (P : AdminPlace → Prop) {place : AdminPlace} {j : ι}
    (h : P (Function.update s.place i place j)) : j = i ∧ P place ∨ j ≠ i ∧ P (s.place j) := by
  by_cases hj : j = i
  · subst hj
    rw [Function.update_self] at h
    exact .inl ⟨rfl, h⟩
  · rw [Function.update_of_ne hj] at h
    exact .inr ⟨hj, h⟩

/-- What a step of the server does. -/
theorem step_effect [DecidableEq ι] {label : AdminLabel ι}
    (h : s.step argon2 sessionTtl requests label = some s') :
    (∃ ms, label = .tick ms ∧ s' = ⟨s.stores, s.now + ms, s.place⟩) ∨
    ∃ i fault stores place, label = .request i fault ∧ (∀ status, s.place i ≠ .returned status) ∧
      Effect argon2 requests s i stores place ∧
      s' = ⟨stores, s.now, Function.update s.place i place⟩ := by
  cases label with
  | tick ms =>
    cases h
    exact .inl ⟨ms, rfl, rfl⟩
  | request i fault =>
    simp only [step, Option.map_eq_some_iff, Prod.exists] at h
    obtain ⟨stores, place, hstep, rfl⟩ := h
    refine .inr ⟨i, fault, stores, place, rfl, fun status hp => ?_, ?_, rfl⟩
    · unfold requestStep at hstep
      rw [hp] at hstep
      split at hstep
      · cases hstep
      · cases hstep
    · unfold requestStep at hstep
      split at hstep
      · rename_i username password token hr
        exact loginStep_effect hr hstep
      · rename_i cookie call hr
        exact callStep_effect hr hstep

end AdminServer

end LiteAgentify
