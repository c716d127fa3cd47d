import Mathlib.Data.Fintype.Basic
import LiteAgentify.Proof.AdminServer

/-!
# Sessions of a disabled or reset user

What a login holds of a user is the row that it looked up; `disable_user` and `reset_password` write
the row and then sweep the user's sessions. A trail kept beside the run says which row each login
read, which of these writes have made it outdated, and which login opened a session. As long as no
login opens a session on an outdated row after the sweep (`Timely`), every session was opened on a
row that no swept call has made outdated, so a disabled user has none and those of a reset user were
opened on the new hash (`sweep_ends_sessions`). A login that crosses the handler breaks it
(`session_after_disable`).
-/

set_option autoImplicit false

namespace LiteAgentify

/-! ## The trail -/

/-- The user whose sessions a request sweeps. -/
def AdminRequest.sweeps : AdminRequest → Option Uuid
  | .login _ _ _ => none
  | .call _ handler => handler.sweeps

/-- A call that sweeps has done its write. -/
def AdminPlace.wrote : AdminPlace → Bool
  | .written | .swept => true
  | .returned status => status = 200
  | _ => false

/-- A call that sweeps has done its sweep. -/
def AdminPlace.closed : AdminPlace → Bool
  | .swept => true
  | .returned status => status = 200
  | _ => false

/-- The user whose session a login is about to open. -/
def AdminPlace.opening : AdminPlace → Option UserRecord
  | .cleared user => some user
  | _ => none

structure Trail (ι : Type) where
  /-- The row that a login found. -/
  read : ι → Option UserRecord
  /-- The row of login `i` is older than the write of call `j`, and no enabling has undone this. -/
  outdated : ι → ι → Bool
  /-- The user of a disabling call was enabled after its write. -/
  reenabled : ι → Bool
  /-- The login that opened the session of a token. -/
  issuer : String → Option ι

namespace Trail

variable {ι : Type} [DecidableEq ι] (requests : ι → AdminRequest)

def new : Trail ι := ⟨fun _ => none, fun _ _ => false, fun _ => false, fun _ => none⟩

/-- Login `i` has looked up its user. -/
def looked (t : Trail ι) (i : ι) (user : Option UserRecord) : Trail ι :=
  { t with read := Function.update t.read i user
           outdated := Function.update t.outdated i fun _ => false }

/-- Login `i` has opened the session of a token. -/
def opened (t : Trail ι) (i : ι) (token : String) : Trail ι :=
  { t with issuer := Function.update t.issuer token (some i) }

/-- Call `j` has written the row of a user whose sessions it will sweep. -/
def swapped (t : Trail ι) (j : ι) (id : Uuid) : Trail ι :=
  { t with outdated := fun i k => t.outdated i k || (k = j && (t.read i).any (·.id = id))
           reenabled := Function.update t.reenabled j false }

/-- A user was enabled. -/
def enabled (t : Trail ι) (id : Uuid) : Trail ι :=
  { t with outdated := fun i j => t.outdated i j && !(requests j).isDisable id
           reenabled := fun j => t.reenabled j || (requests j).isDisable id }

/-- The write of call `i`. -/
def wrote (t : Trail ι) (i : ι) : AdminCall → Trail ι
  | .enableUser id => t.enabled requests id
  | .disableUser id | .resetPassword id _ _ => t.swapped i id
  | _ => t

/-- What a step of request `i` adds to the trail. -/
def request (t : Trail ι) (i : ι) (place : AdminPlace) : Trail ι :=
  match requests i, place with
  | .login _ _ _, .lookedUp user => t.looked i user
  | .login _ _ token, .returned 200 => t.opened i token
  | .call _ handler, .written => t.wrote requests i handler
  | _, _ => t

def record (t : Trail ι) (_ : AdminServer ι) (label : AdminLabel ι) (s' : AdminServer ι) :
    Trail ι :=
  match label with
  | .request i _ => t.request requests i (s'.place i)
  | .tick _ => t

end Trail

/-! ## Writes -/

namespace AdminCall

variable {identity : SessionIdentity} {users users' : UserTable} {id : Uuid}

/-- Only enabling a user undoes its disabling. -/
theorem write_disabled {call : AdminCall} (h : call.write users identity = some users')
    (hcall : call ≠ .enableUser id) (hid : id ∈ users.users.map UserRecord.id)
    (hall : ∀ user ∈ users.users, user.id = id → user.status = .disabled) :
    ∀ user ∈ users'.users, user.id = id → user.status = .disabled := by
  have hstatus : ∀ target status users', users.setUserStatus target status = users' →
      (target = id → status = .disabled) →
      ∀ user ∈ users'.users, user.id = id → user.status = .disabled := by
    intro target status users' h hdisable user huser huid
    subst h
    obtain ⟨row, hrow, rfl⟩ := UserTable.mem_setUserStatus.1 huser
    split at huid
    · rename_i htarget
      rw [if_pos htarget]
      exact hdisable (htarget.symm.trans huid)
    · rename_i htarget
      rw [if_neg htarget]
      exact hall row hrow huid
  have hhash : ∀ target hash users', users.setPasswordHash target hash = users' →
      ∀ user ∈ users'.users, user.id = id → user.status = .disabled := by
    intro target hash users' h user huser huid
    subst h
    obtain ⟨row, hrow, rfl⟩ := UserTable.mem_setPasswordHash.1 huser
    split at huid
    · rename_i htarget
      rw [if_pos htarget]
      exact hall row hrow huid
    · rename_i htarget
      rw [if_neg htarget]
      exact hall row hrow huid
  cases call with
  | createUser username password role hashed newId =>
    simp only [write] at h
    split at h
    · cases h
    · intro user huser huid
      rcases (UserTable.mem_insert h).1 huser with huser | rfl
      · exact hall user huser huid
      · -- the new id was not in the table
        exact absurd (huid ▸ hid) (UserTable.insert_new h)
  | disableUser target => exact hstatus target .disabled users' (Option.some.inj h) fun _ => rfl
  | enableUser target =>
    refine hstatus target .active users' (Option.some.inj h) fun htarget => ?_
    subst htarget
    exact absurd rfl hcall
  | resetPassword target password hashed =>
    obtain ⟨hash, -, h⟩ := Option.map_eq_some_iff.1 h
    exact hhash target hash users' h
  | changeOwnPassword current new hashed =>
    obtain ⟨hash, -, h⟩ := Option.map_eq_some_iff.1 h
    exact hhash identity.userId hash users' h
  | logout => cases h
  | other => cases h

theorem write_disables (h : (disableUser id).write users identity = some users') :
    ∀ user ∈ users'.users, user.id = id → user.status = .disabled := by
  intro user huser huid
  cases h
  obtain ⟨row, hrow, rfl⟩ := UserTable.mem_setUserStatus.1 huser
  split at huid
  · rename_i hrowId
    rw [if_pos hrowId]
  · rename_i hrowId
    exact absurd huid hrowId

end AdminCall

namespace AdminServer

variable {ι : Type} [DecidableEq ι]

/-- No login opens a session on a row that a call that has swept made outdated. -/
def Timely (requests : ι → AdminRequest) (v : AdminServer ι × Trail ι) : AdminLabel ι → Prop
  | .request i _ => ∀ user ∈ (v.1.place i).opening, ∀ j,
      (requests j).sweeps = some user.id → (v.1.place j).closed → v.2.outdated i j = false
  | .tick _ => True

instance [Fintype ι] (requests : ι → AdminRequest) (v : AdminServer ι × Trail ι) :
    ∀ label, Decidable (Timely requests v label)
  | .request i _ => inferInstanceAs (Decidable (∀ user ∈ (v.1.place i).opening, ∀ _, _))
  | .tick _ => isTrue trivial

/-! ## The invariant -/

structure Swept (requests : ι → AdminRequest) (s : AdminServer ι) (t : Trail ι) : Prop where
  row : ∀ i user, (s.place i).row = some user → t.read i = some user
  active : ∀ i user, s.place i = .verified user ∨ s.place i = .cleared user →
    user.status = .active
  located : ∀ j id, (requests j).isDisable id → (∃ identity, s.place j = .located identity) →
    id ∈ s.stores.users.users.map UserRecord.id
  disabled : ∀ j id, (requests j).isDisable id → (s.place j).wrote → t.reenabled j = false →
    id ∈ s.stores.users.users.map UserRecord.id ∧
      ∀ user ∈ s.stores.users.users, user.id = id → user.status = .disabled
  /-- A row read after a disabling, with no enabling since, is disabled. -/
  fresh : ∀ i user j, t.read i = some user → (requests j).isDisable user.id →
    (s.place j).wrote → t.reenabled j = false → t.outdated i j = false → user.status = .disabled
  issued : ∀ token session, s.stores.sessions.sessions.lookup token = some session →
    ∃ i user, t.issuer token = some i ∧ s.place i = .returned 200 ∧ t.read i = some user ∧
      user.id = session.identity.userId ∧ user.status = .active ∧
      ∀ j, (requests j).sweeps = some user.id → (s.place j).closed → t.outdated i j = false

variable {argon2 : String → String → Bool} {sessionTtl lockout start : Nat}
  {requests : ι → AdminRequest} {users : UserTable} {s s' : AdminServer ι} {t : Trail ι} {i : ι}

omit [DecidableEq ι] in
theorem swept_init : Swept requests (init users lockout start) (Trail.new : Trail ι) where
  row := fun i user h => by cases h
  active := fun i user h => by rcases h with h | h <;> cases h
  located := fun j id _ h => by
    obtain ⟨identity, h⟩ := h
    cases h
  disabled := fun j id _ h => by cases h
  fresh := fun i user j h => by cases h
  issued := fun token session h => by
    rw [init, MemorySessionStore.new, Finmap.lookup_empty] at h
    cases h

/-! ## Steps -/

theorem sweeps_of_isDisable {request : AdminRequest} {id : Uuid} (h : request.isDisable id) :
    request.sweeps = some id := by
  cases request with
  | login username password token => cases h
  | call cookie handler =>
    cases handler with
    | disableUser id' =>
      have : id' = id := of_decide_eq_true h
      rw [← this]
      rfl
    | _ => cases h

/-- A step of request `i` to a place that asks less of the user it read. -/
theorem Swept.active_update {place : AdminPlace} (h : Swept requests s t)
    (hactive : ∀ user, place = .verified user ∨ place = .cleared user → user.status = .active)
    (j : ι) (user : UserRecord)
    (hj : Function.update s.place i place j = .verified user ∨
      Function.update s.place i place j = .cleared user) : user.status = .active := by
  rcases place_update (fun p => p = .verified user ∨ p = .cleared user) hj with
    ⟨-, hnew⟩ | ⟨-, hold⟩
  · exact hactive user hnew
  · exact h.active j user hold

/-- A step of request `i` that writes no user, opens no session and reads no row. -/
theorem Swept.move {stores : AdminStores} {place : AdminPlace} (h : Swept requests s t)
    (hlive : ∀ status, s.place i ≠ .returned status) (husers : stores.users = s.stores.users)
    (hin : stores.sessions.SessionsIn s.stores.sessions)
    (hrow : ∀ user, place.row = some user → t.read i = some user)
    (hactive : ∀ user, place = .verified user ∨ place = .cleared user → user.status = .active)
    (hlocated : ∀ id, (requests i).isDisable id → (∃ identity, place = .located identity) →
      id ∈ s.stores.users.users.map UserRecord.id)
    (hwrote : ∀ id, (requests i).sweeps = some id → place.wrote → (s.place i).wrote)
    (hclosed : ∀ id, (requests i).sweeps = some id → place.closed → (s.place i).closed ∨
      ∀ token session, stores.sessions.sessions.lookup token = some session →
        session.identity.userId ≠ id) :
    Swept requests ⟨stores, s.now, Function.update s.place i place⟩ t where
  row := fun j user hj => by
    rcases place_update (·.row = some user) hj with ⟨rfl, hnew⟩ | ⟨-, hold⟩
    · exact hrow user hnew
    · exact h.row j user hold
  active := h.active_update hactive
  located := fun j id hdisable hj => by
    rw [husers]
    rcases place_update (fun p => ∃ identity, p = .located identity) hj with
      ⟨rfl, hnew⟩ | ⟨-, hold⟩
    · exact hlocated id hdisable hnew
    · exact h.located j id hdisable hold
  disabled := fun j id hdisable hj hre => by
    rw [husers]
    rcases place_update (·.wrote = true) hj with ⟨rfl, hnew⟩ | ⟨-, hold⟩
    · exact h.disabled j id hdisable (hwrote id (sweeps_of_isDisable hdisable) hnew) hre
    · exact h.disabled j id hdisable hold hre
  fresh := fun k user j hread hdisable hj hre hout => by
    rcases place_update (·.wrote = true) hj with ⟨rfl, hnew⟩ | ⟨-, hold⟩
    · exact h.fresh k user j hread hdisable (hwrote _ (sweeps_of_isDisable hdisable) hnew) hre hout
    · exact h.fresh k user j hread hdisable hold hre hout
  issued := fun token session hlookup => by
    obtain ⟨k, user, hissuer, hreturned, hread, hid, hstatus, hout⟩ :=
      h.issued token session (hin token session hlookup)
    have hk : k ≠ i := fun hk => hlive 200 (hk ▸ hreturned)
    refine ⟨k, user, hissuer, (Function.update_of_ne hk _ _).trans hreturned, hread, hid, hstatus,
      fun j hsweeps hj => ?_⟩
    rcases place_update (·.closed = true) hj with ⟨rfl, hnew⟩ | ⟨-, hold⟩
    · rcases hclosed _ hsweeps hnew with hbefore | hnone
      · exact hout j hsweeps hbefore
      · exact absurd hid.symm (hnone token session hlookup)
    · exact hout j hsweeps hold

/-- A step of a login that opens no session and reads no row. -/
theorem Swept.moveLogin {username password token : String} {sessions : MemorySessionStore}
    {place : AdminPlace} (h : Swept requests s t) (hlive : ∀ status, s.place i ≠ .returned status)
    (hr : requests i = .login username password token)
    (hin : sessions.SessionsIn s.stores.sessions)
    (hrow : ∀ user, place.row = some user → t.read i = some user)
    (hactive : ∀ user, place = .verified user ∨ place = .cleared user → user.status = .active) :
    Swept requests ⟨⟨s.stores.users, sessions⟩, s.now, Function.update s.place i place⟩ t := by
  have hsweeps : ∀ id, (requests i).sweeps ≠ some id := by
    intro id hid
    rw [hr] at hid
    cases hid
  refine h.move hlive rfl hin hrow hactive (fun id hdisable => ?_) (fun id hid => ?_)
    fun id hid => ?_
  · exact absurd (sweeps_of_isDisable hdisable) (hsweeps id)
  · exact absurd hid (hsweeps id)
  · exact absurd hid (hsweeps id)

/-- A login looks up its user. -/
theorem Swept.looked (h : Swept requests s t) (hp : s.place i = .checked) (username : String) :
    Swept requests
      ⟨s.stores, s.now, Function.update s.place i
        (.lookedUp (s.stores.users.findUserByUsername username))⟩
      (t.looked i (s.stores.users.findUserByUsername username)) where
  row := fun j user hj => by
    rcases place_update (·.row = some user) hj with ⟨rfl, hnew⟩ | ⟨hne, hold⟩
    · exact (Function.update_self ..).trans hnew
    · exact (Function.update_of_ne hne _ _).trans (h.row j user hold)
  active := h.active_update fun user hnew => by rcases hnew with hnew | hnew <;> cases hnew
  located := fun j id hdisable hj => by
    rcases place_update (fun p => ∃ identity, p = .located identity) hj with
      ⟨rfl, identity, hnew⟩ | ⟨-, hold⟩
    · cases hnew
    · exact h.located j id hdisable hold
  disabled := fun j id hdisable hj hre => by
    rcases place_update (·.wrote = true) hj with ⟨rfl, hnew⟩ | ⟨-, hold⟩
    · cases hnew
    · exact h.disabled j id hdisable hold hre
  fresh := fun k user j hread hdisable hj hre hout => by
    rcases place_update (·.wrote = true) hj with ⟨rfl, hnew⟩ | ⟨-, hold⟩
    · cases hnew
    · by_cases hk : k = i
      · subst hk
        have hfind := (Function.update_self ..).symm.trans hread
        exact (h.disabled j user.id hdisable hold hre).2 user
          (UserTable.findUserByUsername_mem hfind) rfl
      · have hread' := (Function.update_of_ne hk _ _).symm.trans hread
        have hout' := (congrFun (Function.update_of_ne hk _ _) j).symm.trans hout
        exact h.fresh k user j hread' hdisable hold hre hout'
  issued := fun token session hlookup => by
    obtain ⟨k, user, hissuer, hreturned, hread, hid, hstatus, hout⟩ :=
      h.issued token session hlookup
    have hk : k ≠ i := by
      rintro rfl
      rw [hp] at hreturned
      cases hreturned
    refine ⟨k, user, hissuer, (Function.update_of_ne hk _ _).trans hreturned,
      (Function.update_of_ne hk _ _).trans hread, hid, hstatus, fun j hsweeps hj => ?_⟩
    rcases place_update (·.closed = true) hj with ⟨rfl, hnew⟩ | ⟨-, hold⟩
    · cases hnew
    · exact (congrFun (Function.update_of_ne hk _ _) j).trans (hout j hsweeps hold)

omit [DecidableEq ι] in
/-- A login that has returned has opened its session, on a row that is not outdated. -/
theorem Swept.opened (h : Swept requests s t) {user : UserRecord} {token : String}
    {expiresAt : Nat} {sessions : MemorySessionStore} (hp : s.place i = .returned 200)
    (hread : t.read i = some user) (hstatus : user.status = .active)
    (hout : ∀ j, (requests j).sweeps = some user.id → (s.place j).closed → t.outdated i j = false)
    (hsessions : sessions.sessions =
      s.stores.sessions.sessions.insert token ⟨⟨user.id, user.username, user.role⟩, expiresAt⟩) :
    Swept requests ⟨⟨s.stores.users, sessions⟩, s.now, s.place⟩ (t.opened i token) where
  row := h.row
  active := h.active
  located := h.located
  disabled := h.disabled
  fresh := h.fresh
  issued := fun token' session hlookup => by
    replace hlookup : (s.stores.sessions.sessions.insert token
        ⟨⟨user.id, user.username, user.role⟩, expiresAt⟩).lookup token' = some session :=
      hsessions ▸ hlookup
    by_cases htoken : token' = token
    · subst htoken
      rw [Finmap.lookup_insert] at hlookup
      cases hlookup
      exact ⟨i, user, Function.update_self .., hp, hread, rfl, hstatus, hout⟩
    · rw [Finmap.lookup_insert_of_ne _ htoken] at hlookup
      obtain ⟨k, user', hissuer, hrest⟩ := h.issued token' session hlookup
      exact ⟨k, user', (Function.update_of_ne htoken _ _).trans hissuer, hrest⟩

/-- A call writes the users. The trail may forget that rows are outdated by a disabling only when
it notes the enabling. -/
theorem Swept.written (h : Swept requests s t) {identity : SessionIdentity} {users' : UserTable}
    {t' : Trail ι} (hp : s.place i = .located identity) (hread : t'.read = t.read)
    (hissuer : t'.issuer = t.issuer)
    (hids : ∀ id, id ∈ s.stores.users.users.map UserRecord.id →
      id ∈ users'.users.map UserRecord.id)
    (hkeep : ∀ k j, j ≠ i → t.outdated k j = false → t'.outdated k j = false)
    (hother : ∀ j id, j ≠ i → (requests j).isDisable id → t'.reenabled j = false →
      t.reenabled j = false ∧ (∀ k, t'.outdated k j = false → t.outdated k j = false) ∧
      (id ∈ s.stores.users.users.map UserRecord.id →
        (∀ user ∈ s.stores.users.users, user.id = id → user.status = .disabled) →
        ∀ user ∈ users'.users, user.id = id → user.status = .disabled))
    (hown : ∀ id, (requests i).isDisable id →
      (∀ user ∈ users'.users, user.id = id → user.status = .disabled) ∧
      ∀ k user, t.read k = some user → user.id = id → t'.outdated k i = true) :
    Swept requests ⟨⟨users', s.stores.sessions⟩, s.now, Function.update s.place i .written⟩ t' where
  row := fun j user hj => by
    rw [hread]
    rcases place_update (·.row = some user) hj with ⟨rfl, hnew⟩ | ⟨-, hold⟩
    · cases hnew
    · exact h.row j user hold
  active := h.active_update fun user hnew => by rcases hnew with hnew | hnew <;> cases hnew
  located := fun j id hdisable hj => by
    rcases place_update (fun p => ∃ identity, p = .located identity) hj with
      ⟨rfl, identity, hnew⟩ | ⟨-, hold⟩
    · cases hnew
    · exact hids id (h.located j id hdisable hold)
  disabled := fun j id hdisable hj hre => by
    rcases place_update (·.wrote = true) hj with ⟨rfl, -⟩ | ⟨hne, hold⟩
    · exact ⟨hids id (h.located j id hdisable ⟨identity, hp⟩), (hown id hdisable).1⟩
    · obtain ⟨hre', -, hstay⟩ := hother j id hne hdisable hre
      obtain ⟨hid, hall⟩ := h.disabled j id hdisable hold hre'
      exact ⟨hids id hid, hstay hid hall⟩
  fresh := fun k user j hk hdisable hj hre hout => by
    rw [hread] at hk
    rcases place_update (·.wrote = true) hj with ⟨rfl, -⟩ | ⟨hne, hold⟩
    · rw [(hown user.id hdisable).2 k user hk rfl] at hout
      cases hout
    · obtain ⟨hre', hback, -⟩ := hother j user.id hne hdisable hre
      exact h.fresh k user j hk hdisable hold hre' (hback k hout)
  issued := fun token session hlookup => by
    obtain ⟨k, user, hk, hreturned, hkread, hid, hstatus, hout⟩ := h.issued token session hlookup
    have hne : k ≠ i := by
      rintro rfl
      rw [hp] at hreturned
      cases hreturned
    refine ⟨k, user, by rw [hissuer, hk], (Function.update_of_ne hne _ _).trans hreturned,
      by rw [hread, hkread], hid, hstatus, fun j hsweeps hj => ?_⟩
    rcases place_update (·.closed = true) hj with ⟨rfl, hnew⟩ | ⟨hj', hold⟩
    · cases hnew
    · exact hkeep k j hj' (hout j hsweeps hold)

/-- A call writes the users, and the trail notes what it outdates or enables. -/
theorem Swept.write (h : Swept requests s t) {cookie : Option String} {call : AdminCall}
    {identity : SessionIdentity} {users' : UserTable} (hr : requests i = .call cookie call)
    (hp : s.place i = .located identity)
    (hwrite : call.write s.stores.users identity = some users') :
    Swept requests ⟨⟨users', s.stores.sessions⟩, s.now, Function.update s.place i .written⟩
      (t.wrote requests i call) := by
  have hids : ∀ id, id ∈ s.stores.users.users.map UserRecord.id →
      id ∈ users'.users.map UserRecord.id := fun id => AdminCall.write_ids hwrite
  -- a call that neither disables nor enables, and does not touch the trail
  have hplain : (∀ id, call ≠ .enableUser id) → (∀ id, ¬ (requests i).isDisable id) →
      Swept requests ⟨⟨users', s.stores.sessions⟩, s.now, Function.update s.place i .written⟩ t := by
    intro henable hdisable
    refine h.written hp rfl rfl hids (fun _ _ _ hout => hout) ?_ fun id hid => ?_
    · intro j id _ _ hre
      exact ⟨hre, fun _ hout => hout, AdminCall.write_disabled hwrite (henable id)⟩
    · exact absurd hid (hdisable id)
  have hswapped : ∀ target, (∀ id, call ≠ .enableUser id) →
      (∀ id, (requests i).isDisable id → id = target ∧ call = .disableUser id) →
      Swept requests ⟨⟨users', s.stores.sessions⟩, s.now, Function.update s.place i .written⟩
        (t.swapped i target) := by
    intro target henable hdisable
    refine h.written hp rfl rfl hids ?_ ?_ fun id hid => ?_
    · intro k j hj hout
      simp [Trail.swapped, hout, hj]
    · intro j id hj _ hre
      replace hre := (Function.update_of_ne hj _ _).symm.trans hre
      refine ⟨hre, fun k hout => ?_, AdminCall.write_disabled hwrite (henable id)⟩
      simpa [Trail.swapped, hj] using hout
    · obtain ⟨rfl, rfl⟩ := hdisable id hid
      refine ⟨AdminCall.write_disables hwrite, fun k user hread huid => ?_⟩
      simp [Trail.swapped, hread, huid]
  cases call with
  | createUser username password role hashed id =>
    exact hplain (fun _ hcall => by cases hcall) fun _ hid => by rw [hr] at hid; cases hid
  | disableUser target =>
    refine hswapped target (fun _ hcall => by cases hcall) fun id hid => ?_
    rw [hr] at hid
    have : target = id := of_decide_eq_true hid
    subst this
    exact ⟨rfl, rfl⟩
  | enableUser target =>
    refine h.written hp rfl rfl hids ?_ ?_ fun id hid => by rw [hr] at hid; cases hid
    · intro k j _ hout
      simp [Trail.wrote, Trail.enabled, hout]
    · intro j id _ hdisable hre
      simp only [Trail.wrote, Trail.enabled, Bool.or_eq_false_iff] at hre
      obtain ⟨hre, htarget⟩ := hre
      refine ⟨hre, fun k hout => ?_, AdminCall.write_disabled hwrite fun hcall => ?_⟩
      · simpa [Trail.wrote, Trail.enabled, htarget] using hout
      · cases hcall
        rw [hdisable] at htarget
        cases htarget
  | resetPassword target password hashed =>
    exact hswapped target (fun _ hcall => by cases hcall) fun _ hid => by rw [hr] at hid; cases hid
  | changeOwnPassword current new hashed =>
    exact hplain (fun _ hcall => by cases hcall) fun _ hid => by rw [hr] at hid; cases hid
  | logout => cases hwrite
  | other => cases hwrite

/-! ## Runs -/

omit [DecidableEq ι] in
theorem sessionIdentity_lookup {token : String} {identity : SessionIdentity}
    (h : s.sessionIdentity token = some identity) :
    ∃ session, s.stores.sessions.sessions.lookup token = some session ∧
      session.identity = identity := by
  unfold sessionIdentity MemorySessionStore.get at h
  split at h
  · rename_i session hlookup
    split at h
    · exact ⟨session, hlookup, Option.some.inj h⟩
    · cases h
  · cases h

theorem removeUser_sessionsIn (store : MemorySessionStore) (id : Uuid) :
    (store.removeUser id).SessionsIn store := by
  intro token session h
  simp only [MemorySessionStore.removeUser, Maps.lookup_retain, Option.filter_eq_some_iff] at h
  exact h.1

theorem removeUser_ne {store : MemorySessionStore} {id : Uuid} {token : String}
    {session : MemorySession} (h : (store.removeUser id).sessions.lookup token = some session) :
    session.identity.userId ≠ id := by
  simp only [MemorySessionStore.removeUser, Maps.lookup_retain, Option.filter_eq_some_iff] at h
  exact of_decide_eq_true h.2

/-- A sweeping call is not at a quiet place once it has written. -/
theorem quiet_sweeps {request : AdminRequest} {place : AdminPlace} (h : place.Quiet request)
    (hdone : place.wrote ∨ place.closed) : request.sweeps = none := by
  cases place with
  | returned status =>
    have hstatus : status = 200 := by
      rcases hdone with hdone | hdone
      · exact of_decide_eq_true hdone
      · exact of_decide_eq_true hdone
    obtain ⟨cookie, call, rfl, hsweeps⟩ := h hstatus
    exact hsweeps
  | written => exact h.elim
  | swept => exact h.elim
  | _ => rcases hdone with hdone | hdone <;> cases hdone

theorem Swept.quiet {sessions : MemorySessionStore} {place : AdminPlace}
    (h : Swept requests s t) (hlive : ∀ status, s.place i ≠ .returned status)
    (hin : sessions.SessionsIn s.stores.sessions) (hquiet : place.Quiet (requests i)) :
    Swept requests ⟨⟨s.stores.users, sessions⟩, s.now, Function.update s.place i place⟩ t := by
  refine h.move hlive rfl hin (fun user hrow => ?_) (fun user hactive => ?_)
    (fun id _ hlocated => ?_) (fun id hsweeps hwrote => ?_) fun id hsweeps hclosed => ?_
  · cases place with
    | lookedUp user => exact hquiet.elim
    | verified user => exact hquiet.elim
    | cleared user => exact hquiet.elim
    | _ => cases hrow
  · rcases hactive with rfl | rfl
    · exact hquiet.elim
    · exact hquiet.elim
  · obtain ⟨identity, rfl⟩ := hlocated
    exact hquiet.elim
  · rw [quiet_sweeps hquiet (.inl hwrote)] at hsweeps
    cases hsweeps
  · rw [quiet_sweeps hquiet (.inr hclosed)] at hsweeps
    cases hsweeps

theorem request_quiet {place : AdminPlace} (h : place.Quiet (requests i)) :
    t.request requests i place = t := by
  unfold Trail.request
  split
  · cases h
  · rename_i hr
    obtain ⟨cookie, call, hcall, -⟩ := h rfl
    rw [hr] at hcall
    cases hcall
  · cases h
  · rfl

theorem Swept.step (h : Swept requests s t) {label : AdminLabel ι}
    (hok : Timely requests (s, t) label)
    (hs : s.step argon2 sessionTtl requests label = some s') :
    Swept requests s' (t.record requests s label s') := by
  rcases step_effect hs with ⟨ms, rfl, rfl⟩ |
    ⟨i, fault, stores, place, rfl, hlive, heffect, rfl⟩
  · exact ⟨h.row, h.active, h.located, h.disabled, h.fresh, h.issued⟩
  · have hrecord : t.record requests s (.request i fault)
        ⟨stores, s.now, Function.update s.place i place⟩ = t.request requests i place := by
      show t.request requests i (Function.update s.place i place i) = _
      rw [Function.update_self]
    rw [hrecord]
    have hsame : s.stores.sessions.SessionsIn s.stores.sessions := fun _ _ h => h
    cases heffect with
    | lookup hr hp =>
      simp only [Trail.request, hr]
      exact h.looked hp _
    | @verify _ _ _ user hr hp _ hstatus =>
      simp only [Trail.request, hr]
      refine h.moveLogin hlive hr hsame (fun user' hrow => ?_) fun user' hactive => ?_
      · exact h.row i user' (hp ▸ hrow)
      · rcases hactive with hactive | hactive
        · cases hactive
          exact hstatus
        · cases hactive
    | @clear _ _ _ user sessions hr hp hsessions =>
      simp only [Trail.request, hr]
      refine h.moveLogin hlive hr (fun token session hlookup => hsessions ▸ hlookup)
        (fun user' hrow => ?_) fun user' hactive => ?_
      · exact h.row i user' (hp ▸ hrow)
      · rcases hactive with hactive | hactive
        · cases hactive
        · cases hactive
          exact h.active i user (.inl hp)
    | @issue _ _ token user expiresAt sessions hr hp hsessions =>
      simp only [Trail.request, hr]
      have hreturned : Swept requests
          ⟨s.stores, s.now, Function.update s.place i (.returned 200)⟩ t :=
        h.moveLogin hlive hr hsame (fun _ hrow => by cases hrow)
          fun _ hactive => by rcases hactive with h | h <;> cases h
      refine hreturned.opened (Function.update_self ..) (h.row i user (by rw [hp]; rfl))
        (h.active i user (.inr hp)) (fun j hsweeps hj => ?_) hsessions
      rcases place_update (·.closed = true) hj with ⟨rfl, -⟩ | ⟨-, hold⟩
      · rw [hr] at hsweeps
        cases hsweeps
      · exact hok user (by rw [hp]; rfl) j hsweeps hold
    | @locate cookie call identity hr hlocate =>
      simp only [Trail.request, hr]
      refine h.move hlive rfl hsame (fun _ hrow => by cases hrow)
        (fun _ hactive => by rcases hactive with h | h <;> cases h) (fun id hdisable _ => ?_)
        (fun _ _ hwrote => by cases hwrote) fun _ _ hclosed => by cases hclosed
      rw [hr] at hdisable
      cases call with
      | disableUser id' =>
        have : id' = id := of_decide_eq_true hdisable
        subst this
        exact (hlocate id' rfl).2
      | _ => cases hdisable
    | @write cookie call identity users hr hp hwrite =>
      simp only [Trail.request, hr]
      exact h.write hr hp hwrite
    | @sweep cookie call id hr hp hsweeps =>
      simp only [Trail.request, hr]
      refine h.move hlive rfl (removeUser_sessionsIn _ _) (fun _ hrow => by cases hrow)
        (fun _ hactive => by rcases hactive with h | h <;> cases h)
        (fun _ _ hlocated => by obtain ⟨_, hlocated⟩ := hlocated; cases hlocated)
        (fun _ _ _ => by rw [hp]; rfl) fun id' hid' _ => .inr ?_
      rw [hr] at hid'
      have : id = id' := Option.some.inj (hsweeps.symm.trans hid')
      subst this
      exact fun token session hlookup => removeUser_ne hlookup
    | respond hr hp =>
      simp only [Trail.request, hr]
      refine h.move hlive rfl hsame (fun _ hrow => by cases hrow)
        (fun _ hactive => by rcases hactive with h | h <;> cases h)
        (fun _ _ hlocated => by obtain ⟨_, hlocated⟩ := hlocated; cases hlocated)
        (fun _ _ _ => by rw [hp]; rfl) fun _ _ _ => .inl (by rw [hp]; rfl)
    | quiet hin hquiet =>
      rw [request_quiet hquiet]
      exact h.quiet hlive hin hquiet

theorem Swept.recorded {v w : AdminServer ι × Trail ι} {label : AdminLabel ι}
    (h : Swept requests v.1 v.2) (hok : Timely requests v label)
    (hs : Lts.recorded (AdminServer.step argon2 sessionTtl requests) (Trail.record requests) v
      label = some w) : Swept requests w.1 w.2 := by
  obtain ⟨hstep, htrail⟩ := Lts.recorded_eq_some.1 hs
  rw [htrail]
  exact h.step hok hstep

end AdminServer

/-- **The sweep ends the sessions.** In a run in which no login opens its session on a row that a
call has written since and swept: once `disable_user` has returned, and until the user is enabled,
no token stands for the user; once `reset_password` has returned, every token that stands for the
user was issued by a login that read its row after the write. -/
theorem sweep_ends_sessions {ι : Type} [DecidableEq ι] {argon2 : String → String → Bool}
    {sessionTtl lockout start : Nat} {requests : ι → AdminRequest} {users : UserTable}
    {tr : List (AdminLabel ι)} {s : AdminServer ι} {t : Trail ι}
    (hrun : Lts.Run (Lts.recorded (AdminServer.step argon2 sessionTtl requests)
      (Trail.record requests)) (AdminServer.Timely requests) (.init users lockout start, Trail.new)
      tr (s, t)) (j : ι) (cookie : Option String) (id : Uuid) (hreturned : s.place j = .returned 200) :
    (requests j = .call cookie (.disableUser id) → t.reenabled j = false →
      ∀ token identity, s.sessionIdentity token = some identity → identity.userId ≠ id) ∧
    ∀ password hashed, requests j = .call cookie (.resetPassword id password hashed) →
      ∀ token identity, s.sessionIdentity token = some identity → identity.userId = id →
        ∃ i user, t.issuer token = some i ∧ t.read i = some user ∧ user.id = id ∧
          t.outdated i j = false := by
  have h : AdminServer.Swept requests s t :=
    hrun.inv (I := fun v => AdminServer.Swept requests v.1 v.2) AdminServer.swept_init
      fun _ _ _ hu hok hs => hu.recorded hok hs
  have hclosed : (s.place j).closed := by rw [hreturned]; rfl
  have hissued : ∀ token identity, s.sessionIdentity token = some identity →
      identity.userId = id → (requests j).sweeps = some id →
      ∃ i user, t.issuer token = some i ∧ t.read i = some user ∧ user.id = id ∧
        user.status = .active ∧ t.outdated i j = false := by
    intro token identity hidentity hid hsweeps
    obtain ⟨session, hlookup, rfl⟩ := AdminServer.sessionIdentity_lookup hidentity
    obtain ⟨i, user, hissuer, -, hread, huid, hstatus, hout⟩ := h.issued token session hlookup
    have huser : user.id = id := huid.trans hid
    exact ⟨i, user, hissuer, hread, huser, hstatus, hout j (huser ▸ hsweeps) hclosed⟩
  constructor
  · intro hr hre token identity hidentity hid
    obtain ⟨i, user, -, hread, rfl, hstatus, hout⟩ :=
      hissued token identity hidentity hid (by rw [hr]; rfl)
    have hdisabled := h.fresh i user j hread (by rw [hr]; exact decide_eq_true rfl)
      (by rw [hreturned]; rfl) hre hout
    rw [hstatus] at hdisabled
    cases hdisabled
  · intro password hashed hr token identity hidentity hid
    obtain ⟨i, user, hissuer, hread, huid, -, hout⟩ :=
      hissued token identity hidentity hid (by rw [hr]; rfl)
    exact ⟨i, user, hissuer, hread, huid, hout⟩

/-! ## A login and a disabling -/

def adminAndBob : UserTable :=
  ⟨[⟨1, "admin", "secret", .admin, .active⟩, ⟨2, "bob", "password", .user, .active⟩], by decide,
    by decide⟩

/-- Two logins, and the admin's calls on the second user. -/
def disableBob : Fin 4 → AdminRequest
  | 0 => .login "admin" "secret" "a"
  | 1 => .login "bob" "password" "b"
  | 2 => .call (some "a") (.disableUser 2)
  | 3 => .call (some "a") (.resetPassword 2 "new password" (some "$argon2id$"))

/-- The next `n` steps of a request. -/
def steps {ι : Type} (i : ι) (n : Nat) : List (AdminLabel ι) := List.replicate n (.request i false)

/-- The session opened before the disabling is gone when it has returned. -/
theorem sweep_ends_sessions_sample : ∃ s t,
    Lts.exec (Lts.recorded (AdminServer.step (fun _ _ => false) 1000 disableBob)
        (Trail.record disableBob)) (.init adminAndBob lockoutWindow 0, Trail.new)
        (steps 0 5 ++ steps 1 5 ++ steps 2 5) = some (s, t) ∧
      s.place 1 = .returned 200 ∧ s.place 2 = .returned 200 ∧
      ∀ token identity, s.sessionIdentity token = some identity → identity.userId ≠ 2 := by
  have hex : (Lts.exec (Lts.guarded (Lts.recorded
      (AdminServer.step (fun _ _ => false) 1000 disableBob) (Trail.record disableBob))
      (AdminServer.Timely disableBob)) (.init adminAndBob lockoutWindow 0, Trail.new)
      (steps 0 5 ++ steps 1 5 ++ steps 2 5)).any (fun v => v.1.place 1 = .returned 200 ∧
        v.1.place 2 = .returned 200 ∧ v.2.reenabled 2 = false) = true := by
    decide +kernel
  obtain ⟨⟨s, t⟩, hs, hend⟩ := (Option.any_eq_true _ _).1 hex
  obtain ⟨hlogin, hreturned, hre⟩ := of_decide_eq_true hend
  have hrun := Lts.run_of_guarded hs
  exact ⟨s, t, hrun.exec, hlogin, hreturned,
    (sweep_ends_sessions hrun 2 (some "a") 2 hreturned).1 rfl hre⟩

/-- The user logs in, but opens the session only after both calls have returned: the token stands
for the disabled user, and was issued on the replaced hash. -/
theorem session_after_disable : ∃ s t,
    Lts.exec (Lts.recorded (AdminServer.step (fun _ _ => false) 1000 disableBob)
        (Trail.record disableBob)) (.init adminAndBob lockoutWindow 0, Trail.new)
        (steps 0 5 ++ steps 1 4 ++ steps 2 5 ++ steps 3 5 ++ steps 1 1) = some (s, t) ∧
      s.place 2 = .returned 200 ∧ s.place 3 = .returned 200 ∧ t.reenabled 2 = false ∧
      s.sessionIdentity "b" = some ⟨2, "bob", .user⟩ ∧ t.issuer "b" = some 1 ∧ t.outdated 1 3 = true := by
  have hex : (Lts.exec (Lts.recorded (AdminServer.step (fun _ _ => false) 1000 disableBob)
        (Trail.record disableBob)) (.init adminAndBob lockoutWindow 0, Trail.new)
        (steps 0 5 ++ steps 1 4 ++ steps 2 5 ++ steps 3 5 ++ steps 1 1)).any (fun v =>
      v.1.place 2 = .returned 200 ∧ v.1.place 3 = .returned 200 ∧ v.2.reenabled 2 = false ∧
        v.1.sessionIdentity "b" = some ⟨2, "bob", .user⟩ ∧ v.2.issuer "b" = some 1 ∧
        v.2.outdated 1 3 = true) = true := by
    decide +kernel
  obtain ⟨⟨s, t⟩, hs, hend⟩ := (Option.any_eq_true _ _).1 hex
  exact ⟨s, t, hs, of_decide_eq_true hend⟩

end LiteAgentify
