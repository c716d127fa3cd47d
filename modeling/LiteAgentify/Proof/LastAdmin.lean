import LiteAgentify.Proof.AdminServer

/-!
# An active admin remains

`disable_user` refuses the caller's own account, so the caller is left active, provided that it
still is an active admin when the write is done (`Standing`): then every reachable state has an
active admin (`active_admin_remains`). Two admins that disable each other at the same time leave
none (`admins_disable_each_other`).
-/

set_option autoImplicit false

namespace LiteAgentify

/-- Some user can administer the gateway. -/
def UserTable.HasActiveAdmin (table : UserTable) : Prop :=
  ∃ user ∈ table.users, user.role = .admin ∧ user.status = .active

/-- A user is an active admin. -/
def UserTable.ActiveAdmin (table : UserTable) (id : Uuid) : Prop :=
  ∃ user ∈ table.users, user.id = id ∧ user.role = .admin ∧ user.status = .active

instance (table : UserTable) : Decidable table.HasActiveAdmin :=
  inferInstanceAs (Decidable (∃ user ∈ table.users, _))

instance (table : UserTable) (id : Uuid) : Decidable (table.ActiveAdmin id) :=
  inferInstanceAs (Decidable (∃ user ∈ table.users, _))

/-! ## Writes -/

namespace AdminCall

variable {identity : SessionIdentity} {users users' : UserTable} {id : Uuid}

/-- Disabling a user leaves every other active admin. -/
theorem disableUser_admin (h : (disableUser id).write users identity = some users')
    {caller : Uuid} (hne : id ≠ caller) (hcaller : users.ActiveAdmin caller) :
    users'.HasActiveAdmin := by
  obtain ⟨user, huser, rfl, hrole, hstatus⟩ := hcaller
  cases h
  refine ⟨user, UserTable.mem_setUserStatus.2 ⟨user, huser, ?_⟩, hrole, hstatus⟩
  rw [if_neg fun heq => hne heq.symm]

/-- A write that disables nobody keeps the active admins. -/
theorem write_admin {call : AdminCall} (h : call.write users identity = some users')
    (hcall : ∀ id, call ≠ .disableUser id) (hadmin : users.HasActiveAdmin) :
    users'.HasActiveAdmin := by
  obtain ⟨user, huser, hrole, hstatus⟩ := hadmin
  have hhash : ∀ target hash, users.setPasswordHash target hash = users' →
      users'.HasActiveAdmin := by
    intro target hash h
    subst h
    refine ⟨_, UserTable.mem_setPasswordHash.2 ⟨user, huser, rfl⟩, ?_⟩
    split
    · exact ⟨hrole, hstatus⟩
    · exact ⟨hrole, hstatus⟩
  cases call with
  | createUser username password role hashed newId =>
    simp only [write] at h
    split at h
    · cases h
    · exact ⟨user, (UserTable.mem_insert h).2 (.inl huser), hrole, hstatus⟩
  | disableUser target => exact absurd rfl (hcall target)
  | enableUser target =>
    cases h
    refine ⟨_, UserTable.mem_setUserStatus.2 ⟨user, huser, rfl⟩, ?_⟩
    split
    · exact ⟨hrole, rfl⟩
    · exact ⟨hrole, hstatus⟩
  | resetPassword target password hashed =>
    obtain ⟨hash, -, h⟩ := Option.map_eq_some_iff.1 h
    exact hhash target hash h
  | changeOwnPassword current new hashed =>
    obtain ⟨hash, -, h⟩ := Option.map_eq_some_iff.1 h
    exact hhash identity.userId hash h
  | logout => cases h
  | other => cases h

end AdminCall

/-! ## Runs -/

/-- The caller of a call that has found its row. -/
def AdminPlace.writer : AdminPlace → Option SessionIdentity
  | .located identity => some identity
  | _ => none

def AdminRequest.disables : AdminRequest → Bool
  | .call _ (.disableUser _) => true
  | _ => false

namespace AdminServer

variable {ι : Type}

/-- A user is disabled by a caller who is still an active admin. -/
def Standing (requests : ι → AdminRequest) (s : AdminServer ι) : AdminLabel ι → Prop
  | .request i false => (requests i).disables → ∀ identity ∈ (s.place i).writer,
      s.stores.users.ActiveAdmin identity.userId
  | _ => True

instance (requests : ι → AdminRequest) (s : AdminServer ι) :
    ∀ label, Decidable (s.Standing requests label)
  | .request _ false => inferInstanceAs (Decidable (_ → ∀ identity ∈ _, _))
  | .request _ true => isTrue trivial
  | .tick _ => isTrue trivial

/-- There is an active admin, and nobody is about to disable its own account. -/
structure Administered (requests : ι → AdminRequest) (s : AdminServer ι) : Prop where
  admin : s.stores.users.HasActiveAdmin
  others : ∀ i cookie id identity, requests i = .call cookie (.disableUser id) →
    s.place i = .located identity → id ≠ identity.userId

variable [DecidableEq ι] {argon2 : String → String → Bool} {sessionTtl : Nat}
  {requests : ι → AdminRequest} {s s' : AdminServer ι} {i : ι}

theorem Administered.move {stores : AdminStores} {place : AdminPlace}
    (h : Administered requests s) (hadmin : stores.users.HasActiveAdmin)
    (hplace : ∀ cookie id identity, requests i = .call cookie (.disableUser id) →
      place = .located identity → id ≠ identity.userId) :
    Administered requests ⟨stores, s.now, Function.update s.place i place⟩ := by
  refine ⟨hadmin, fun j cookie id identity hr hj => ?_⟩
  rcases place_update (· = .located identity) hj with ⟨rfl, hnew⟩ | ⟨-, hold⟩
  · exact hplace cookie id identity hr hnew
  · exact h.others j cookie id identity hr hold

theorem Administered.step (h : Administered requests s) {label : AdminLabel ι}
    (hok : s.Standing requests label)
    (hs : s.step argon2 sessionTtl requests label = some s') : Administered requests s' := by
  rcases step_effect hs with ⟨ms, rfl, rfl⟩ | ⟨i, fault, stores, place, rfl, -, heffect, rfl⟩
  · exact ⟨h.admin, h.others⟩
  · cases heffect with
    | @locate cookie call identity hr hlocate =>
      refine h.move h.admin fun cookie' id identity' hr' hplace => ?_
      rw [hr] at hr'
      cases hr'
      cases hplace
      exact (hlocate id rfl).1
    | @write cookie call identity users hr hp hwrite =>
      refine h.move ?_ fun _ _ _ _ hplace => by cases hplace
      cases call with
      | disableUser id =>
        cases fault with
        | false =>
          have hcaller := hok (by rw [hr]; rfl) identity (by rw [hp]; rfl)
          exact AdminCall.disableUser_admin hwrite (h.others i cookie id identity hr hp) hcaller
        | true =>
          -- a failed write returns
          simp only [AdminServer.step, requestStep, hr, hp, AdminCall.step, Option.map_some,
            Option.some.injEq, mk.injEq] at hs
          have hplace := congrFun hs.2.2 i
          rw [Function.update_self, Function.update_self] at hplace
          cases hplace
      | _ => exact AdminCall.write_admin hwrite (fun id hcall => by cases hcall) h.admin
    | quiet hin hquiet =>
      refine h.move h.admin fun _ _ _ _ hplace => ?_
      subst hplace
      exact hquiet.elim
    | _ => exact h.move h.admin fun _ _ _ _ hplace => by cases hplace

end AdminServer

/-- An empty table is left with the admin. -/
theorem bootstrapAccounts_admin {config : GatewayConfig} {id : Uuid}
    {hashed : Except String String} {users : UserTable}
    (h : bootstrapAccounts .empty config id hashed = .ok users) : users.HasActiveAdmin := by
  have hempty : UserTable.empty.users = [] := rfl
  simp only [bootstrapAccounts, hempty, if_true] at h
  split at h
  · cases h
  · split at h
    · cases h
    · rename_i passwordHash _
      split at h
      · rename_i table hinsert
        cases h
        exact ⟨_, (UserTable.mem_insert hinsert).2 (.inr rfl), rfl, rfl⟩
      · cases h

/-- **An active admin remains.** From the table that the bootstrap leaves, whatever requests run
together: when each user is disabled by a caller who still is an active admin, there is an active
admin in every state. -/
theorem active_admin_remains {ι : Type} [DecidableEq ι] {argon2 : String → String → Bool}
    {sessionTtl lockout start : Nat} {requests : ι → AdminRequest} {config : GatewayConfig}
    {id : Uuid} {hashed : Except String String} {users : UserTable} {tr : List (AdminLabel ι)}
    {s : AdminServer ι} (hboot : bootstrapAccounts .empty config id hashed = .ok users)
    (hrun : Lts.Run (AdminServer.step argon2 sessionTtl requests) (AdminServer.Standing requests)
      (.init users lockout start) tr s) : s.stores.users.HasActiveAdmin := by
  have h0 : AdminServer.Administered requests (AdminServer.init users lockout start) :=
    ⟨bootstrapAccounts_admin hboot, fun _ _ _ _ _ hplace => by cases hplace⟩
  have h : AdminServer.Administered requests s :=
    hrun.inv h0 fun _ _ _ hu hok hs => hu.step hok hs
  exact h.admin

/-! ## Two admins -/

def adminConfig : GatewayConfig := ⟨[], some "$argon2id$admin", [], [], [], {}⟩

/-- `$argon2id$p` is what `hash_password` makes of `p`. -/
def argon2Sample (stored submitted : String) : Bool := stored = "$argon2id$" ++ submitted

/-- The first admin creates a second one, and each disables the other. -/
def twoAdmins : Fin 5 → AdminRequest
  | 0 => .login "admin" "admin" "a"
  | 1 => .call (some "a") (.createUser "eve" "password" "admin" (some "$argon2id$password") 2)
  | 2 => .login "eve" "password" "b"
  | 3 => .call (some "a") (.disableUser 2)
  | 4 => .call (some "b") (.disableUser 1)

/-- The steps up to where both admins are logged in. -/
def bothLoggedIn : List (AdminLabel (Fin 5)) :=
  List.replicate 5 (.request 0 false) ++ List.replicate 4 (.request 1 false) ++
    List.replicate 5 (.request 2 false)

def bootedUsers : UserTable := ⟨[⟨1, "admin", "$argon2id$admin", .admin, .active⟩], by decide,
  by decide⟩

theorem bootedUsers_boot :
    bootstrapAccounts .empty adminConfig 1 (.error "unused") = .ok bootedUsers := by
  rfl

/-- One admin disables the other. -/
theorem active_admin_remains_sample : ∃ s,
    Lts.exec (AdminServer.step argon2Sample 1000 twoAdmins) (.init bootedUsers lockoutWindow 0)
      (bothLoggedIn ++ List.replicate 5 (.request 3 false)) = some s ∧
    s.place 3 = .returned 200 ∧ s.stores.users.HasActiveAdmin := by
  have hex : (Lts.exec (Lts.guarded (AdminServer.step argon2Sample 1000 twoAdmins)
      (AdminServer.Standing twoAdmins)) (.init bootedUsers lockoutWindow 0)
      (bothLoggedIn ++ List.replicate 5 (.request 3 false))).any
        (fun s => s.place 3 = .returned 200) = true := by
    decide +kernel
  obtain ⟨s, hs, hreturned⟩ := (Option.any_eq_true _ _).1 hex
  have hrun := Lts.run_of_guarded hs
  exact ⟨s, hrun.exec, of_decide_eq_true hreturned, active_admin_remains bootedUsers_boot hrun⟩

/-- Both calls have found their row before the first one writes. -/
theorem admins_disable_each_other :
    bootstrapAccounts .empty adminConfig 1 (.error "unused") = .ok bootedUsers ∧ ∃ s,
    Lts.exec (AdminServer.step argon2Sample 1000 twoAdmins) (.init bootedUsers lockoutWindow 0)
      (bothLoggedIn ++ List.replicate 2 (.request 3 false) ++
        List.replicate 2 (.request 4 false) ++
        [.request 3 false, .request 4 false]) = some s ∧
    ¬ s.stores.users.HasActiveAdmin := by
  have hex : (Lts.exec (AdminServer.step argon2Sample 1000 twoAdmins)
      (.init bootedUsers lockoutWindow 0)
      (bothLoggedIn ++ List.replicate 2 (.request 3 false) ++
        List.replicate 2 (.request 4 false) ++ [.request 3 false, .request 4 false])).any
        (fun s => ¬ s.stores.users.HasActiveAdmin) = true := by
    decide +kernel
  obtain ⟨s, hs, hnone⟩ := (Option.any_eq_true _ _).1 hex
  exact ⟨bootedUsers_boot, s, hs, of_decide_eq_true hnone⟩

end LiteAgentify
