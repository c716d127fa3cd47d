import LiteAgentify.Proof.Gateway

/-!
# Who stays out

The served key map is the one of the tables at some moment, so what the tables exclude for good
stays out of it (`Gateway.Excludes.step`). A revoked key never authenticates again
(`revoked_key_stays_out`), and the keys of a disabled user do not before someone enables the user
(`disabled_user_stays_out`). Requests to the management API and reloads come one after another: at
the reply to one of them no other one is in flight.
-/

set_option autoImplicit false

namespace LiteAgentify

open AdminApi Lts

variable {X : Externals} {P : Packages} {s s' : Gateway} {event : GatewayEvent}

/-- An authenticated caller is in the served key map. -/
theorem authorize_lookup {state : GatewayState} {headers : HeaderMap} {identity : KeyIdentity}
    (h : state.authorize P headers = some identity) :
    ∃ digest, state.apiKeys.lookup digest = some identity := by
  obtain ⟨-, candidate, -, -, hlookup, -⟩ := List.findSome?_eq_some_iff.1 h
  exact ⟨_, hlookup⟩

/-! ## Staying out -/

/-- No caller of the key map is `p`. -/
def ApiKeyMap.Excludes (keys : ApiKeyMap) (p : KeyIdentity → Prop) : Prop :=
  ∀ digest identity, keys.lookup digest = some identity → ¬ p identity

def Gateway.Excludes (s : Gateway) (p : KeyIdentity → Prop) : Prop :=
  ∀ w, s = .up w → w.apiKeys.Excludes p

/-- What is not served and not in the tables after a step is not served after it. -/
theorem Gateway.Excludes.step {p : KeyIdentity → Prop} (hs : s.Excludes p)
    (h : s.step X event = some s') (htables : s'.tables.apiKeys.Excludes p) : s'.Excludes p := by
  rintro w' rfl
  rcases step_apiKeys h with hkeys | ⟨w, rfl, hkeys⟩
  · rw [hkeys]
    exact htables
  · rw [hkeys]
    exact hs w rfl

/-- A key of the tables' key map is active, and so is its owner. -/
theorem tables_apiKeys_lookup {t : Tables} {digest : Digest} {identity : KeyIdentity}
    (h : t.apiKeys.lookup digest = some identity) :
    (∃ key, t.keys.find identity.apiKeyId = some key ∧ key.status = .active) ∧
      ∃ user, t.users.find identity.userId = some user ∧ user.status = .active := by
  obtain ⟨row, hrow, rfl, howner⟩ := keyMap_lookup h
  obtain ⟨key, hkey, rfl⟩ := List.mem_map.1 hrow
  obtain ⟨hkey, hactive⟩ := List.mem_filter.1 hkey
  obtain ⟨urow, hurow, hid⟩ := List.mem_map.1 howner
  obtain ⟨user, huser, rfl⟩ := List.mem_map.1 hurow
  obtain ⟨huser, huactive⟩ := List.mem_filter.1 huser
  exact ⟨⟨key, Table.find_eq_some.2 ⟨hkey, rfl⟩, of_decide_eq_true hactive⟩,
    user, Table.find_eq_some.2 ⟨huser, hid⟩, of_decide_eq_true huactive⟩

theorem revoked_excludes {t : Tables} {id : Uuid} {key : ApiKeyModel}
    (hkey : t.keys.find id = some key) (hrevoked : key.status = .revoked) :
    t.apiKeys.Excludes (·.apiKeyId = id) := by
  rintro digest identity h rfl
  obtain ⟨⟨key', hkey', hactive⟩, -⟩ := tables_apiKeys_lookup h
  cases hkey.symm.trans hkey'
  rw [hrevoked] at hactive
  cases hactive

theorem disabled_excludes {t : Tables} {id : Uuid} {user : UserModel}
    (huser : t.users.find id = some user) (hdisabled : user.status = .disabled) :
    t.apiKeys.Excludes (·.userId = id) := by
  rintro digest identity h rfl
  obtain ⟨-, user', huser', hactive⟩ := tables_apiKeys_lookup h
  cases huser.symm.trans huser'
  rw [hdisabled] at hactive
  cases hactive

/-- A refresh without a warning was made. -/
theorem refresh_unwarned {w w' : Backend} {faults : Faults} {n : Nat} {body : Body} {reply : Reply}
    (h : w.refreshAndRespond faults n body = (reply, w')) (hreply : reply.warning = none) :
    reply = json body ∧ w'.tables = w.tables ∧ w'.apiKeys = w.tables.apiKeys := by
  rcases refresh_cases w faults n body with hr | hr
  · rw [hr] at h
    cases h
    exact ⟨rfl, rfl, rfl⟩
  · rw [hr] at h
    cases h
    cases hreply

/-- An acknowledged revocation of an active key. -/
theorem revokeKey_acknowledged {w w' : Backend} {c : Context} {id : Uuid} {key : ApiKeyModel}
    (hkey : w.keys.find id = some key) (hactive : key.status = .active)
    (h : serve X w ⟨c, .revokeKey id⟩ = (json .ok, w')) :
    w'.tables = { w.tables with keys := withRevoked w.keys id } ∧
      w'.apiKeys = w'.tables.apiKeys := by
  change AdminApi.revokeKey w c id = _ at h
  unfold AdminApi.revokeKey at h
  have hreject (rejection : Rejection) : reject w rejection ≠ (json .ok, w') := by
    intro hr
    cases congrArg (fun out => out.1.body) hr
  split at h
  · exact absurd h (hreject _)
  rename_i found howned
  have hfound : found = key := by
    unfold ownKey at howned
    rw [hkey] at howned
    dsimp only at howned
    split_ifs at howned
    cases howned
    rfl
  rw [hfound, hactive, if_neg (by decide)] at h
  split at h
  · rename_i keys hdone
    obtain ⟨rfl, -⟩ := updateRow_done hdone
    obtain ⟨-, htables, hkeys⟩ := refresh_unwarned h rfl
    exact ⟨htables, hkeys.trans (by rw [htables])⟩
  · exact absurd h (hreject _)
  · exact absurd h (hreject _)

/-- **Revoked for good.** After an active key was revoked and the reply carries no warning, and with
no other request and no reload in flight at the reply, no request ever authenticates as that key
again, whatever boots, deaths, requests, failures, reloads and traffic follow one after another. -/
theorem revoked_key_stays_out {w w' v : Backend} {c : Context} {id : Uuid} {key : ApiKeyModel}
    {tr : List GatewayEvent} (hkey : w.keys.find id = some key) (hactive : key.status = .active)
    (hrevoke : serve X w ⟨c, .revokeKey id⟩ = (json .ok, w'))
    (hrun : Steps (Gateway.step X) (.up w') tr (.up v)) (headers : HeaderMap)
    (identity : KeyIdentity)
    (hauth : v.console.shared.state.authorize X.toPackages headers = some identity) :
    identity.apiKeyId ≠ id := by
  obtain ⟨htables, hkeys⟩ := revokeKey_acknowledged hkey hactive hrevoke
  have hrow : w'.tables.keys.find id = some key.revoke := by
    rw [htables]
    show (withRevoked w.keys id).find id = _
    rw [withRevoked, Table.find_update, hkey, Option.map_some, Table.change,
      if_pos (Table.find_eq_some.1 hkey).2]
  have hout : ∀ u : Gateway, w'.tables.Last u.tables →
      u.tables.apiKeys.Excludes (·.apiKeyId = id) := by
    intro u hlast
    obtain ⟨row, hfind, hkept⟩ := hlast.keys id _ hrow
    exact revoked_excludes hfind (hkept.revoked rfl)
  have hinv : w'.tables.Last (Gateway.up v).tables ∧ (Gateway.up v).Excludes (·.apiKeyId = id) := by
    refine hrun.inv (I := fun u => w'.tables.Last u.tables ∧ u.Excludes (·.apiKeyId = id)) ?_ ?_
    · refine ⟨.refl _, ?_⟩
      rintro _ ⟨⟩
      rw [hkeys]
      exact hout (.up w') (.refl _)
    · rintro u event u' ⟨hlast, hexcl⟩ - hs
      have hlast' := hlast.trans (Gateway.step_last hs)
      exact ⟨hlast', hexcl.step hs (hout u' hlast')⟩
  obtain ⟨digest, hlookup⟩ := authorize_lookup hauth
  exact hinv.2 v rfl digest identity hlookup

/-- The imported key is revoked, and the gateway restarted. -/
theorem revoked_key_stays_out_sample : ∃ w w' v,
    sampleDown.step sampleExternals (.boot sampleBoot) = some (.up w) ∧
    serve sampleExternals w ⟨sampleContext, .revokeKey 10⟩ = (json .ok, w') ∧
    Steps (Gateway.step sampleExternals) (.up w') [.die, .boot sampleBoot] (.up v) ∧
    ∀ headers identity,
      v.console.shared.state.authorize sampleExternals.toPackages headers = some identity →
        identity.apiKeyId ≠ 10 := by
  obtain ⟨w, key, w', v, hboot, hkey, hactive, hrevoke, hrun⟩ : ∃ w key w' v,
      sampleDown.step sampleExternals (.boot sampleBoot) = some (.up w) ∧
      w.keys.find 10 = some key ∧ key.status = .active ∧
      serve sampleExternals w ⟨sampleContext, .revokeKey 10⟩ = (json .ok, w') ∧
      Steps (Gateway.step sampleExternals) (.up w') [.die, .boot sampleBoot] (.up v) :=
    ⟨_, _, _, _, rfl, rfl, rfl, rfl, .snoc (.snoc .nil trivial rfl) trivial rfl⟩
  exact ⟨w, w', v, hboot, hrevoke, hrun, revoked_key_stays_out hkey hactive hrevoke hrun⟩

/-! ## What requests change -/

/-- The status that a request wants for a user. -/
def AdminApi.ApiRequest.setsStatus : ApiRequest → Option (Uuid × UserStatus)
  | .disableUser id => some (id, .disabled)
  | .enableUser id => some (id, .active)
  | _ => none

/-- The key whose status or limits a request wants to change. -/
def AdminApi.ApiRequest.changesKey : ApiRequest → Option Uuid
  | .revokeKey id => some id
  | .updateKey id _ => some id
  | _ => none

def GatewayEvent.setsStatus : GatewayEvent → Option (Uuid × UserStatus)
  | .call c => c.request.setsStatus
  | _ => none

def GatewayEvent.changesKey : GatewayEvent → Option Uuid
  | .call c => c.request.changesKey
  | _ => none

section
variable {users users' : Users} {keys keys' : Keys} {id : Uuid}

/-- A user whose row is changed in other columns than the status. -/
theorem update_status {user : UserModel} {id' : Uuid} {f : UserModel → UserModel}
    {hid : ∀ user, (f user).id = user.id} {hname : ∀ user, (f user).username = user.username}
    (huser : users.find id = some user) (hf : ∀ user, (f user).status = user.status) :
    ∃ user', (users.update id' f hid hname).find id = some user' ∧ user'.status = user.status :=
  ⟨_, by rw [Table.find_update, huser, Option.map_some],
    Table.change_eq (g := fun user => user.status) hf user⟩

theorem withStatus_status {user : UserModel} (huser : users.find id = some user) (id' : Uuid)
    (status : UserStatus) : ∃ user',
      (withStatus users id' status).find id = some user' ∧
        (user'.status = user.status ∨ id' = id ∧ user'.status = status) := by
  refine ⟨_, by rw [withStatus, Table.find_update, huser, Option.map_some], ?_⟩
  rw [Table.change]
  split
  · rename_i hid
    exact .inr ⟨hid.symm.trans (Table.find_eq_some.1 huser).2, rfl⟩
  · exact .inl rfl

/-- The status of a user changes only as a request wants it. -/
theorem AccountWrite.status {user : UserModel}
    (h : AccountWrite P users keys event users' keys') (huser : users.find id = some user) :
    ∃ user', users'.find id = some user' ∧
      (user'.status = user.status ∨ event.setsStatus = some (id, user'.status)) := by
  cases h with
  | @seed b _ _ hseed =>
    have hsome : users.rows ≠ [] := by
      intro hempty
      rw [Table.find, hempty] at huser
      cases huser
    rw [(bootstrapAccounts_ok hseed).sameUsers hsome]
    exact ⟨user, huser, .inl rfl⟩
  | newUser hinsert =>
    exact ⟨user, by rw [Table.find_insert hinsert, huser, Option.some_or], .inl rfl⟩
  | newPassword id' hash =>
    obtain ⟨user', hfind, hstatus⟩ : ∃ user', (withPassword users id' hash).find id = some user' ∧
        user'.status = user.status := update_status huser fun _ => rfl
    exact ⟨user', hfind, .inl hstatus⟩
  | @keyWrite call _ _ hwrite =>
    obtain ⟨c, request⟩ := call
    cases hwrite with
    | insert => exact ⟨user, huser, .inl rfl⟩
    | limits => exact ⟨user, huser, .inl rfl⟩
    | revoke => exact ⟨user, huser, .inl rfl⟩
    | @disable id' =>
      obtain ⟨user', hfind, hstatus | ⟨rfl, hstatus⟩⟩ := withStatus_status huser id' .disabled
      · exact ⟨user', hfind, .inl hstatus⟩
      · exact ⟨user', hfind, .inr (by rw [hstatus]; rfl)⟩
    | @enable id' =>
      obtain ⟨user', hfind, hstatus | ⟨rfl, hstatus⟩⟩ := withStatus_status huser id' .active
      · exact ⟨user', hfind, .inl hstatus⟩
      · exact ⟨user', hfind, .inr (by rw [hstatus]; rfl)⟩
  | touch => exact ⟨user, huser, .inl rfl⟩

end

theorem Gateway.step_status {id : Uuid} {user : UserModel} (h : s.step X event = some s')
    (huser : s.tables.users.find id = some user) : ∃ user', s'.tables.users.find id = some user' ∧
      (user'.status = user.status ∨ event.setsStatus = some (id, user'.status)) := by
  rcases step_accounts h with ⟨husers, -⟩ | hwrite
  · rw [husers]
    exact ⟨user, huser, .inl rfl⟩
  · exact hwrite.status huser

/-! ## Disabled users -/

theorem disableUser_acknowledged {w w' : Backend} {c : Context} {id : Uuid}
    (h : serve X w ⟨c, .disableUser id⟩ = (json .ok, w')) : (w.users.find id).isSome ∧
      w'.tables = { w.tables with users := withStatus w.users id .disabled } ∧
        w'.apiKeys = w'.tables.apiKeys := by
  change AdminApi.disableUser w c id = _ at h
  unfold AdminApi.disableUser adminOnly at h
  have hreject (rejection : Rejection) : reject w rejection ≠ (json .ok, w') := by
    intro hr
    cases congrArg (fun out => out.1.body) hr
  split at h
  · exact absurd h (hreject _)
  split at h
  · exact absurd h (hreject _)
  split at h
  · rename_i users hdone
    obtain ⟨rfl, hsome⟩ := updateRow_done hdone
    obtain ⟨-, htables, hkeys⟩ := refresh_unwarned h rfl
    exact ⟨hsome, htables, hkeys.trans (by rw [htables])⟩
  · exact absurd h (hreject _)
  · exact absurd h (hreject _)

/-- **Disabled until enabled.** After a user was disabled and the reply carries no warning, and with
no other request and no reload in flight at the reply, none of the user's keys authenticates, not
even one created later, whatever boots, deaths, requests, failures, reloads and traffic follow one
after another, as long as nobody asks to enable the user. -/
theorem disabled_user_stays_out {w w' v : Backend} {c : Context} {id : Uuid}
    {tr : List GatewayEvent} (hdisable : serve X w ⟨c, .disableUser id⟩ = (json .ok, w'))
    (hrun : Run (Gateway.step X) (fun _ event => event.setsStatus ≠ some (id, .active))
      (.up w') tr (.up v)) (headers : HeaderMap) (identity : KeyIdentity)
    (hauth : v.console.shared.state.authorize X.toPackages headers = some identity) :
    identity.userId ≠ id := by
  obtain ⟨hsome, htables, hkeys⟩ := disableUser_acknowledged hdisable
  obtain ⟨user, huser⟩ := Option.isSome_iff_exists.1 hsome
  let Disabled (u : Gateway) : Prop :=
    ∃ user, u.tables.users.find id = some user ∧ user.status = .disabled
  have hout (u : Gateway) (hu : Disabled u) : u.tables.apiKeys.Excludes (·.userId = id) := by
    obtain ⟨user, hfind, hstatus⟩ := hu
    exact disabled_excludes hfind hstatus
  have hstart : Disabled (.up w') := by
    show ∃ user, w'.tables.users.find id = some user ∧ user.status = .disabled
    rw [htables]
    refine ⟨user.setStatus .disabled, ?_, rfl⟩
    show (withStatus w.users id .disabled).find id = _
    rw [withStatus, Table.find_update, huser, Option.map_some, Table.change,
      if_pos (Table.find_eq_some.1 huser).2]
  have hinv : Disabled (.up v) ∧ (Gateway.up v).Excludes (·.userId = id) := by
    refine hrun.inv (I := fun u => Disabled u ∧ u.Excludes (·.userId = id)) ?_ ?_
    · refine ⟨hstart, ?_⟩
      rintro _ ⟨⟩
      rw [hkeys]
      exact hout (.up w') hstart
    · rintro u event u' ⟨⟨user, hfind, hstatus⟩, hexcl⟩ hevent hs
      have hdisabled : Disabled u' := by
        obtain ⟨user', hfind', hsame | hset⟩ := Gateway.step_status hs hfind
        · exact ⟨user', hfind', hsame.trans hstatus⟩
        · cases hstatus' : user'.status with
          | active =>
            rw [hstatus'] at hset
            exact absurd hset hevent
          | disabled => exact ⟨user', hfind', hstatus'⟩
      exact ⟨hdisabled, hexcl.step hs (hout u' hdisabled)⟩
  obtain ⟨digest, hlookup⟩ := authorize_lookup hauth
  exact hinv.2 v rfl digest identity hlookup

/-- A user is created and disabled, and the gateway restarted. -/
theorem disabled_user_stays_out_sample : ∃ w u w' v,
    sampleDown.step sampleExternals (.boot sampleBoot) = some (.up w) ∧
    (serve sampleExternals w ⟨sampleContext, .createUser "ann" "password" "user"⟩).2 = u ∧
    serve sampleExternals u ⟨sampleContext, .disableUser 20⟩ = (json .ok, w') ∧
    Steps (Gateway.step sampleExternals) (.up w') [.die, .boot sampleBoot] (.up v) ∧
    ∀ headers identity,
      v.console.shared.state.authorize sampleExternals.toPackages headers = some identity →
        identity.userId ≠ 20 := by
  obtain ⟨w, u, w', v, hboot, hcreate, hdisable, hrun⟩ : ∃ w u w' v,
      sampleDown.step sampleExternals (.boot sampleBoot) = some (.up w) ∧
      (serve sampleExternals w ⟨sampleContext, .createUser "ann" "password" "user"⟩).2 = u ∧
      serve sampleExternals u ⟨sampleContext, .disableUser 20⟩ = (json .ok, w') ∧
      Steps (Gateway.step sampleExternals) (.up w') [.die, .boot sampleBoot] (.up v) :=
    ⟨_, _, _, _, rfl, rfl, rfl, .snoc (.snoc .nil trivial rfl) trivial rfl⟩
  have hspared : Run (Gateway.step sampleExternals)
      (fun _ event => event.setsStatus ≠ some (20, .active)) (.up w') [.die, .boot sampleBoot]
      (.up v) := by
    refine hrun.restrict fun _ event hevent => ?_
    simp only [List.mem_cons, List.not_mem_nil, or_false] at hevent
    rcases hevent with rfl | rfl
    · exact Option.some_ne_none _ |>.symm
    · exact Option.some_ne_none _ |>.symm
  exact ⟨w, u, w', v, hboot, hcreate, hdisable, hrun, disabled_user_stays_out hdisable hspared⟩

end LiteAgentify
