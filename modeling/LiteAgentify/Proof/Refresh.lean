import LiteAgentify.Admin.AccountApi
import LiteAgentify.Lib.Sums
import LiteAgentify.Proof.Snapshot
import Mathlib.Algebra.Order.Ring.Rat

/-!
# The snapshot at rest

An account mutation is written to the database, then read back and published in separate steps, so
the publications of two handlers can cross: the map read first is published last
(`stale_key_map_is_served`). What a run must avoid is a publication that is older than the database
while no other handler is about to publish a newer one (`PublishesCurrent`). Then the snapshot at
rest is what the database says (`snapshot_current_at_rest`): a revoked key and a key of a disabled
user no longer authenticate, and every acknowledged grant counts in the quota check.
-/

set_option autoImplicit false

namespace LiteAgentify

/-! ## Key maps -/

theorem keyMap_append (keys : List ApiKeyRow) (key : ApiKeyRow) (users : List UserRow) :
    keyMap (keys ++ [key]) users =
      if key.userId ∈ users.map UserRow.id then
        match decodeHex32 key.keyHash with
        | some digest => (keyMap keys users).insert digest key.identity
        | none => keyMap keys users
      else keyMap keys users := by
  rw [keyMap, List.foldl_append]
  rfl

/-- Every identity of a key map is that of one of its keys, whose owner is one of its users. -/
theorem keyMap_lookup {keys : List ApiKeyRow} {users : List UserRow} {digest : Digest}
    {identity : KeyIdentity} (h : (keyMap keys users).lookup digest = some identity) :
    ∃ key ∈ keys, key.identity = identity ∧ key.userId ∈ users.map UserRow.id := by
  induction keys using List.reverseRecOn with
  | nil => simp [keyMap] at h
  | append_singleton keys key ih =>
    have old (h : (keyMap keys users).lookup digest = some identity) :
        ∃ k ∈ keys ++ [key], k.identity = identity ∧ k.userId ∈ users.map UserRow.id := by
      obtain ⟨k, hk, hid, hu⟩ := ih h
      exact ⟨k, List.mem_append_left _ hk, hid, hu⟩
    rw [keyMap_append] at h
    split at h
    · rename_i hu
      split at h
      · rename_i d _
        by_cases hd : digest = d
        · subst hd
          rw [Finmap.lookup_insert, Option.some.injEq] at h
          exact ⟨key, by simp, h, hu⟩
        · rw [Finmap.lookup_insert_of_ne _ hd] at h
          exact old h
      · exact old h
    · exact old h

/-- A caller that the key map of the database authenticates has an active key, whose owner is
active. -/
theorem authorize_active {P : Packages} {db : Database} {state : GatewayState}
    {headers : HeaderMap} {identity : KeyIdentity} (hs : state.apiKeys = activeKeyMap db)
    (h : state.authorize P headers = some identity) :
    (∃ key ∈ db.keys, key.status = .active ∧ key.id = identity.apiKeyId ∧
      key.userId = identity.userId) ∧
      ∃ user ∈ db.users, user.status = .active ∧ user.id = identity.userId := by
  obtain ⟨candidate, -, hc⟩ := List.exists_of_findSome?_eq_some h
  rw [hs] at hc
  obtain ⟨key, hk, rfl, hu⟩ := keyMap_lookup hc
  obtain ⟨user, hum, hid⟩ := List.mem_map.1 hu
  simp only [Database.activeKeys, Database.activeUsers, List.mem_filter,
    decide_eq_true_eq] at hk hum
  exact ⟨⟨key, hk.1, hk.2, rfl, rfl⟩, user, hum.1, hum.2, hid⟩

/-! ## Writes -/

/-- What a ledger grants to a user. -/
def granted (ledger : List GrantRow) (user : Uuid) : ℚ :=
  ((ledger.filter (·.userId = user)).map GrantRow.amountUsd).sum

theorem grantSums_getD (ledger : List GrantRow) (user : Uuid) :
    ((grantSums ledger).lookup user).getD 0 = granted ledger user := by
  rw [grantSums, lookup_groupSums]
  split
  · simp [granted]
  · rename_i h
    have : ledger.filter (·.userId = user) = [] := by
      simpa [List.filter_eq_nil_iff] using h
    simp [granted, this]

/-- What a request to `create_grant` grants to a user. -/
def AccountRequest.grants (P : Packages) (user : Uuid) : AccountRequest → ℚ
  | .createGrant _ body =>
    match grantRow P body with
    | some grant => if grant.userId = user then grant.amountUsd else 0
    | none => 0
  | _ => 0

/-- What the writes of the handlers do to the tables. -/
inductive Writes (P : Packages) (db : Database) : AccountRequest → Database → Prop
  | createKey (identity : SessionIdentity) (body : CreateKeyRequest) (key : ApiKeyRow)
      (db' : Database) : db.insertKey key = some db' →
      Writes P db (.createKey identity body key.id key.keyHash) db'
  | updateKey (identity : SessionIdentity) (id : Uuid) (body : UpdateKeyRequest)
      (allowedModels : Option (List String)) (spendCapUsd : Option ℚ) :
      Writes P db (.updateKey identity id body) (db.setKeyLimits id allowedModels spendCapUsd)
  | revokeKey (identity : SessionIdentity) (id : Uuid) : (∃ key ∈ db.keys, key.id = id) →
      Writes P db (.revokeKey identity id) (db.setKeyStatus id .revoked)
  | disableUser (identity : SessionIdentity) (id : Uuid) :
      Writes P db (.disableUser identity id) (db.setUserStatus id .disabled)
  | enableUser (identity : SessionIdentity) (id : Uuid) :
      Writes P db (.enableUser identity id) (db.setUserStatus id .active)
  | createGrant (identity : SessionIdentity) (body : GrantBody) (grant : GrantRow)
      (db' : Database) : grantRow P body = some grant →
      db.insertGrant grant identity.userId = some db' → Writes P db (.createGrant identity body) db'

theorem insertKey_eq {db db' : Database} {key : ApiKeyRow} (h : db.insertKey key = some db') :
    key.id ∉ db.keys.map ApiKeyRow.id ∧ db'.keys = db.keys ++ [key] ∧ db'.users = db.users ∧
      db'.grants = db.grants := by
  unfold Database.insertKey at h
  split at h
  · rename_i hc
    cases h
    exact ⟨hc.1, rfl, rfl, rfl⟩
  · cases h

theorem insertGrant_eq {db db' : Database} {grant : GrantRow} {grantedBy : Uuid}
    (h : db.insertGrant grant grantedBy = some db') :
    db'.keys = db.keys ∧ db'.users = db.users ∧ db'.grants = db.grants ++ [grant] := by
  unfold Database.insertGrant at h
  split at h
  · cases h
    exact ⟨rfl, rfl, rfl⟩
  · cases h

theorem granted_append (ledger : List GrantRow) (grant : GrantRow) (user : Uuid) :
    granted (ledger ++ [grant]) user =
      granted ledger user + if grant.userId = user then grant.amountUsd else 0 := by
  by_cases h : grant.userId = user <;> simp [granted, List.filter_append, h]

/-- A write adds to the ledger what its request grants. -/
theorem Writes.granted {P : Packages} {db db' : Database} {request : AccountRequest}
    (h : Writes P db request db') (user : Uuid) :
    LiteAgentify.granted db'.grants user =
      LiteAgentify.granted db.grants user + request.grants P user := by
  cases h with
  | createKey _ _ key _ hi => simp [AccountRequest.grants, (insertKey_eq hi).2.2.2]
  | createGrant _ body grant _ hr hi =>
    rw [(insertGrant_eq hi).2.2, granted_append]
    simp [AccountRequest.grants, hr]
  | _ => simp [AccountRequest.grants, Database.setKeyLimits, Database.setKeyStatus,
      Database.setUserStatus, Database.mapKeys]

/-- The key with this id is in the table and revoked. -/
def Revoked (db : Database) (id : Uuid) : Prop :=
  ∃ key ∈ db.keys, key.id = id ∧ key.status = .revoked

/-- No active user has this id. -/
def Disabled (db : Database) (id : Uuid) : Prop :=
  ∀ user ∈ db.users, user.id = id → user.status = .disabled

/-- A revoked key stays revoked. -/
theorem Writes.revoked {P : Packages} {db db' : Database} {request : AccountRequest} {id : Uuid}
    (h : Writes P db request db') (hr : Revoked db id) : Revoked db' id := by
  obtain ⟨key, hk, hid, hst⟩ := hr
  cases h with
  | createKey _ _ _ _ hi =>
    exact ⟨key, by rw [(insertKey_eq hi).2.1]; exact List.mem_append_left _ hk, hid, hst⟩
  | createGrant _ _ _ _ _ hi => exact ⟨key, by rw [(insertGrant_eq hi).1]; exact hk, hid, hst⟩
  | updateKey _ id' _ allowedModels cap =>
    refine ⟨_, List.mem_map_of_mem hk, ?_, ?_⟩
    · split <;> exact hid
    · split <;> exact hst
  | revokeKey _ id' _ =>
    refine ⟨_, List.mem_map_of_mem hk, ?_, ?_⟩
    · split <;> exact hid
    · split
      · rfl
      · exact hst
  | disableUser _ _ => exact ⟨key, hk, hid, hst⟩
  | enableUser _ _ => exact ⟨key, hk, hid, hst⟩

/-- A disabled user stays disabled while no request enables them. -/
theorem Writes.disabled {P : Packages} {db db' : Database} {request : AccountRequest} {id : Uuid}
    (h : Writes P db request db') (hne : ∀ identity, request ≠ .enableUser identity id)
    (hd : Disabled db id) : Disabled db' id := by
  cases h with
  | createKey _ _ _ _ hi => rw [Disabled, (insertKey_eq hi).2.2.1]; exact hd
  | createGrant _ _ _ _ _ hi => rw [Disabled, (insertGrant_eq hi).2.1]; exact hd
  | updateKey _ _ _ _ _ => exact hd
  | revokeKey _ _ _ => exact hd
  | disableUser _ id' =>
    intro user hu hid
    obtain ⟨old, ho, rfl⟩ := List.mem_map.1 hu
    split
    · rfl
    · rename_i h'
      rw [if_neg h'] at hid
      exact hd old ho hid
  | enableUser identity id' =>
    intro user hu hid
    obtain ⟨old, ho, rfl⟩ := List.mem_map.1 hu
    split
    · rename_i h'
      rw [if_pos h'] at hid
      exact absurd (h' ▸ hid ▸ rfl) (hne identity)
    · rename_i h'
      rw [if_neg h'] at hid
      exact hd old ho hid

/-! ## Steps -/

namespace Place

/-- The write is done and what it changed is not published yet. -/
def isPending : Place → Bool
  | written | readKeys _ | refreshed _ | summed _ => true
  | _ => false

/-- The handler has returned success, with the snapshot refreshed. -/
def isAcknowledged : Place → Bool
  | returned response => response.isAcknowledged
  | _ => false

/-- The handler has returned success, with a refresh that failed. -/
def isWarned : Place → Bool
  | returned response => response.isWarned
  | _ => false

def isReturned : Place → Bool
  | returned _ => true
  | _ => false

/-- The handler's change is in the database. -/
def hasWritten (place : Place) : Bool :=
  place.isPending || place.isAcknowledged || place.isWarned

end Place

/-- The handler is waiting to update the key that it found. -/
def Aims (db : Database) : AccountRequest → Place → Prop
  | .revokeKey _ id, .loaded | .revokeKey _ id, .found => ∃ key ∈ db.keys, key.id = id
  | _, _ => True

/-- What a handler holds fits its request. -/
def Fits (request : AccountRequest) : Place → Prop
  | .readKeys _ | .refreshed _ => request.refreshesKeys = true
  | .summed _ => request.refreshesKeys = false
  | _ => True

/-- A place before the write, or the end of a handler that has nothing to write: an error, or the
key to revoke is revoked already. -/
structure Waits (db : Database) (request : AccountRequest) (place : Place) : Prop where
  pending : place.isPending = false
  warned : place.isWarned = false
  aims : Aims db request place
  acknowledged : place.isAcknowledged →
    ∃ identity id, request = .revokeKey identity id ∧ Revoked db id

theorem waits_error (db : Database) (request : AccountRequest) (rejection : Rejection) :
    Waits db request (.returned (.error rejection)) :=
  ⟨rfl, rfl, by cases request <;> trivial, nofun⟩

theorem waits_findRow {R : Type} {db : Database} {request : AccountRequest} {row : Option R}
    (h : row.isSome → Aims db request .found) (fault : Bool) (failed missing : String) :
    Waits db request (findRow row fault failed missing) := by
  unfold findRow
  split
  · exact waits_error _ _ _
  · split
    · rename_i hr
      exact ⟨rfl, rfl, h hr, nofun⟩
    · exact waits_error _ _ _

theorem mem_of_findKey {db : Database} {id : Uuid} {key : ApiKeyRow}
    (h : db.findKey id = some key) : key ∈ db.keys ∧ key.id = id :=
  ⟨List.mem_of_find?_eq_some h, by simpa using List.find?_some h⟩

theorem waits_loadKey {db : Database} {request : AccountRequest} {identity : SessionIdentity}
    {id : Uuid} {next : ApiKeyRow → Place}
    (h : ∀ key ∈ db.keys, key.id = id → Waits db request (next key)) (fault : Bool) :
    Waits db request (loadKey db fault identity id next) := by
  unfold loadKey
  split
  · exact waits_error _ _ _
  · split
    · exact waits_error _ _ _
    · rename_i key hk
      split
      · exact waits_error _ _ _
      · exact h key (mem_of_findKey hk).1 (mem_of_findKey hk).2

theorem writeRow_cases {db : Database} {written : Option Database} {fault : Bool} {failed : String}
    {db' : Database} {place : Place} (h : writeRow db written fault failed = (db', place)) :
    written = some db' ∧ place = .written ∨
      db' = db ∧ ∃ rejection, place = .returned (.error rejection) := by
  unfold writeRow at h
  split at h
  · cases h
    exact .inl ⟨rfl, rfl⟩
  · cases h
    exact .inr ⟨rfl, _, rfl⟩

theorem findKey_aims {db : Database} {identity : SessionIdentity} {id : Uuid}
    (h : (db.findKey id).isSome) : Aims db (.revokeKey identity id) .found := by
  obtain ⟨key, hk⟩ := Option.isSome_iff_exists.1 h
  exact ⟨key, mem_of_findKey hk⟩

/-- What a statement of the handler up to the write does. -/
inductive WriteKind (P : Packages) (db : Database) (request : AccountRequest) :
    Database → Place → Prop
  | write (db' : Database) : Writes P db request db' → WriteKind P db request db' .written
  | wait (place : Place) : Waits db request place → WriteKind P db request db place

theorem writeKind_writeRow {P : Packages} {db db' : Database} {request : AccountRequest}
    {written : Option Database} {fault : Bool} {failed : String} {place : Place}
    (hw : ∀ db', written = some db' → Writes P db request db')
    (h : writeRow db written fault failed = (db', place)) : WriteKind P db request db' place := by
  rcases writeRow_cases h with ⟨hs, rfl⟩ | ⟨rfl, rejection, rfl⟩
  · exact .write _ (hw _ hs)
  · exact .wait _ (waits_error _ _ _)

theorem writeStep_kind {P : Packages} {db db' : Database} {fault : Bool}
    {request : AccountRequest} {place place' : Place} (ha : Aims db request place)
    (h : request.writeStep P db fault place = some (db', place')) :
    place.hasWritten = false ∧ WriteKind P db request db' place' := by
  unfold AccountRequest.writeStep at h
  split at h
  all_goals first
    | (refine ⟨rfl, ?_⟩)
    | cases h
  · split at h
    · cases h
      exact .wait _ (waits_error _ _ _)
    · refine writeKind_writeRow (fun db' hi => ?_) (Option.some.inj h)
      simp only [Option.bind_eq_some_iff] at hi
      obtain ⟨_, -, hi⟩ := hi
      exact .createKey _ _ _ _ hi
  · cases h
    refine .wait _ (waits_loadKey (fun key _ _ => ?_) _)
    split
    · exact waits_error _ _ _
    · exact ⟨rfl, rfl, trivial, nofun⟩
  · cases h
    exact .wait _ (waits_findRow (fun _ => by trivial) _ _ _)
  · split at h
    · cases h
      exact .wait _ (waits_error _ _ _)
    · refine writeKind_writeRow (fun db' hi => ?_) (Option.some.inj h)
      simp only [Option.map_eq_some_iff] at hi
      obtain ⟨_, -, rfl⟩ := hi
      exact .updateKey _ _ _ _ _
  · cases h
    refine .wait _ (waits_loadKey (fun key hk hid => ?_) _)
    split
    · rename_i hst
      exact ⟨rfl, rfl, trivial, fun _ => ⟨_, _, rfl, key, hk, hid, hst⟩⟩
    · exact ⟨rfl, rfl, ⟨key, hk, hid⟩, nofun⟩
  · cases h
    exact .wait _ (waits_findRow findKey_aims _ _ _)
  · exact writeKind_writeRow (fun db' hi => by cases hi; exact .revokeKey _ _ ha)
      (Option.some.inj h)
  · split at h
    · cases h
      exact .wait _ (waits_error _ _ _)
    · split at h
      · cases h
        exact .wait _ (waits_error _ _ _)
      · cases h
        exact .wait _ (waits_findRow (fun _ => by trivial) _ _ _)
  · exact writeKind_writeRow (fun db' hi => by cases hi; exact .disableUser _ _) (Option.some.inj h)
  · split at h
    · cases h
      exact .wait _ (waits_error _ _ _)
    · cases h
      exact .wait _ (waits_findRow (fun _ => by trivial) _ _ _)
  · exact writeKind_writeRow (fun db' hi => by cases hi; exact .enableUser _ _) (Option.some.inj h)
  · split at h
    · cases h
      exact .wait _ (waits_error _ _ _)
    · split at h
      · cases h
        exact .wait _ (waits_error _ _ _)
      · cases h
        exact .wait _ (waits_findRow (fun _ => by trivial) _ _ _)
  · refine writeKind_writeRow (fun db' hi => ?_) (Option.some.inj h)
    simp only [Option.bind_eq_some_iff] at hi
    obtain ⟨_, hr, hi⟩ := hi
    exact .createGrant _ _ _ _ hr hi

/-- What a step of the refresh does. -/
inductive RefreshKind (request : AccountRequest) (snapshot : GatewayState) :
    Place → GatewayState → Place → Prop
  | read (place place' : Place) : place.isPending → place'.isPending → Fits request place' →
      RefreshKind request snapshot place snapshot place'
  | failed (place : Place) (status : Nat) (warning : String) : place.isPending →
      RefreshKind request snapshot place snapshot (.returned (.ok status (some warning)))
  | keys (apiKeys : ApiKeyMap) (status : Nat) :
      RefreshKind request snapshot (.refreshed apiKeys) (snapshot.withApiKeys apiKeys)
        (.returned (.ok status none))
  | grants (granted : HashMap Uuid ℚ) (status : Nat) :
      RefreshKind request snapshot (.summed granted) (snapshot.withGranted granted)
        (.returned (.ok status none))

theorem refreshStep_kind {request : AccountRequest} {db : Database}
    {snapshot snapshot' : GatewayState} {fault : Bool} {place place' : Place}
    (hf : Fits request place)
    (h : request.refreshStep db snapshot fault place = some (snapshot', place')) :
    RefreshKind request snapshot place snapshot' place' := by
  unfold AccountRequest.refreshStep at h
  split at h
  · split at h <;> cases h
    · rename_i hr
      exact .read _ _ rfl rfl hr
    · exact .failed _ _ _ rfl
    · rename_i hr
      exact .read _ _ rfl rfl hr
    · exact .failed _ _ _ rfl
  · split at h <;> cases h
    · exact .failed _ _ _ rfl
    · exact .read _ _ rfl rfl hf
  · cases h
    exact .keys _ _
  · cases h
    exact .grants _ _
  · cases h

/-! ## The invariant -/

theorem Writes.keyMap_eq {P : Packages} {db db' : Database} {request : AccountRequest}
    (h : Writes P db request db') (hr : request.refreshesKeys = false) :
    activeKeyMap db' = activeKeyMap db := by
  cases h with
  | createGrant _ _ _ _ _ hi =>
    obtain ⟨hk, hu, -⟩ := insertGrant_eq hi
    simp only [activeKeyMap, Database.activeKeys, Database.activeUsers, hk, hu]
  | _ => cases hr

theorem Writes.grants_eq {P : Packages} {db db' : Database} {request : AccountRequest}
    (h : Writes P db request db') (hr : request.refreshesKeys = true) :
    db'.grants = db.grants := by
  cases h with
  | createGrant => cases hr
  | createKey _ _ _ _ hi => exact (insertKey_eq hi).2.2.2
  | _ => rfl

/-- What is written is in the table afterwards. -/
theorem Writes.own {P : Packages} {db db' : Database} {request : AccountRequest}
    (h : Writes P db request db') :
    (∀ identity id, request = .revokeKey identity id → Revoked db' id) ∧
      ∀ identity id, request = .disableUser identity id → Disabled db' id := by
  refine ⟨fun identity id hr => ?_, fun identity id hr => ?_⟩
  · subst hr
    cases h with
    | revokeKey _ _ hk =>
      obtain ⟨key, hk, rfl⟩ := hk
      exact ⟨_, List.mem_map_of_mem hk, by simp, by simp⟩
  · subst hr
    cases h
    intro user hu hid
    obtain ⟨old, -, rfl⟩ := List.mem_map.1 hu
    split
    · rfl
    · rename_i h'
      rw [if_neg h'] at hid
      exact absurd hid h'

/-- A key that is in the table stays there. -/
theorem Writes.known {P : Packages} {db db' : Database} {request : AccountRequest} {id : Uuid}
    (h : Writes P db request db') (hk : ∃ key ∈ db.keys, key.id = id) :
    ∃ key ∈ db'.keys, key.id = id := by
  obtain ⟨key, hk, rfl⟩ := hk
  cases h with
  | createKey _ _ _ _ hi =>
    exact ⟨key, by rw [(insertKey_eq hi).2.1]; exact List.mem_append_left _ hk, rfl⟩
  | createGrant _ _ _ _ _ hi => exact ⟨key, by rw [(insertGrant_eq hi).1]; exact hk, rfl⟩
  | updateKey _ _ _ _ _ => exact ⟨_, List.mem_map_of_mem hk, by split <;> rfl⟩
  | revokeKey _ _ _ => exact ⟨_, List.mem_map_of_mem hk, by split <;> rfl⟩
  | disableUser _ _ => exact ⟨key, hk, rfl⟩
  | enableUser _ _ => exact ⟨key, hk, rfl⟩

section
variable {ι : Type} (P : Packages) (requests : ι → AccountRequest)

/-- A handler that refreshes the keys (or the grants) has written, and its refresh is to come or
has failed. -/
def Unpublished (s : Console ι) (keys : Bool) (i : ι) : Prop :=
  (requests i).refreshesKeys = keys ∧ ((s.place i).isPending ∨ (s.place i).isWarned)

/-- If the step publishes a map, the map is what the database says now, or another handler that has
written is about to publish. -/
def PublishesCurrent (s : Console ι) (l : ι × Bool) : Prop :=
  match s.place l.1 with
  | .refreshed apiKeys => apiKeys = activeKeyMap s.db ∨
      ∃ j, j ≠ l.1 ∧ (requests j).refreshesKeys = true ∧ (s.place j).isPending
  | .summed granted => granted = grantSums s.db.grants ∨
      ∃ j, j ≠ l.1 ∧ (requests j).refreshesKeys = false ∧ (s.place j).isPending
  | _ => True

instance [Fintype ι] [DecidableEq ι] (s : Console ι) (l : ι × Bool) :
    Decidable (PublishesCurrent requests s l) :=
  match h : s.place l.1 with
  | .refreshed apiKeys => decidable_of_iff (apiKeys = activeKeyMap s.db ∨
      ∃ j, j ≠ l.1 ∧ (requests j).refreshesKeys = true ∧ (s.place j).isPending)
      (by rw [PublishesCurrent, h])
  | .summed granted => decidable_of_iff (granted = grantSums s.db.grants ∨
      ∃ j, j ≠ l.1 ∧ (requests j).refreshesKeys = false ∧ (s.place j).isPending)
      (by rw [PublishesCurrent, h])
  | .start | .loaded | .found | .written | .readKeys _ | .returned _ =>
    .isTrue (by rw [PublishesCurrent, h]; trivial)

variable {requests}

/-- A step of handler `i` leaves the other handlers where they are. -/
def Moves (s w : Console ι) (i : ι) : Prop := ∀ j, j ≠ i → w.place j = s.place j

theorem Unpublished.moves {s w : Console ι} {i : ι} {keys : Bool} (hm : Moves s w i)
    (hi : Unpublished requests s keys i → Unpublished requests w keys i)
    (h : ∃ j, Unpublished requests s keys j) : ∃ j, Unpublished requests w keys j := by
  obtain ⟨j, hj⟩ := h
  by_cases hji : j = i
  · subst hji
    exact ⟨j, hi hj⟩
  · exact ⟨j, hj.1, by rw [hm j hji]; exact hj.2⟩

variable (requests) [Fintype ι]

/-- The run invariant. -/
structure Fresh (db₀ : Database) (s : Console ι) : Prop where
  keys : s.snapshot.apiKeys = activeKeyMap s.db ∨ ∃ i, Unpublished requests s true i
  grants : s.snapshot.granted = grantSums s.db.grants ∨ ∃ i, Unpublished requests s false i
  fits : ∀ i, Fits (requests i) (s.place i)
  aims : ∀ i, Aims s.db (requests i) (s.place i)
  revoked : ∀ i identity id, requests i = .revokeKey identity id → (s.place i).hasWritten →
    Revoked s.db id
  disabled : ∀ i identity id, requests i = .disableUser identity id →
    (∀ j identity, requests j ≠ .enableUser identity id) → (s.place i).hasWritten →
    Disabled s.db id
  ledger : ∀ user, granted s.db.grants user = granted db₀.grants user +
    ∑ i, if (s.place i).hasWritten then (requests i).grants P user else 0

variable {P requests}

theorem fresh_init (db : Database) (snapshot : GatewayState) :
    Fresh P requests db (Console.init db snapshot) where
  keys := .inl rfl
  grants := .inl rfl
  fits _ := trivial
  aims i := by cases requests i <;> trivial
  revoked _ _ _ _ h := by cases h
  disabled _ _ _ _ _ h := by cases h
  ledger user := by simp [Console.init, Place.hasWritten, Place.isPending, Place.isAcknowledged,
    Place.isWarned]

/-- A step that changes neither the tables nor who has written keeps what depends on these. -/
theorem Fresh.same_db {db₀ : Database} {s w : Console ι} {i : ι} (hs : Fresh P requests db₀ s)
    (hm : Moves s w i) (hdb : w.db = s.db) (hfit : Fits (requests i) (w.place i))
    (haim : Aims s.db (requests i) (w.place i))
    (hwr : (w.place i).hasWritten → (s.place i).hasWritten ∨
      ∃ identity id, requests i = .revokeKey identity id ∧ Revoked s.db id)
    (hledger : ∀ user, (requests i).grants P user = 0 ∨
      (w.place i).hasWritten = (s.place i).hasWritten)
    (hk : w.snapshot.apiKeys = activeKeyMap s.db ∨ ∃ j, Unpublished requests w true j)
    (hg : w.snapshot.granted = grantSums s.db.grants ∨ ∃ j, Unpublished requests w false j) :
    Fresh P requests db₀ w where
  keys := by rw [hdb]; exact hk
  grants := by rw [hdb]; exact hg
  fits j := by
    by_cases hj : j = i
    · subst hj; exact hfit
    · rw [hm j hj]; exact hs.fits j
  aims j := by
    rw [hdb]
    by_cases hj : j = i
    · subst hj; exact haim
    · rw [hm j hj]; exact hs.aims j
  revoked j identity id hr hw := by
    rw [hdb]
    by_cases hj : j = i
    · subst hj
      rcases hwr hw with hw | ⟨identity', id', hr', hrev⟩
      · exact hs.revoked j identity id hr hw
      · rw [hr] at hr'
        cases hr'
        exact hrev
    · rw [hm j hj] at hw
      exact hs.revoked j identity id hr hw
  disabled j identity id hr hne hw := by
    rw [hdb]
    by_cases hj : j = i
    · subst hj
      rcases hwr hw with hw | ⟨identity', id', hr', -⟩
      · exact hs.disabled j identity id hr hne hw
      · rw [hr] at hr'
        cases hr'
    · rw [hm j hj] at hw
      exact hs.disabled j identity id hr hne hw
  ledger user := by
    rw [hdb, hs.ledger user]
    congr 1
    refine (Sums.sum_same i (fun j hj => by rw [hm j hj]) ?_).symm
    rcases hledger user with h0 | hw
    · rw [h0]
      split <;> split <;> rfl
    · rw [hw]

/-- A write. -/
theorem Fresh.write {db₀ : Database} {s w : Console ι} {i : ι} (hs : Fresh P requests db₀ s)
    (hm : Moves s w i) (hsnap : w.snapshot = s.snapshot) (hp : w.place i = .written)
    (hn : (s.place i).hasWritten = false) (hw : Writes P s.db (requests i) w.db) :
    Fresh P requests db₀ w where
  keys := by
    cases hr : (requests i).refreshesKeys with
    | true => exact .inr ⟨i, hr, by rw [hp]; exact .inl rfl⟩
    | false =>
      rw [hsnap, hw.keyMap_eq hr]
      exact hs.keys.imp_right (Unpublished.moves hm fun h => by rw [h.1] at hr; cases hr)
  grants := by
    cases hr : (requests i).refreshesKeys with
    | false => exact .inr ⟨i, hr, by rw [hp]; exact .inl rfl⟩
    | true =>
      rw [hsnap, hw.grants_eq hr]
      exact hs.grants.imp_right (Unpublished.moves hm fun h => by rw [h.1] at hr; cases hr)
  fits j := by
    by_cases hj : j = i
    · subst hj; rw [hp]; trivial
    · rw [hm j hj]; exact hs.fits j
  aims j := by
    by_cases hj : j = i
    · subst hj; rw [hp]; cases requests j <;> trivial
    · rw [hm j hj]
      have := hs.aims j
      cases hr : requests j with
      | revokeKey identity id =>
        rw [hr] at this
        cases hpl : s.place j with
        | loaded => rw [hpl] at this; exact hw.known this
        | found => rw [hpl] at this; exact hw.known this
        | _ => trivial
      | _ => trivial
  revoked j identity id hr hwj := by
    by_cases hj : j = i
    · subst hj
      exact hw.own.1 identity id hr
    · rw [hm j hj] at hwj
      exact hw.revoked (hs.revoked j identity id hr hwj)
  disabled j identity id hr hne hwj := by
    by_cases hj : j = i
    · subst hj
      exact hw.own.2 identity id hr
    · rw [hm j hj] at hwj
      exact hw.disabled (hne i) (hs.disabled j identity id hr hne hwj)
  ledger user := by
    have hsum := Sums.sum_change
      (f := fun j => if (s.place j).hasWritten then (requests j).grants P user else 0)
      (g := fun j => if (w.place j).hasWritten then (requests j).grants P user else 0) i
      (fun j hj => by rw [hm j hj])
    rw [hw.granted, hs.ledger user, hsum, hn, hp]
    simp [Place.hasWritten, Place.isPending, add_assoc]

theorem Fresh.current {db₀ : Database} {s : Console ι} (hs : Fresh P requests db₀ s)
    (hrest : ∀ i, s.place i = .start ∨ (s.place i).isReturned ∧ ¬ (s.place i).isWarned) :
    s.snapshot.apiKeys = activeKeyMap s.db ∧ s.snapshot.granted = grantSums s.db.grants := by
  have hnone {keys : Bool} : ¬ ∃ i, Unpublished requests s keys i := by
    rintro ⟨i, -, hi⟩
    rcases hrest i with h | ⟨hr, hw⟩
    · simp [h, Place.isPending, Place.isWarned] at hi
    · cases hp : s.place i <;> simp_all [Place.isPending, Place.isReturned]
  exact ⟨hs.keys.resolve_right hnone, hs.grants.resolve_right hnone⟩

variable [DecidableEq ι]

/-- **The step lemma.** -/
theorem fresh_step {db₀ : Database} {s w : Console ι} {l : ι × Bool}
    (hs : Fresh P requests db₀ s) (hg : PublishesCurrent requests s l)
    (h : Console.step P requests s l = some w) : Fresh P requests db₀ w := by
  obtain ⟨i, fault⟩ := l
  have hm {db : Database} {snapshot : GatewayState} {place : Place} :
      Moves s ⟨db, snapshot, Function.update s.place i place⟩ i := fun j hj =>
    Function.update_of_ne hj _ _
  unfold Console.step at h
  dsimp only at h
  split at h
  · rename_i db place hwr
    cases h
    obtain ⟨hn, hk⟩ := writeStep_kind (hs.aims i) hwr
    cases hk with
    | write _ hw => exact hs.write hm rfl (Function.update_self ..) hn hw
    | wait _ hwait =>
      obtain ⟨hp, hwarn, haim, hack⟩ := hwait
      -- nothing is waiting for this handler's refresh, before or after
      have hnone {keys : Bool} (hu : Unpublished requests s keys i) :
          Unpublished requests ⟨s.db, s.snapshot, Function.update s.place i place⟩ keys i := by
        obtain ⟨-, hu⟩ := hu
        rcases hu with hu | hu <;> simp [Place.hasWritten, hu] at hn
      refine hs.same_db hm rfl ?_ (by simpa using haim) (fun hw => .inr ?_) (fun user => ?_)
        (hs.keys.imp_right (Unpublished.moves hm hnone))
        (hs.grants.imp_right (Unpublished.moves hm hnone))
      · simp only [Function.update_self]
        cases place <;> trivial
      · simp only [Function.update_self, Place.hasWritten, hp, hwarn, Bool.or_false,
          Bool.false_or] at hw
        exact hack hw
      · by_cases ha : place.isAcknowledged
        · obtain ⟨_, _, hr, -⟩ := hack ha
          exact .inl (by rw [hr]; rfl)
        · right
          simp only [Function.update_self, hn]
          simp [Place.hasWritten, hp, hwarn, ha]
  · rename_i hnw
    simp only [Option.map_eq_some_iff, Prod.exists] at h
    obtain ⟨snapshot, place, hr, rfl⟩ := h
    have hk := refreshStep_kind (hs.fits i) hr
    have hfit := hs.fits i
    unfold PublishesCurrent at hg
    dsimp only at hg
    -- a handler whose refresh is under way has written, and has no key to look for
    have hkeep (hp : (s.place i).isPending) (hw : place.hasWritten) (hf : Fits (requests i) place)
        (ha : Aims s.db (requests i) place)
        (hk : snapshot.apiKeys = activeKeyMap s.db ∨ ∃ j, Unpublished requests
          ⟨s.db, snapshot, Function.update s.place i place⟩ true j)
        (hg : snapshot.granted = grantSums s.db.grants ∨ ∃ j, Unpublished requests
          ⟨s.db, snapshot, Function.update s.place i place⟩ false j) :
        Fresh P requests db₀ ⟨s.db, snapshot, Function.update s.place i place⟩ := by
      have hsw : (s.place i).hasWritten = true := by simp [Place.hasWritten, hp]
      exact hs.same_db hm rfl (by simpa using hf) (by simpa using ha) (fun _ => .inl hsw)
        (fun _ => .inr (by simp [hsw, hw])) hk hg
    generalize hpl : s.place i = pl at hk hg hfit
    cases hk with
    | read _ _ hp hp' hf =>
      have hstill {keys : Bool} (hu : Unpublished requests s keys i) : Unpublished requests
          ⟨s.db, s.snapshot, Function.update s.place i place⟩ keys i :=
        ⟨hu.1, .inl (by simpa using hp')⟩
      exact hkeep (hpl ▸ hp) (by simp [Place.hasWritten, hp']) hf
        (by cases place <;> cases requests i <;> trivial)
        (hs.keys.imp_right (Unpublished.moves hm hstill))
        (hs.grants.imp_right (Unpublished.moves hm hstill))
    | failed _ status warning hp =>
      have hstill {keys : Bool} (hu : Unpublished requests s keys i) : Unpublished requests
          ⟨s.db, s.snapshot, Function.update s.place i (.returned (.ok status (some warning)))⟩
            keys i :=
        ⟨hu.1, .inr (by simp [Place.isWarned, Response.isWarned])⟩
      exact hkeep (hpl ▸ hp) rfl trivial (by cases requests i <;> trivial)
        (hs.keys.imp_right (Unpublished.moves hm hstill))
        (hs.grants.imp_right (Unpublished.moves hm hstill))
    | keys apiKeys status =>
      refine hkeep (by rw [hpl]; rfl) rfl trivial (by cases requests i <;> trivial)
        (hg.imp_right ?_)
        (hs.grants.imp_right (Unpublished.moves hm fun hu => nomatch hu.1.symm.trans hfit))
      rintro ⟨j, hj, hr, hp⟩
      exact ⟨j, hr, .inl (by simpa [hj] using hp)⟩
    | grants granted status =>
      refine hkeep (by rw [hpl]; rfl) rfl trivial (by cases requests i <;> trivial)
        (hs.keys.imp_right (Unpublished.moves hm fun hu => nomatch hu.1.symm.trans hfit))
        (hg.imp_right ?_)
      rintro ⟨j, hj, hr, hp⟩
      exact ⟨j, hr, .inl (by simpa [hj] using hp)⟩

/-! ## Runs -/

/-- **The snapshot at rest is what the database says**, in runs that publish nothing older: when
every started handler has returned and no refresh has failed, the snapshot has the key map and the
grants of the database. Then only active keys of active users authenticate, no key whose revocation
is acknowledged does, no key of a user whose disabling is acknowledged (and whom no request
enables) does, and the quota check counts every acknowledged grant. -/
theorem snapshot_current_at_rest {db₀ : Database} {snapshot₀ : GatewayState}
    {tr : List (ι × Bool)} {s : Console ι}
    (h : Lts.Run (Console.step P requests) (PublishesCurrent requests)
      (Console.init db₀ snapshot₀) tr s)
    (hrest : ∀ i, s.place i = .start ∨ (s.place i).isReturned ∧ ¬ (s.place i).isWarned) :
    s.snapshot.apiKeys = activeKeyMap s.db ∧ s.snapshot.granted = grantSums s.db.grants ∧
      (∀ headers caller, s.snapshot.authorize P headers = some caller →
        (∃ key ∈ s.db.keys, key.status = .active ∧ key.id = caller.apiKeyId ∧
          key.userId = caller.userId) ∧
        (∃ user ∈ s.db.users, user.status = .active ∧ user.id = caller.userId) ∧
        (∀ i identity, (s.place i).isAcknowledged →
          requests i ≠ .revokeKey identity caller.apiKeyId) ∧
        ∀ i identity, (s.place i).isAcknowledged →
          (∀ j identity, requests j ≠ .enableUser identity caller.userId) →
          requests i ≠ .disableUser identity caller.userId) ∧
      ∀ caller spent, s.snapshot.checkUserQuota caller spent = .allowed ↔
        spent < granted db₀.grants caller.userId +
          ∑ i, if (s.place i).isAcknowledged then (requests i).grants P caller.userId else 0 := by
  have hs : Fresh P requests db₀ s :=
    h.inv (fresh_init db₀ snapshot₀) fun u l w hu hg hw => fresh_step hu hg hw
  obtain ⟨hk, hg⟩ := hs.current hrest
  have hack (i : ι) : (s.place i).hasWritten = (s.place i).isAcknowledged := by
    rcases hrest i with h | ⟨hr, hw⟩
    · rw [h]; rfl
    · cases hp : s.place i <;> simp_all [Place.hasWritten, Place.isPending, Place.isReturned]
  refine ⟨hk, hg, fun headers caller ha => ?_, fun caller spent => ?_⟩
  · obtain ⟨⟨key, hkm, hkst, hkid, hku⟩, user, hum, hust, huid⟩ := authorize_active hk ha
    refine ⟨⟨key, hkm, hkst, hkid, hku⟩, ⟨user, hum, hust, huid⟩, fun i identity hi hr => ?_,
      fun i identity hi hne hr => ?_⟩
    · -- the primary key makes the revoked row the active one
      obtain ⟨key', hkm', hkid', hkst'⟩ := hs.revoked i identity _ hr (by rw [hack]; exact hi)
      have : key = key' :=
        List.inj_on_of_nodup_map s.db.keyIds hkm hkm' (hkid.trans hkid'.symm)
      rw [this, hkst'] at hkst
      cases hkst
    · have hd := hs.disabled i identity _ hr hne (by rw [hack]; exact hi) user hum huid
      rw [hd] at hust
      cases hust
  · have hsum := hs.ledger caller.userId
    simp only [hack] at hsum
    rw [← hsum, ← grantSums_getD, ← hg]
    simp only [GatewayState.checkUserQuota]
    split
    · rename_i hge
      simp only [reduceCtorEq, false_iff]
      exact not_lt.2 hge
    · rename_i hlt
      simp only [true_iff]
      exact not_le.1 hlt

end

/-! ## A stale publication -/

/-- A user with two active keys. -/
def twoKeys : Database where
  users := [{ id := 1, role := .user, status := .active }]
  keys := [
    { id := 2, userId := 1, status := .active, allowedModels := none, spendCapUsd := none
      keyHash := "0202020202020202020202020202020202020202020202020202020202020202" },
    { id := 3, userId := 1, status := .active, allowedModels := none, spendCapUsd := none
      keyHash := "0303030303030303030303030303030303030303030303030303030303030303" }]
  grants := []
  userIds := by decide
  keyIds := by decide

/-- The user revokes both keys at once. -/
def revokeBoth : Fin 2 → AccountRequest
  | 0 => .revokeKey ⟨1, "alice", .user⟩ 2
  | 1 => .revokeKey ⟨1, "alice", .user⟩ 3

/-- The steps of the two revocations, in turn. -/
def inTurn : List (Fin 2 × Bool) :=
  (List.replicate 6 ((List.finRange 2).map fun i => (i, false))).flatten

/-- Both have written before either reads the key map: neither key authenticates any more. -/
theorem revocation_at_rest : ∃ s,
    Lts.Run (Console.step default revokeBoth) (PublishesCurrent revokeBoth)
      (Console.init twoKeys (GatewayState.ofRouting (routingOf {} {}) 0 0)) inTurn s ∧
    (∀ i, (s.place i).isAcknowledged) ∧ s.snapshot.apiKeys = activeKeyMap s.db ∧
    ∀ headers caller, s.snapshot.authorize default headers = some caller →
      ∀ i, revokeBoth i ≠ .revokeKey ⟨1, "alice", .user⟩ caller.apiKeyId := by
  obtain ⟨s, hexec, hack, hreturned⟩ : ∃ s, Lts.exec (Lts.guarded (Console.step default revokeBoth)
      (PublishesCurrent revokeBoth))
      (Console.init twoKeys (GatewayState.ofRouting (routingOf {} {}) 0 0)) inTurn = some s ∧
      (∀ i, (s.place i).isAcknowledged) ∧ ∀ i, (s.place i).isReturned ∧ ¬ (s.place i).isWarned :=
    ⟨_, rfl, by decide, by decide⟩
  have hrun := Lts.run_of_guarded hexec
  obtain ⟨hkeys, -, hauthorized, -⟩ := snapshot_current_at_rest hrun fun i => .inr (hreturned i)
  exact ⟨s, hrun, hack, hkeys, fun headers caller hcaller i =>
    (hauthorized headers caller hcaller).2.2.1 i _ (hack i)⟩

/-- **A revoked key can be served.** The first revocation has read the key map, the second one runs
from its start to its acknowledgement, then the first publishes what it read: the second key, whose
revocation is acknowledged, is in the key map at rest. -/
theorem stale_key_map_is_served :
    ∃ s, Lts.Steps (Console.step default revokeBoth)
        (Console.init twoKeys (GatewayState.ofRouting (routingOf {} {}) 0 0))
        (List.replicate 5 (0, false) ++ List.replicate 6 (1, false) ++ [(0, false)]) s ∧
      (∀ i, (s.place i).isAcknowledged) ∧ Revoked s.db 3 ∧
      s.snapshot.apiKeys ≠ activeKeyMap s.db ∧
      (s.snapshot.apiKeys.lookup (Vector.replicate 32 3)).map KeyIdentity.apiKeyId = some 3 := by
  refine ⟨_, Lts.steps_of_exec rfl, ?_, ?_, ?_, ?_⟩
  · decide
  · exact ⟨_, List.mem_cons_of_mem _ (List.mem_singleton_self _), rfl, rfl⟩
  · decide
  · decide

end LiteAgentify
