import LiteAgentify.Proof.Revocation

/-!
# Keys that stay valid

Every hash that the gateway stores is the hex text of a digest (`Hashed`), so the key map of the
tables has every active key of an active user (`apiKeys_of_held`). A key that the tables hold so and
that is served keeps being served while no request changes it or disables its owner (`Held.run`):
keys that `create_key` returned (`created_key_authenticates`), and the `gateway_keys` of the file
that seeded the accounts (`gateway_keys_imported`). Requests and reloads come one after another, as
in the revocations.
-/

set_option autoImplicit false

namespace LiteAgentify

open AdminApi Lts

variable {X : Externals} {P : Packages} {s s' : Gateway} {event : GatewayEvent}

/-! ## Stored hashes -/

def Hashed (P : Packages) (keys : Keys) : Prop :=
  ∀ key ∈ keys.rows, ∃ plain, key.keyHash = hashApiKeyHex P plain

theorem Hashed.of_grown {keys keys' : Keys} (h : Hashed P keys)
    (hrows : ∀ key' ∈ keys'.rows, ∃ key ∈ keys.rows, key'.keyHash = key.keyHash) :
    Hashed P keys' := by
  intro key' hkey'
  obtain ⟨key, hkey, heq⟩ := hrows key' hkey'
  obtain ⟨plain, hplain⟩ := h key hkey
  exact ⟨plain, heq.trans hplain⟩

theorem Hashed.update {keys : Keys} (h : Hashed P keys) {id : Uuid}
    {f : ApiKeyModel → ApiKeyModel} {hid : ∀ key, (f key).id = key.id}
    {hhash : ∀ key, (f key).keyHash = key.keyHash} : Hashed P (keys.update id f hid hhash) := by
  refine h.of_grown fun key' hkey' => ?_
  obtain ⟨key, hkey, rfl⟩ := List.mem_map.1 hkey'
  exact ⟨key, hkey, Table.change_eq (g := fun key => key.keyHash) hhash key⟩

theorem Hashed.insert {keys keys' : Keys} (h : Hashed P keys) {key : ApiKeyModel} {plain : String}
    (hplain : key.keyHash = hashApiKeyHex P plain) (hinsert : keys.insert key = some keys') :
    Hashed P keys' := by
  intro row hrow
  rw [(Table.insert_eq_some.1 hinsert).2.2] at hrow
  rcases List.mem_append.1 hrow with hrow | hrow
  · exact h row hrow
  · rw [List.mem_singleton.1 hrow]
    exact ⟨plain, hplain⟩

theorem AccountWrite.hashed {users users' : Users} {keys keys' : Keys}
    (h : AccountWrite P users keys event users' keys') (hk : Hashed P keys) : Hashed P keys' := by
  cases h with
  | @seed b _ _ hseed =>
    have hseeded := bootstrapAccounts_ok hseed
    by_cases himport : keys.rows ≠ [] ∨ b.config.gatewayKeys = []
    · rw [hseeded.sameKeys himport]
      exact hk
    · obtain ⟨hempty, hkeys⟩ := not_or.1 himport
      obtain ⟨owner, -, -, hrows⟩ := hseeded.imported (not_not.1 hempty) hkeys
      intro key hkey
      rw [hrows] at hkey
      obtain ⟨entry, -, rfl⟩ := List.mem_map.1 hkey
      exact ⟨entry.1, rfl⟩
  | newUser => exact hk
  | newPassword => exact hk
  | @keyWrite call _ _ hwrite =>
    obtain ⟨c, request⟩ := call
    cases hwrite with
    | insert _ hinsert => exact hk.insert rfl hinsert
    | limits => exact hk.update
    | revoke => exact hk.update
    | disable => exact hk
    | enable => exact hk
  | touch lastUsedAt =>
    refine hk.of_grown fun key' hkey' => ?_
    obtain ⟨key, hkey, rfl⟩ := List.mem_map.1 hkey'
    exact ⟨key, hkey, rfl⟩

theorem Gateway.step_hashed (h : s.step X event = some s')
    (hs : Hashed X.toPackages s.tables.keys) : Hashed X.toPackages s'.tables.keys := by
  rcases step_accounts h with ⟨-, hkeys⟩ | hwrite
  · rw [hkeys]
    exact hs
  · exact hwrite.hashed hs

/-! ## The key map of the tables -/

/-- The tables hold this caller's key, active, with an active owner. -/
structure Tables.Holds (t : Tables) (digest : Digest) (identity : KeyIdentity) : Prop where
  key : ∃ key, t.keys.find identity.apiKeyId = some key ∧ key.status = .active ∧
    key.identity = identity ∧ decodeHex32 key.keyHash = some digest
  owner : ∃ user, t.users.find identity.userId = some user ∧ user.status = .active

/-- The digest that a stored hash stands for. -/
def storedDigest (key : ApiKeyRow) : Digest :=
  (decodeHex32 key.keyHash).getD (Vector.replicate 32 0)

theorem apiKeys_of_held {t : Tables} {digest : Digest} {identity : KeyIdentity}
    (hk : Hashed P t.keys) (h : t.Holds digest identity) :
    t.apiKeys.lookup digest = some identity := by
  obtain ⟨key, hfind, hactive, hidentity, hdigest⟩ := h.key
  obtain ⟨user, huser, huactive⟩ := h.owner
  have hrows : ∀ row ∈ (t.keys.select fun key => key.status = .active).map
      ApiKeyModel.toApiKeyRow, decodeHex32 row.keyHash = some (storedDigest row) ∧
        row.keyHash = String.ofList ((storedDigest row).toList.flatMap hexByte) := by
    intro row hrow
    obtain ⟨key, hkey, rfl⟩ := List.mem_map.1 hrow
    obtain ⟨plain, hplain⟩ := hk key (List.mem_filter.1 hkey).1
    have hdecode : decodeHex32 key.keyHash = some (hashApiKey P plain) := by
      rw [hplain, decodeHex32_hash]
    have hstored : storedDigest key.toApiKeyRow = hashApiKey P plain := by
      rw [storedDigest, hdecode, Option.getD_some]
    rw [hstored]
    exact ⟨hdecode, hplain⟩
  -- distinct hashes are those of distinct digests
  have hdistinct : (((t.keys.select fun key => key.status = .active).map
      ApiKeyModel.toApiKeyRow).map storedDigest).Nodup := by
    refine List.Nodup.of_map (fun digest => String.ofList (digest.toList.flatMap hexByte)) ?_
    rw [List.map_map]
    have htexts := List.map_congr_left fun row hrow => (hrows row hrow).2
    rw [List.map_map] at htexts
    exact htexts ▸ t.keys.uniques.sublist (List.filter_sublist.map _)
  refine (keyMap_lookup_iff (fun row hrow => (hrows row hrow).1) hdistinct).2
    ⟨key.toApiKeyRow, ?_, ?_, ?_, hidentity⟩
  · exact List.mem_map_of_mem (List.mem_filter.2
      ⟨(Table.find_eq_some.1 hfind).1, decide_eq_true hactive⟩)
  · refine List.mem_map.2 ⟨user.row, List.mem_map_of_mem (List.mem_filter.2
      ⟨(Table.find_eq_some.1 huser).1, decide_eq_true huactive⟩), ?_⟩
    rw [← hidentity] at huser
    exact (Table.find_eq_some.1 huser).2
  · rw [storedDigest, hdigest, Option.getD_some]

/-! ## Keys that requests leave alone -/

theorem update_identity {keys : Keys} {id id' : Uuid} {key : ApiKeyModel}
    {f : ApiKeyModel → ApiKeyModel} {hid : ∀ key, (f key).id = key.id}
    {hhash : ∀ key, (f key).keyHash = key.keyHash} (hkey : keys.find id = some key)
    (hne : id' ≠ id) : (keys.update id' f hid hhash).find id = some key := by
  rw [Table.find_update, hkey, Option.map_some, Table.change, if_neg]
  rw [(Table.find_eq_some.1 hkey).2]
  exact hne.symm

/-- A key that no request changes keeps its status, its hash and its caller. -/
theorem AccountWrite.key {users users' : Users} {keys keys' : Keys} {id : Uuid} {key : ApiKeyModel}
    (h : AccountWrite P users keys event users' keys') (hkey : keys.find id = some key)
    (hevent : event.changesKey ≠ some id) : ∃ key', keys'.find id = some key' ∧
      key'.status = key.status ∧ key'.identity = key.identity ∧ key'.keyHash = key.keyHash := by
  cases h with
  | @seed b _ _ hseed =>
    have hsome : keys.rows ≠ [] := by
      intro hempty
      rw [Table.find, hempty] at hkey
      cases hkey
    rw [(bootstrapAccounts_ok hseed).sameKeys (.inl hsome)]
    exact ⟨key, hkey, rfl, rfl, rfl⟩
  | newUser => exact ⟨key, hkey, rfl, rfl, rfl⟩
  | newPassword => exact ⟨key, hkey, rfl, rfl, rfl⟩
  | @keyWrite call _ _ hwrite =>
    obtain ⟨c, request⟩ := call
    cases hwrite with
    | insert _ hinsert =>
      exact ⟨key, by rw [Table.find_insert hinsert, hkey, Option.some_or], rfl, rfl, rfl⟩
    | limits =>
      exact ⟨key, update_identity hkey fun h => hevent (congrArg some h), rfl, rfl, rfl⟩
    | revoke =>
      exact ⟨key, update_identity hkey fun h => hevent (congrArg some h), rfl, rfl, rfl⟩
    | disable => exact ⟨key, hkey, rfl, rfl, rfl⟩
    | enable => exact ⟨key, hkey, rfl, rfl, rfl⟩
  | touch lastUsedAt =>
    refine ⟨{ key with lastUsedAt := lastUsedAt key.id }, ?_, rfl, rfl, rfl⟩
    rw [Table.find_updateWhere, hkey]
    rfl

/-- The request leaves a caller's key and its owner's access alone. -/
def GatewayEvent.Spares (identity : KeyIdentity) (event : GatewayEvent) : Prop :=
  event.changesKey ≠ some identity.apiKeyId ∧ event.setsStatus ≠ some (identity.userId, .disabled)

theorem Tables.Holds.step {digest : Digest} {identity : KeyIdentity}
    (hs : s.tables.Holds digest identity) (hevent : event.Spares identity)
    (h : s.step X event = some s') : s'.tables.Holds digest identity := by
  obtain ⟨key, hfind, hactive, hidentity, hdigest⟩ := hs.key
  obtain ⟨user, huser, huactive⟩ := hs.owner
  constructor
  · rcases Gateway.step_accounts h with ⟨-, hkeys⟩ | hwrite
    · rw [hkeys]
      exact ⟨key, hfind, hactive, hidentity, hdigest⟩
    · obtain ⟨key', hfind', hstatus, hsame, hhash⟩ := hwrite.key hfind hevent.1
      exact ⟨key', hfind', hstatus.trans hactive, hsame.trans hidentity, by rw [hhash, hdigest]⟩
  · obtain ⟨user', hfind', hsame | hset⟩ := Gateway.step_status h huser
    · exact ⟨user', hfind', hsame.trans huactive⟩
    · cases hstatus : user'.status with
      | active => exact ⟨user', hfind', hstatus⟩
      | disabled =>
        rw [hstatus] at hset
        exact absurd hset hevent.2

/-- A caller's key is stored and served. -/
structure Gateway.Held (P : Packages) (s : Gateway) (digest : Digest) (identity : KeyIdentity) :
    Prop where
  hashed : Hashed P s.tables.keys
  holds : s.tables.Holds digest identity
  served : ∀ w, s = .up w → w.apiKeys.lookup digest = some identity

theorem Gateway.Held.step {digest : Digest} {identity : KeyIdentity}
    (hs : s.Held X.toPackages digest identity) (hevent : event.Spares identity)
    (h : s.step X event = some s') : s'.Held X.toPackages digest identity := by
  have hhashed := step_hashed h hs.hashed
  have hholds := hs.holds.step hevent h
  refine ⟨hhashed, hholds, ?_⟩
  rintro w' rfl
  rcases step_apiKeys h with hkeys | ⟨w, rfl, hkeys⟩
  · rw [hkeys]
    exact apiKeys_of_held hhashed hholds
  · rw [hkeys]
    exact hs.served w rfl

theorem Gateway.Held.run {digest : Digest} {identity : KeyIdentity} {tr : List GatewayEvent}
    (hs : s.Held X.toPackages digest identity)
    (h : Run (Gateway.step X) (fun _ event => event.Spares identity) s tr s') :
    s'.Held X.toPackages digest identity :=
  h.inv (I := fun u => u.Held X.toPackages digest identity) hs fun _ _ _ hu hok hstep =>
    hu.step hok hstep

/-- A request whose first credential is the key authenticates as its caller. -/
theorem authorize_first {state : GatewayState} {headers : HeaderMap} {plain : String}
    {identity : KeyIdentity} (hfirst : (gatewayKeyCandidates P headers).head? = some plain)
    (hlookup : state.apiKeys.lookup (hashApiKey P plain) = some identity) :
    state.authorize P headers = some identity := by
  rw [GatewayState.authorize]
  cases hcandidates : gatewayKeyCandidates P headers with
  | nil =>
    rw [hcandidates] at hfirst
    cases hfirst
  | cons candidate rest =>
    rw [hcandidates, List.head?_cons, Option.some.injEq] at hfirst
    rw [List.findSome?_cons, hfirst, hlookup]

/-! ## Created keys -/

/-- The caller that a key's record describes. -/
def AdminApi.ApiKeyRecord.identity (record : ApiKeyRecord) : KeyIdentity where
  userId := record.userId
  apiKeyId := record.id
  allowedModels := record.allowedModels.map List.toFinset
  spendCapUsd := record.spendCapUsd

/-- What `create_key` has done when it returns a key without a warning. -/
theorem createKey_acknowledged {w w' : Backend} {c : Context} {body : CreateKeyRequest}
    {plain : String} {record : KeyJson}
    (h : serve X w ⟨c, .createKey body⟩ = (json (.created plain record), w')) :
    plain = c.draws.apiKey ∧ w'.apiKeys = w'.tables.apiKeys ∧
      ∃ name allowedModels spendCapUsd,
        let key := newKey c X.toPackages name allowedModels spendCapUsd
        record.toApiKeyRecord = keyRecord key ∧ w.keys.insert key = some w'.keys ∧
          w'.users = w.users := by
  change AdminApi.createKey X w c body = _ at h
  unfold AdminApi.createKey at h
  have hreject (rejection : Rejection) :
      reject w rejection ≠ (json (.created plain record), w') := by
    intro hr
    cases congrArg (fun out => out.1.body) hr
  split at h
  · exact absurd h (hreject _)
  dsimp only at h
  split at h
  · exact absurd h (hreject _)
  rename_i key keys hcreated
  obtain ⟨cap, -, hcreated⟩ := Option.bind_eq_some_iff.1 hcreated
  obtain ⟨keys', hkeys, heq⟩ := Option.map_eq_some_iff.1 hcreated
  cases heq
  obtain ⟨hreply, htables, happlied⟩ := refresh_unwarned h rfl
  have hbody := congrArg Reply.body hreply
  cases hbody
  refine ⟨rfl, happlied.trans (by rw [htables]), _, _, cap, rfl, ?_, congrArg Tables.users htables⟩
  rw [show w'.keys = keys from congrArg Tables.keys htables]
  exact (createKey_some hkeys).2

/-- **A created key works until it is taken away.** When `create_key` returns a key to a session of
an active user, without a warning and with no other request and no reload in flight, the key
authenticates as that user with the limits of the reply, whatever boots, deaths, requests, failures,
reloads and traffic follow one after another, as long as no request changes the key or disables the
user. -/
theorem created_key_authenticates {collation : String → String → Bool}
    {tr₀ tr : List GatewayEvent} {w w' v : Backend} {c : Context} {body : CreateKeyRequest}
    {plain : String} {record : KeyJson} {user : UserModel}
    (hreach : Steps (Gateway.step X) (.down (.empty collation)) tr₀ (.up w))
    (huser : w.users.find c.identity.userId = some user) (hactive : user.status = .active)
    (hcreate : serve X w ⟨c, .createKey body⟩ = (json (.created plain record), w'))
    (hrun : Run (Gateway.step X) (fun _ event => event.Spares record.identity) (.up w') tr (.up v))
    (headers : HeaderMap)
    (hfirst : (gatewayKeyCandidates X.toPackages headers).head? = some plain) :
    v.console.shared.state.authorize X.toPackages headers = some record.identity := by
  obtain ⟨rfl, hserved, name, allowedModels, spendCapUsd, hrecord, hinsert, husers⟩ :=
    createKey_acknowledged hcreate
  have hreached : Hashed X.toPackages (Gateway.up w).tables.keys := by
    refine hreach.inv (I := fun u => Hashed X.toPackages u.tables.keys) ?_
      fun _ _ _ hu _ hs => Gateway.step_hashed hs hu
    intro key hkey
    cases hkey
  have hashed : Hashed X.toPackages w'.keys := hreached.insert rfl hinsert
  have hidentity : record.identity =
      (newKey c X.toPackages name allowedModels spendCapUsd).identity :=
    congrArg ApiKeyRecord.identity hrecord
  have hrows := (Table.insert_eq_some.1 hinsert).2.2
  have hholds : w'.tables.Holds (hashApiKey X.toPackages c.draws.apiKey) record.identity := by
    rw [hidentity]
    refine ⟨⟨_, Table.find_eq_some.2 ⟨?_, rfl⟩, rfl, rfl, decodeHex32_hash _ _⟩, user, ?_, hactive⟩
    · show _ ∈ w'.keys.rows
      rw [hrows]
      exact List.mem_append_right _ (List.mem_singleton_self _)
    · show w'.users.find _ = _
      rw [husers]
      exact huser
  have hheld : (Gateway.up w').Held X.toPackages (hashApiKey X.toPackages c.draws.apiKey)
      record.identity := by
    refine ⟨hashed, hholds, ?_⟩
    rintro _ ⟨⟩
    rw [hserved]
    exact apiKeys_of_held hashed hholds
  exact authorize_first hfirst ((hheld.run hrun).served v rfl)

theorem candidates_apiKey (key : String) :
    gatewayKeyCandidates threeDigests [("x-api-key", Text.asBytes key)] = [key] := by
  have hstr : threeDigests.headerToStr (Text.asBytes key) = some key := Text.fromUtf8_asBytes key
  simp [gatewayKeyCandidates, HeaderMap.get, hstr]
  rfl

/-- Neither a death nor a boot takes a key away. -/
theorem restart_spares (identity : KeyIdentity) (b : Boot) :
    ∀ event ∈ [GatewayEvent.die, .boot b], event.Spares identity := by
  intro event hevent
  simp only [List.mem_cons, List.not_mem_nil, or_false] at hevent
  rcases hevent with rfl | rfl
  · exact ⟨(Option.some_ne_none _).symm, (Option.some_ne_none _).symm⟩
  · exact ⟨(Option.some_ne_none _).symm, (Option.some_ne_none _).symm⟩

/-- The admin creates the key `r`, and the gateway is restarted. -/
theorem created_key_authenticates_sample : ∃ w w' record v,
    sampleDown.step sampleExternals (.boot sampleBoot) = some (.up w) ∧
    serve sampleExternals w ⟨sampleContext, .createKey ⟨"ci", none, none⟩⟩ =
      (json (.created "r" record), w') ∧
    Steps (Gateway.step sampleExternals) (.up w') [.die, .boot sampleBoot] (.up v) ∧
    v.console.shared.state.authorize threeDigests [("x-api-key", Text.asBytes "r")] =
      some record.identity := by
  obtain ⟨w, user, w', record, v, hboot, huser, hactive, hcreate, hrun⟩ : ∃ w user w' record v,
      sampleDown.step sampleExternals (.boot sampleBoot) = some (.up w) ∧
      w.users.find sampleContext.identity.userId = some user ∧ user.status = .active ∧
      serve sampleExternals w ⟨sampleContext, .createKey ⟨"ci", none, none⟩⟩ =
        (json (.created "r" record), w') ∧
      Steps (Gateway.step sampleExternals) (.up w') [.die, .boot sampleBoot] (.up v) :=
    ⟨_, _, _, _, _, rfl, rfl, rfl, rfl, .snoc (.snoc .nil trivial rfl) trivial rfl⟩
  have hspared := hrun.restrict fun _ => restart_spares record.identity sampleBoot
  exact ⟨w, w', record, v, hboot, hcreate, hrun, created_key_authenticates
    (.snoc .nil trivial hboot) huser hactive hcreate hspared _
    (congrArg List.head? (candidates_apiKey "r"))⟩

/-! ## Imported keys -/

/-- The caller of the imported key with this index. -/
def importedIdentity (b : Boot) (index : Nat) : KeyIdentity :=
  ⟨b.seeding.userId, b.seeding.keyId index, none, none⟩

/-- **The keys of the file keep working.** After the first boot on the migrated database, every key
of `gateway_keys` authenticates as the bootstrap admin, without limits, whatever boots, deaths,
requests, failures, reloads and traffic follow one after another, as long as no request changes the
key or disables the admin. -/
theorem gateway_keys_imported {collation : String → String → Bool} {b : Boot} {w v : Backend}
    {tr : List GatewayEvent} {index : Nat} {plain : String}
    (hboot : Gateway.step X (.down (.empty collation)) (.boot b) = some (.up w))
    (hkey : b.config.gatewayKeys[index]? = some plain)
    (hrun : Run (Gateway.step X) (fun _ event => event.Spares (importedIdentity b index))
      (.up w) tr (.up v)) (headers : HeaderMap)
    (hfirst : (gatewayKeyCandidates X.toPackages headers).head? = some plain) :
    v.console.shared.state.authorize X.toPackages headers = some (importedIdentity b index) ∧
      ∃ user, v.users.find b.seeding.userId = some user ∧ user.username = "admin" ∧
        user.role = .admin := by
  have hhashed : Hashed X.toPackages w.keys := by
    refine Gateway.step_hashed hboot ?_
    intro key hkey
    cases hkey
  have hbooted : Booted X.toPackages b (.empty collation) w := by
    unfold Gateway.step at hboot
    dsimp only at hboot
    split at hboot
    · rename_i t' w' hbuilt
      cases hboot
      exact ((buildRouter_cases hbuilt).2.2.2 w rfl).1
    · cases hboot
  have hseeded := bootstrapAccounts_ok hbooted.accounts
  obtain ⟨hash, husers⟩ := hseeded.admin rfl
  have hkeys : b.config.gatewayKeys ≠ [] := by
    intro hnone
    rw [hnone] at hkey
    cases hkey
  obtain ⟨owner, howner, -, hrows⟩ := hseeded.imported rfl hkeys
  rw [husers] at howner
  cases List.mem_singleton.1 howner
  have hadmin : w.users.find b.seeding.userId =
      some ⟨⟨b.seeding.userId, "admin", hash, .admin, .active⟩, b.seeding.userNow⟩ := by
    refine Table.find_eq_some.2 ⟨?_, rfl⟩
    rw [husers]
    exact List.mem_singleton_self _
  have hholds : w.tables.Holds (hashApiKey X.toPackages plain) (importedIdentity b index) := by
    refine ⟨⟨importedKey X.toPackages b.seeding b.seeding.userId (plain, index),
      Table.find_eq_some.2 ⟨?_, rfl⟩, rfl, rfl, decodeHex32_hash _ _⟩, _, hadmin, rfl⟩
    show _ ∈ w.keys.rows
    rw [hrows]
    exact List.mem_map_of_mem (List.mem_zipIdx_iff_getElem?.2 hkey)
  have hheld : (Gateway.up w).Held X.toPackages (hashApiKey X.toPackages plain)
      (importedIdentity b index) := by
    refine ⟨hhashed, hholds, ?_⟩
    rintro _ ⟨⟩
    rw [show w.apiKeys = w.tables.apiKeys from (buildRouterShared_ok hbooted.shared).1]
    exact apiKeys_of_held hhashed hholds
  refine ⟨authorize_first hfirst ((hheld.run hrun).served v rfl), ?_⟩
  obtain ⟨user, huser, hkept⟩ :=
    (Gateway.run_last (hrun.mono fun _ _ _ => trivial)).users b.seeding.userId _ hadmin
  exact ⟨user, huser, hkept.username, hkept.role⟩

/-- The key `k` of the file, after a restart. -/
theorem gateway_keys_imported_sample : ∃ w v,
    sampleDown.step sampleExternals (.boot sampleBoot) = some (.up w) ∧
    Steps (Gateway.step sampleExternals) (.up w) [.die, .boot sampleBoot] (.up v) ∧
    v.console.shared.state.authorize threeDigests [("x-api-key", Text.asBytes "k")] =
      some (importedIdentity sampleBoot 0) := by
  obtain ⟨w, v, hboot, hrun⟩ : ∃ w v,
      sampleDown.step sampleExternals (.boot sampleBoot) = some (.up w) ∧
      Steps (Gateway.step sampleExternals) (.up w) [.die, .boot sampleBoot] (.up v) :=
    ⟨_, _, rfl, .snoc (.snoc .nil trivial rfl) trivial rfl⟩
  have hspared := hrun.restrict fun _ => restart_spares (importedIdentity sampleBoot 0) sampleBoot
  exact ⟨w, v, hboot, hrun, (gateway_keys_imported hboot rfl hspared _
    (congrArg List.head? (candidates_apiKey "k"))).1⟩

end LiteAgentify
