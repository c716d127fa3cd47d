import LiteAgentify.Proof.Bootstrap
import LiteAgentify.Proof.Rebuilt
import LiteAgentify.Proof.Served

/-!
# What a step of the gateway does

To the account tables: one statement of `AccountWrite` or none (`step_accounts`). To the served key
map: nothing, or it becomes what the tables say (`step_apiKeys`). The ledger is appended to
(`step_grants`). So over every run no row of the accounts is lost (`run_last`): users keep their
name and their role, keys their owner and their hash, and a revoked key stays revoked.
-/

set_option autoImplicit false

namespace LiteAgentify

open AdminApi Lts

variable {X : Externals} {P : Packages}

/-- The database of a gateway, running or not. -/
def Gateway.tables : Gateway → Tables
  | .down t => t
  | .up w => w.tables

def AdminApi.Backend.apiKeys (w : Backend) : ApiKeyMap := w.console.shared.state.apiKeys

def AdminApi.Backend.granted (w : Backend) : HashMap Uuid ℚ := w.console.shared.state.granted

/-! ## Boots -/

/-- A boot that is up. -/
structure Booted (P : Packages) (b : Boot) (t : Tables) (w : Backend) : Prop where
  accounts : AdminApi.bootstrapAccounts P b.config b.seeding t.users t.keys = .ok (w.users, w.keys)
  grants : w.grants = t.grants
  usage : w.usage = some t.usage
  imports : b.runImports t.catalog = (w.console.db, true)
  shared : buildRouterShared P b.config w.console.db.snapshot b.upstream b.usageRecorder
    w.tables.apiKeys w.tables.granted b.spendCounter = .ok w.console.shared

theorem buildRouter_cases {b : Boot} {t t' : Tables} {o : Option Backend}
    (h : buildRouter P b t = (t', o)) :
    (t'.users = t.users ∧ t'.keys = t.keys ∨
      AdminApi.bootstrapAccounts P b.config b.seeding t.users t.keys = .ok (t'.users, t'.keys)) ∧
    t'.grants = t.grants ∧ t'.usage = t.usage ∧
    ∀ w, o = some w → Booted P b t w ∧ w.tables = t' := by
  have hfailed (w : Backend) : (none : Option Backend) = some w → Booted P b t w ∧ w.tables = t' :=
    fun hw => by cases hw
  unfold buildRouter at h
  split at h
  · cases h
    exact ⟨.inl ⟨rfl, rfl⟩, rfl, rfl, hfailed⟩
  split at h
  · cases h
    exact ⟨.inl ⟨rfl, rfl⟩, rfl, rfl, hfailed⟩
  rename_i users keys haccounts
  dsimp only at h
  split at h
  · cases h
    exact ⟨.inr haccounts, rfl, rfl, hfailed⟩
  split at h
  · cases h
    exact ⟨.inr haccounts, rfl, rfl, hfailed⟩
  rename_i hreads
  split at h
  · cases h
    exact ⟨.inr haccounts, rfl, rfl, hfailed⟩
  rename_i shared hshared
  cases h
  refine ⟨.inr haccounts, rfl, rfl, fun w hw => ?_⟩
  cases hw
  have himports : (b.runImports t.catalog).2 = true := by
    by_contra hn
    exact hreads (.inl hn)
  exact ⟨⟨haccounts, rfl, rfl, Prod.ext rfl himports, hshared⟩, rfl⟩

/-- A snapshot that was built serves what it was built from. -/
theorem buildRouterShared_ok {config : GatewayConfig} {catalog : CatalogSnapshot}
    {upstream usageRecorder : Handle} {apiKeys : ApiKeyMap} {granted : HashMap Uuid ℚ}
    {spendCounter : SpendCounter} {shared : SharedGatewayState}
    (h : buildRouterShared P config catalog upstream usageRecorder apiKeys granted spendCounter =
      .ok shared) :
    shared.state.apiKeys = apiKeys ∧ shared.state.granted = granted ∧ shared.catalog = catalog := by
  obtain ⟨state, -, h⟩ := Keyed.bind_ok.1 h
  cases h
  exact ⟨rfl, rfl, rfl⟩

/-! ## Statements on the account tables -/

/-- A statement, or the transaction of a boot, that writes the account tables. -/
inductive AccountWrite (P : Packages) (users : Users) (keys : Keys) :
    GatewayEvent → Users → Keys → Prop
  | seed {b : Boot} {users' : Users} {keys' : Keys} :
      AdminApi.bootstrapAccounts P b.config b.seeding users keys = .ok (users', keys') →
      AccountWrite P users keys (.boot b) users' keys'
  | newUser {event : GatewayEvent} {user : UserModel} {users' : Users} :
      users.insert user = some users' → AccountWrite P users keys event users' keys
  | newPassword {event : GatewayEvent} (id : Uuid) (hash : String) :
      AccountWrite P users keys event (withPassword users id hash) keys
  | keyWrite {call : ApiCall} {users' : Users} {keys' : Keys} :
      KeyWrite P call.context users keys call.request users' keys' →
      AccountWrite P users keys (.call call) users' keys'
  | touch {event : GatewayEvent} (lastUsedAt : Uuid → Option DateTime) :
      AccountWrite P users keys event users (keys.updateWhere (fun _ => true)
        (fun key => { key with lastUsedAt := lastUsedAt key.id }) (fun _ => rfl) fun _ => rfl)

/-- A refresh of the key map publishes what the tables say, or warns and does nothing. -/
theorem refresh_cases (w : Backend) (faults : Faults) (n : Nat) (body : Body) :
    (w.refreshAndRespond faults n body = (json body, { w with console := { w.console with
        shared := { w.console.shared with
          state := w.console.shared.state.withApiKeys w.tables.apiKeys } } })) ∨
      w.refreshAndRespond faults n body = ({ json body with warning := some keyWarning }, w) := by
  rw [Backend.refreshAndRespond, Backend.refreshApiKeys, Backend.activeKeyMap]
  split_ifs
  · exact .inr rfl
  · exact .inl rfl

/-- A refresh of the key map writes no table. -/
theorem refresh_tables (w : Backend) (faults : Faults) (n : Nat) (body : Body) :
    (w.refreshAndRespond faults n body).2.tables = w.tables := by
  obtain ⟨apiKeys, h⟩ := refresh_snd w faults n body
  rw [h]
  rfl

theorem refreshGranted_tables {w v : Backend} (h : w.refreshGranted false = some v) :
    v.tables = w.tables ∧ v.apiKeys = w.apiKeys ∧ v.granted = w.tables.granted := by
  cases h
  exact ⟨rfl, rfl, rfl⟩

/-- A write of the catalog leaves the accounts, the served keys and the served grants alone. -/
theorem writeCatalog_accounts (w : Backend) (c : Context) (request : CatalogRequest) :
    let w' := (writeCatalog X w c request).2
    w'.users = w.users ∧ w'.keys = w.keys ∧ w'.grants = w.grants ∧ w'.usage = w.usage ∧
      w'.apiKeys = w.apiKeys ∧ w'.granted = w.granted := by
  refine ⟨rfl, rfl, rfl, rfl, ?_⟩
  show (w.console.handle X.toPackages c.file ⟨c.identity, request⟩).1.shared.state.apiKeys = _ ∧
    (w.console.handle X.toPackages c.file ⟨c.identity, request⟩).1.shared.state.granted = _
  unfold AdminState.handle
  split
  · exact ⟨rfl, rfl⟩
  split
  · exact ⟨rfl, rfl⟩
  unfold AdminState.refreshAndRespond
  split
  · rename_i next hnext
    obtain ⟨config, -, hnext⟩ := Keyed.bind_ok.1 hnext
    obtain ⟨state, -, hnext⟩ := Keyed.bind_ok.1 hnext
    cases hnext
    exact ⟨rfl, rfl⟩
  · exact ⟨rfl, rfl⟩

/-- A reload leaves the served keys and the served grants alone. -/
theorem reload_accounts (w : Backend) (file : Except String GatewayConfig) :
    (w.reload P file).apiKeys = w.apiKeys ∧ (w.reload P file).granted = w.granted := by
  show ((Call.reload file).exec P w.console.shared).state.apiKeys = _ ∧
    ((Call.reload file).exec P w.console.shared).state.granted = _
  unfold Call.exec
  dsimp only
  split
  · exact ⟨rfl, rfl⟩
  split
  · exact ⟨rfl, rfl⟩
  · rename_i next hnext
    obtain ⟨state, -, hnext⟩ := Keyed.bind_ok.1 hnext
    cases hnext
    exact ⟨rfl, rfl⟩

variable {s s' : Gateway} {event : GatewayEvent}

/-- **A step writes the account tables once at most.** -/
theorem Gateway.step_accounts (h : s.step X event = some s') :
    s'.tables.users = s.tables.users ∧ s'.tables.keys = s.tables.keys ∨
      AccountWrite X.toPackages s.tables.users s.tables.keys event s'.tables.users
        s'.tables.keys := by
  cases s with
  | down t =>
    cases event with
    | boot b =>
      unfold step at h
      dsimp only at h
      split at h
      · rename_i t' w hbuilt
        cases h
        obtain ⟨hwrite, -, -, hup⟩ := buildRouter_cases hbuilt
        have htables : (up w).tables = t' := (hup w rfl).2
        rw [htables]
        exact hwrite.imp_right .seed
      · rename_i t' hbuilt
        cases h
        exact (buildRouter_cases hbuilt).1.imp_right .seed
    | die => cases h
    | call call => cases h
    | reload file => cases h
    | traffic counters usage lastUsedAt => cases h
  | up w =>
    cases event with
    | boot b => cases h
    | die =>
      cases h
      exact .inl ⟨rfl, rfl⟩
    | call call =>
      cases h
      obtain ⟨c, request⟩ := call
      have hserved := serve_served (X := X) (w := w) ⟨c, request⟩
      generalize hout : serve X w ⟨c, request⟩ = out at hserved
      rw [Gateway.tables]
      cases hserved with
      | nothing => exact .inl ⟨rfl, rfl⟩
      | newUser hinsert => exact .inr (.newUser hinsert)
      | newPassword id hash => exact .inr (.newPassword id hash)
      | refreshed hwrite =>
        rw [refresh_tables]
        exact .inr (.keyWrite hwrite)
      | granted _ _ hv =>
        rcases hv with ⟨rfl, -⟩ | ⟨hv, -⟩
        · exact .inl ⟨rfl, rfl⟩
        · rw [(refreshGranted_tables hv).1]
          exact .inl ⟨rfl, rfl⟩
      | @catalog request =>
        obtain ⟨husers, hkeys, -⟩ := writeCatalog_accounts (X := X) w c request
        exact .inl ⟨husers, hkeys⟩
    | reload file =>
      cases h
      exact .inl ⟨rfl, rfl⟩
    | traffic counters usage lastUsedAt =>
      cases h
      exact .inr (.touch lastUsedAt)

/-- **A step serves the keys it served, or those of the tables.** -/
theorem Gateway.step_apiKeys {w' : Backend} (h : s.step X event = some (.up w')) :
    w'.apiKeys = w'.tables.apiKeys ∨ ∃ w, s = .up w ∧ w'.apiKeys = w.apiKeys := by
  cases s with
  | down t =>
    cases event with
    | boot b =>
      unfold step at h
      dsimp only at h
      split at h
      · rename_i t' w hbuilt
        cases h
        have hbooted := ((buildRouter_cases hbuilt).2.2.2 w' rfl).1
        exact .inl (buildRouterShared_ok hbooted.shared).1
      · cases h
    | die => cases h
    | call call => cases h
    | reload file => cases h
    | traffic counters usage lastUsedAt => cases h
  | up w =>
    cases event with
    | boot b => cases h
    | die => cases h
    | call call =>
      cases h
      obtain ⟨c, request⟩ := call
      have hserved := serve_served (X := X) (w := w) ⟨c, request⟩
      generalize hout : serve X w ⟨c, request⟩ = out at hserved
      cases hserved with
      | nothing => exact .inr ⟨w, rfl, rfl⟩
      | newUser hinsert => exact .inr ⟨w, rfl, rfl⟩
      | newPassword id hash => exact .inr ⟨w, rfl, rfl⟩
      | @refreshed _ users keys n body =>
        rcases refresh_cases { w with users := users, keys := keys } c.faults n body with hr | hr
        · rw [hr]
          exact .inl rfl
        · rw [hr]
          exact .inr ⟨w, rfl, rfl⟩
      | granted _ _ hv =>
        rcases hv with ⟨rfl, -⟩ | ⟨hv, -⟩
        · exact .inr ⟨w, rfl, rfl⟩
        · exact .inr ⟨w, rfl, (refreshGranted_tables hv).2.1⟩
      | @catalog request =>
        exact .inr ⟨w, rfl, (writeCatalog_accounts (X := X) w c request).2.2.2.2.1⟩
    | reload file =>
      cases h
      exact .inr ⟨w, rfl, (reload_accounts w file).1⟩
    | traffic counters usage lastUsedAt =>
      cases h
      exact .inr ⟨w, rfl, rfl⟩

/-! ## Rows last -/

/-- The row keeps what identifies the user. -/
structure AdminApi.UserModel.Kept (user user' : UserModel) : Prop where
  username : user'.username = user.username
  role : user'.role = user.role
  createdAt : user'.createdAt = user.createdAt

/-- The row keeps what identifies the key, and a revoked key stays revoked. -/
structure AdminApi.ApiKeyModel.Kept (key key' : ApiKeyModel) : Prop where
  userId : key'.userId = key.userId
  keyHash : key'.keyHash = key.keyHash
  keyPrefix : key'.keyPrefix = key.keyPrefix
  name : key'.name = key.name
  createdAt : key'.createdAt = key.createdAt
  revoked : key.status = .revoked → key'.status = .revoked

theorem AdminApi.UserModel.Kept.refl (user : UserModel) : user.Kept user := ⟨rfl, rfl, rfl⟩

theorem AdminApi.UserModel.Kept.trans (a b c : UserModel) (h : a.Kept b) (h' : b.Kept c) :
    a.Kept c :=
  ⟨h'.username.trans h.username, h'.role.trans h.role, h'.createdAt.trans h.createdAt⟩

theorem AdminApi.ApiKeyModel.Kept.refl (key : ApiKeyModel) : key.Kept key :=
  ⟨rfl, rfl, rfl, rfl, rfl, id⟩

theorem AdminApi.ApiKeyModel.Kept.trans (a b c : ApiKeyModel) (h : a.Kept b) (h' : b.Kept c) :
    a.Kept c :=
  ⟨h'.userId.trans h.userId, h'.keyHash.trans h.keyHash, h'.keyPrefix.trans h.keyPrefix,
    h'.name.trans h.name, h'.createdAt.trans h.createdAt, fun hr => h'.revoked (h.revoked hr)⟩

/-- The accounts of before are still there. -/
structure Tables.Last (t t' : Tables) : Prop where
  users : t.users.Grows UserModel.Kept t'.users
  keys : t.keys.Grows ApiKeyModel.Kept t'.keys
  grants : t.grants <+: t'.grants

theorem Tables.Last.refl (t : Tables) : t.Last t :=
  ⟨.refl UserModel.Kept.refl, .refl ApiKeyModel.Kept.refl, List.prefix_refl _⟩

theorem Tables.Last.trans {t t' t'' : Tables} (h : t.Last t') (h' : t'.Last t'') : t.Last t'' :=
  ⟨h.users.trans UserModel.Kept.trans h'.users, h.keys.trans ApiKeyModel.Kept.trans h'.keys,
    h.grants.trans h'.grants⟩

theorem AdminApi.KeyWrite.last {c : Context} {users users' : Users} {keys keys' : Keys}
    {request : ApiRequest} (h : KeyWrite P c users keys request users' keys') :
    users.Grows UserModel.Kept users' ∧ keys.Grows ApiKeyModel.Kept keys' := by
  have husers := Table.Grows.refl (t := users) UserModel.Kept.refl
  have hkeys := Table.Grows.refl (t := keys) ApiKeyModel.Kept.refl
  cases h with
  | insert _ hinsert => exact ⟨husers, Table.grows_insert ApiKeyModel.Kept.refl hinsert⟩
  | limits allowedModels spendCapUsd =>
    refine ⟨husers, Table.grows_update ApiKeyModel.Kept.refl fun key => ?_⟩
    exact ⟨rfl, rfl, rfl, rfl, rfl, id⟩
  | revoke =>
    refine ⟨husers, Table.grows_update ApiKeyModel.Kept.refl fun key => ?_⟩
    exact ⟨rfl, rfl, rfl, rfl, rfl, fun _ => rfl⟩
  | disable => exact ⟨Table.grows_update UserModel.Kept.refl fun user => ⟨rfl, rfl, rfl⟩, hkeys⟩
  | enable => exact ⟨Table.grows_update UserModel.Kept.refl fun user => ⟨rfl, rfl, rfl⟩, hkeys⟩

/-- An empty table has nothing to lose. -/
theorem grows_empty {R U : Type} {key : R → Uuid} {unique : R → U} {rel : R → R → Prop}
    {t t' : Table key unique} (h : t.rows = []) : t.Grows rel t' := by
  intro k row hrow
  rw [Table.find, h] at hrow
  cases hrow

theorem AccountWrite.last {users users' : Users} {keys keys' : Keys}
    (h : AccountWrite P users keys event users' keys') :
    users.Grows UserModel.Kept users' ∧ keys.Grows ApiKeyModel.Kept keys' := by
  have hkeys := Table.Grows.refl (t := keys) ApiKeyModel.Kept.refl
  cases h with
  | @seed b _ _ hseed =>
    have hseeded := bootstrapAccounts_ok hseed
    constructor
    · by_cases hempty : users.rows = []
      · exact grows_empty hempty
      · rw [hseeded.sameUsers hempty]
        exact .refl UserModel.Kept.refl
    · by_cases hempty : keys.rows = []
      · exact grows_empty hempty
      · rw [hseeded.sameKeys (.inl hempty)]
        exact hkeys
  | newUser hinsert => exact ⟨Table.grows_insert UserModel.Kept.refl hinsert, hkeys⟩
  | newPassword id hash =>
    exact ⟨Table.grows_update UserModel.Kept.refl fun user => ⟨rfl, rfl, rfl⟩, hkeys⟩
  | keyWrite hwrite => exact hwrite.last
  | touch lastUsedAt =>
    refine ⟨.refl UserModel.Kept.refl, Table.grows_updateWhere ApiKeyModel.Kept.refl fun key => ?_⟩
    exact ⟨rfl, rfl, rfl, rfl, rfl, id⟩

/-! ## The ledger -/

/-- The grants that a step acknowledges. -/
def Gateway.acknowledges (X : Externals) (s : Gateway) (event : GatewayEvent) :
    List GrantRecord :=
  match s, event with
  | .up w, .call call => (serve X w call).1.grants
  | _, _ => []

/-- **The ledger gets what is acknowledged.** -/
theorem Gateway.step_grants (h : s.step X event = some s') :
    s'.tables.grants = s.tables.grants ++ s.acknowledges X event := by
  cases s with
  | down t =>
    have hnone : (down t).acknowledges X event = [] := rfl
    rw [hnone, List.append_nil]
    cases event with
    | boot b =>
      unfold step at h
      dsimp only at h
      split at h
      · rename_i t' w hbuilt
        cases h
        obtain ⟨-, hgrants, -, hup⟩ := buildRouter_cases hbuilt
        have htables : (up w).tables = t' := (hup w rfl).2
        rw [htables]
        exact hgrants
      · rename_i t' hbuilt
        cases h
        exact (buildRouter_cases hbuilt).2.1
    | die => cases h
    | call call => cases h
    | reload file => cases h
    | traffic counters usage lastUsedAt => cases h
  | up w =>
    cases event with
    | boot b => cases h
    | die =>
      cases h
      exact (List.append_nil _).symm
    | call call =>
      cases h
      obtain ⟨c, request⟩ := call
      have hserved := serve_served (X := X) (w := w) ⟨c, request⟩
      rw [acknowledges]
      generalize serve X w ⟨c, request⟩ = out at hserved
      cases hserved with
      | nothing hgrants =>
        rw [hgrants, List.append_nil]
      | newUser => exact (List.append_nil _).symm
      | newPassword => exact (List.append_nil _).symm
      | @refreshed _ users keys n body _ hbody =>
        rcases refresh_cases { w with users := users, keys := keys } c.faults n body with hr | hr
        · rw [hr, hbody, List.append_nil]
          rfl
        · have hwarned : Reply.grants { json body with warning := some keyWarning } = [] := hbody
          rw [hr, hwarned, List.append_nil]
          rfl
      | granted _ _ hv =>
        rcases hv with ⟨rfl, -⟩ | ⟨hv, -⟩
        · rfl
        · show Tables.grants (Backend.tables _) = _
          rw [(refreshGranted_tables hv).1]
          rfl
      | @catalog request =>
        have hreply : (writeCatalog X w c request).1.grants = [] := by
          unfold writeCatalog
          dsimp only
          split <;> rfl
        rw [hreply, List.append_nil]
        rfl
    | reload file =>
      cases h
      exact (List.append_nil _).symm
    | traffic counters usage lastUsedAt =>
      cases h
      exact (List.append_nil _).symm

theorem Gateway.step_last (h : s.step X event = some s') : s.tables.Last s'.tables := by
  have hgrants : s.tables.grants <+: s'.tables.grants := by
    rw [step_grants h]
    exact List.prefix_append _ _
  rcases step_accounts h with ⟨husers, hkeys⟩ | hwrite
  · refine ⟨?_, ?_, hgrants⟩
    · rw [husers]
      exact .refl UserModel.Kept.refl
    · rw [hkeys]
      exact .refl ApiKeyModel.Kept.refl
  · exact ⟨hwrite.last.1, hwrite.last.2, hgrants⟩

theorem serve_last (w : Backend) (call : ApiCall) : w.tables.Last (serve X w call).2.tables :=
  have hstep : Gateway.step X (.up w) (.call call) = some (.up (serve X w call).2) := rfl
  Gateway.step_last hstep

theorem Gateway.run_last {tr : List GatewayEvent} (h : Steps (Gateway.step X) s tr s') :
    s.tables.Last s'.tables :=
  h.inv (I := fun u => s.tables.Last u.tables) (.refl _) fun _ _ _ hu _ hs =>
    hu.trans (Gateway.step_last hs)

/-! ## A gateway to look at -/

def sampleExternals : Externals where
  toPackages := threeDigests
  argon2 := fun _ _ => false
  parseRfc3339 := fun _ => .error "premature end of input"
  dateTrunc := fun _ t => t

def sampleImports : BootDraw := ⟨id, 0, Function.injective_id⟩

/-- A file with a password and the legacy key `k`. -/
def sampleBoot : Boot where
  config := { gatewayKeys := ["k"], adminPassword := some "$argon2id$v=19$c2FsdA$aGFzaA" }
  seeding := ⟨1, 0, (· + 10), fun _ => 0, .error "no plaintext", 0, fun _ => false⟩
  imports := sampleImports
  importFails := fun _ _ => false
  fails := fun _ => false
  upstream := 0
  usageRecorder := 0
  spendCounter := .shared 0

/-- The session of the bootstrap admin, whose next key is `r`. -/
def sampleContext : Context where
  identity := ⟨1, "admin", .admin⟩
  draws := ⟨20, "r", "$argon2id$v=19$c2FsdA$b3RoZXI", 5⟩
  faults := ⟨fun _ => false, false⟩
  file := .ok sampleBoot.config

def sampleDown : Gateway := .down (.empty fun _ _ => true)

end LiteAgentify
