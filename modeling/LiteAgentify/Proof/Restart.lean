import LiteAgentify.Proof.Gateway
import LiteAgentify.Proof.NextStart

/-!
# Hot applied is restarted

`Settled`: the snapshot is what the tables and the file say. A boot establishes it, and every step
keeps it whose reply neither warns nor reports an internal error (`Settled.step`). A boot in which
nothing fails seeds the accounts and starts on the catalog (`buildRouter_start`), so the catalog that
it finds decides whether it serves (`buildRouter_serves_iff`). On the tables of a settled gateway it
changes none of them, unless it finds a section of the file to import, and serves the same
(`Settled.restart`).
-/

set_option autoImplicit false

namespace LiteAgentify

open AdminApi Lts

variable {X : Externals} {P : Packages} {config : GatewayConfig} {s s' : Gateway}
  {event : GatewayEvent}

/-! ## Key maps of tables that changed elsewhere -/

/-- The key map depends on which owners are among the users. -/
theorem keyMap_congr {keys : List ApiKeyRow} {users users' : List UserRow}
    (h : ∀ key ∈ keys, key.userId ∈ users.map UserRow.id ↔ key.userId ∈ users'.map UserRow.id) :
    keyMap keys users = keyMap keys users' := by
  induction keys using List.reverseRecOn with
  | nil => rfl
  | append_singleton keys key ih =>
    have hold := ih fun key hkey => h key (List.mem_append_left _ hkey)
    have hkey := h key (List.mem_append_right _ (List.mem_singleton_self _))
    rw [keyMap_append, keyMap_append, hold]
    simp only [hkey]

/-- Every key belongs to a user. -/
def Owned (users : Users) (keys : Keys) : Prop :=
  ∀ key ∈ keys.rows, key.userId ∈ users.rows.map fun user => user.id

section
variable {t : Tables}

/-- A new user owns no key. -/
theorem apiKeys_newUser {user : UserModel} {users : Users} (hown : Owned t.users t.keys)
    (hinsert : t.users.insert user = some users) :
    { t with users := users }.apiKeys = t.apiKeys := by
  obtain ⟨hid, -, -⟩ := Table.insert_eq_some.1 hinsert
  refine keyMap_congr fun row hrow => ?_
  obtain ⟨key, hkey, rfl⟩ := List.mem_map.1 hrow
  have hne : user.id ≠ key.userId := fun h =>
    hid (h ▸ hown key (List.mem_filter.1 hkey).1)
  dsimp only
  rw [Table.select_insert hinsert, List.map_append, List.map_append, List.mem_append]
  refine or_iff_left fun hmem => ?_
  obtain ⟨urow, hurow, heq⟩ := List.mem_map.1 hmem
  obtain ⟨other, hother, rfl⟩ := List.mem_map.1 hurow
  split at hother
  · rw [List.mem_singleton.1 hother] at heq
    exact hne heq
  · cases hother

/-- A new password is no part of the key map. -/
theorem apiKeys_newPassword (id : Uuid) (hash : String) :
    { t with users := withPassword t.users id hash }.apiKeys = t.apiKeys := by
  unfold Tables.apiKeys withPassword
  dsimp only
  rw [Table.select_update, List.map_map]
  · congr 1
    refine List.map_congr_left fun user _ => ?_
    rw [Function.comp_apply, Table.change]
    split <;> rfl
  · exact fun user => rfl

/-- Nor is when a key was last used. -/
theorem apiKeys_touched (lastUsedAt : Uuid → Option DateTime) :
    { t with
      keys := t.keys.updateWhere (fun _ => true)
        (fun key => { key with lastUsedAt := lastUsedAt key.id }) (fun _ => rfl)
        fun _ => rfl }.apiKeys = t.apiKeys := by
  unfold Tables.apiKeys Table.select Table.updateWhere
  dsimp only
  rw [List.filter_map, List.map_map]
  rfl

end

/-! ## Ownership -/

theorem Owned.of_grown {users users' : Users} {keys keys' : Keys} (h : Owned users keys)
    (husers : users.Grows UserModel.Kept users')
    (hkeys : ∀ key' ∈ keys'.rows, (users'.find key'.userId).isSome ∨
      ∃ key ∈ keys.rows, key'.userId = key.userId) : Owned users' keys' := by
  intro key' hkey'
  have hfind : (users'.find key'.userId).isSome := by
    rcases hkeys key' hkey' with hnew | ⟨key, hkey, heq⟩
    · exact hnew
    · obtain ⟨user, huser, hid⟩ := List.mem_map.1 (h key hkey)
      obtain ⟨user', hfind, -⟩ := husers _ _ (Table.find_eq_some.2 ⟨huser, hid⟩)
      rw [heq, hfind]
      rfl
  obtain ⟨user', hfind⟩ := Option.isSome_iff_exists.1 hfind
  obtain ⟨hmem, hid⟩ := Table.find_eq_some.1 hfind
  exact List.mem_map.2 ⟨user', hmem, hid⟩

theorem AccountWrite.owned {users users' : Users} {keys keys' : Keys}
    (h : AccountWrite P users keys event users' keys') (hown : Owned users keys) :
    Owned users' keys' := by
  refine hown.of_grown h.last.1 fun key' hkey' => ?_
  cases h with
  | @seed b _ _ hseed =>
    have hseeded := bootstrapAccounts_ok hseed
    by_cases himport : keys.rows ≠ [] ∨ b.config.gatewayKeys = []
    · rw [hseeded.sameKeys himport] at hkey'
      exact .inr ⟨key', hkey', rfl⟩
    · obtain ⟨hempty, hkeys⟩ := not_or.1 himport
      obtain ⟨owner, howner, -, hrows⟩ := hseeded.imported (not_not.1 hempty) hkeys
      rw [hrows] at hkey'
      obtain ⟨entry, -, rfl⟩ := List.mem_map.1 hkey'
      exact .inl (Option.isSome_iff_exists.2 ⟨owner, Table.find_eq_some.2 ⟨howner, rfl⟩⟩)
  | newUser => exact .inr ⟨key', hkey', rfl⟩
  | newPassword => exact .inr ⟨key', hkey', rfl⟩
  | @keyWrite call _ _ hwrite =>
    obtain ⟨c, request⟩ := call
    cases hwrite with
    | insert howner hinsert =>
      rw [(Table.insert_eq_some.1 hinsert).2.2] at hkey'
      rcases List.mem_append.1 hkey' with hkey' | hkey'
      · exact .inr ⟨key', hkey', rfl⟩
      · rw [List.mem_singleton.1 hkey']
        exact .inl howner
    | limits =>
      obtain ⟨key, hkey, rfl⟩ := List.mem_map.1 hkey'
      exact .inr ⟨key, hkey, by rw [Table.change]; split <;> rfl⟩
    | revoke =>
      obtain ⟨key, hkey, rfl⟩ := List.mem_map.1 hkey'
      exact .inr ⟨key, hkey, by rw [Table.change]; split <;> rfl⟩
    | disable => exact .inr ⟨key', hkey', rfl⟩
    | enable => exact .inr ⟨key', hkey', rfl⟩
  | touch lastUsedAt =>
    obtain ⟨key, hkey, rfl⟩ := List.mem_map.1 hkey'
    exact .inr ⟨key, hkey, rfl⟩

/-! ## Settled snapshots -/

/-- The snapshot is what the tables and the file say. -/
structure AdminApi.Backend.Settled (P : Packages) (config : GatewayConfig) (w : Backend) :
    Prop where
  users : w.users.rows ≠ []
  keys : w.keys.rows ≠ [] ∨ config.gatewayKeys = []
  apiKeys : w.apiKeys = w.tables.apiKeys
  granted : w.granted = w.tables.granted
  catalog : w.console.shared.catalog = w.console.db.snapshot
  valid : w.console.db.snapshot.Valid P
  retry : config.retry.Valid
  routing : w.console.shared.state.routing = routingOf w.console.db.snapshot config.retry

structure Gateway.Settled (P : Packages) (config : GatewayConfig) (s : Gateway) : Prop where
  owned : Owned s.tables.users s.tables.keys
  served : ∀ w, s = .up w → w.Settled P config

/-- The reply reports that the request was done or refused. -/
def AdminApi.Reply.Clean (reply : Reply) : Prop := reply.warning = none ∧ reply.status < 500

instance (reply : Reply) : Decidable reply.Clean :=
  inferInstanceAs (Decidable (reply.warning = none ∧ reply.status < 500))

/-- A boot or a reload that reads the file, and a request that does and has a clean reply. -/
def Gateway.Applied (X : Externals) (config : GatewayConfig) (s : Gateway) :
    GatewayEvent → Prop
  | .boot b => b.config = config
  | .call c => c.context.file = .ok config ∧ ∀ w, s = .up w → (serve X w c).1.Clean
  | .reload file => file = .ok config
  | _ => True

/-- A boot is settled. -/
theorem Booted.settled {b : Boot} {t : Tables} {w : Backend} (h : Booted P b t w) :
    w.Settled P b.config := by
  have hseeded := bootstrapAccounts_ok h.accounts
  obtain ⟨state, hstate, hshared⟩ := Keyed.bind_ok.1 h.shared
  obtain ⟨hvalid, hretry, rfl⟩ := fromParts_ok.1 hstate
  obtain ⟨hkeys, hgranted, hcatalog⟩ := buildRouterShared_ok h.shared
  refine ⟨?_, ?_, hkeys, hgranted, hcatalog, hvalid, hretry, ?_⟩
  · by_cases hempty : t.users.rows = []
    · obtain ⟨hash, hrows⟩ := hseeded.admin hempty
      rw [hrows]
      exact List.cons_ne_nil _ _
    · rwa [hseeded.sameUsers hempty]
  · by_cases hgateway : b.config.gatewayKeys = []
    · exact .inr hgateway
    · by_cases hempty : t.keys.rows = []
      · obtain ⟨owner, -, -, hrows⟩ := hseeded.imported hempty hgateway
        rw [hrows]
        refine .inl fun hnil => hgateway ?_
        simpa using hnil
      · exact .inl (by rwa [hseeded.sameKeys (.inl hempty)])
  · rw [← Except.ok.inj hshared]
    rfl

/-! ## Steps of a settled gateway -/

/-- A refused `create_model` leaves the tables as they were, unless it fails in the middle. -/
theorem createModel_refused {db db' : CatalogDb} {body : Admin.CreateModelBody} {now : DateTime}
    {rejection : Rejection} (h : Admin.createModel db body now = (db', .error rejection))
    (hstatus : rejection.status < 500) : db' = db := by
  unfold Admin.createModel at h
  dsimp only at h
  split at h
  · cases h
    rfl
  split at h
  · cases h
    rfl
  split at h
  · cases h
    rfl
  split at h
  · cases h
    rfl
  split at h
  · cases h
    exact absurd hstatus (by decide)
  split at h
  · split at h
    · cases h
      exact absurd hstatus (by decide)
    · cases h
  · cases h

theorem run_refused {request : CatalogRequest} {db db' : CatalogDb} {rejection : Rejection}
    (h : request.run P db = (db', .error rejection)) (hstatus : rejection.status < 500) :
    db' = db := by
  have heffect : request.Effect P db (request.run P db) := run_effect request
  rw [h] at heffect
  generalize hout : (db', Except.error rejection) = out at heffect
  cases heffect with
  | rejected =>
    cases hout
    rfl
  | unsavedModel => exact createModel_refused h hstatus
  | createProvider => cases hout
  | updateProvider => cases hout
  | deleteProvider => cases hout
  | createPricing => cases hout
  | updatePricing => cases hout
  | deletePricing => cases hout
  | createDraft => cases hout
  | createListed => cases hout
  | updateModel => cases hout
  | deleteModel => cases hout

/-- The served routing is that of the catalog tables and the file. -/
structure AdminState.Settled (P : Packages) (config : GatewayConfig) (s : AdminState) : Prop where
  catalog : s.shared.catalog = s.db.snapshot
  valid : s.db.snapshot.Valid P
  routing : s.shared.state.routing = routingOf s.db.snapshot config.retry

/-- A write of the catalog with a clean reply. -/
theorem AdminState.Settled.handle {a : AdminState} {call : CatalogCall}
    {file : Except String GatewayConfig} (h : a.Settled P config) (hfile : file = .ok config)
    (hclean : ∀ rejection, (a.handle P file call).2 = .error rejection → rejection.status < 500)
    (hwarned : ∀ status warning, (a.handle P file call).2 ≠ .ok status (some warning)) :
    (a.handle P file call).1.Settled P config := by
  subst hfile
  unfold AdminState.handle at hclean hwarned ⊢
  split
  · exact h
  rename_i hadmin
  rw [hadmin] at hclean hwarned
  dsimp only at hclean hwarned
  split
  · rename_i db rejection hrun
    rw [hrun] at hclean
    obtain rfl := run_refused hrun (hclean rejection rfl)
    exact h
  · rename_i db status hrun
    rw [hrun] at hwarned
    dsimp only at hwarned
    unfold AdminState.refreshAndRespond at hwarned ⊢
    split
    · rename_i next hnext
      obtain ⟨hvalid, -, rfl⟩ := (LiteAgentify.rebuild_ok _).1 hnext
      exact ⟨rfl, hvalid, rfl⟩
    · rename_i error herror
      rw [herror] at hwarned
      exact absurd rfl (hwarned _ _)

section
variable {w : Backend} {c : Context} {request : CatalogRequest}

theorem writeCatalog_ok {status : Nat} {warning : Option String}
    (h : (w.console.handle X.toPackages c.file ⟨c.identity, request⟩).2 = .ok status warning) :
    (writeCatalog X w c request).1 = ⟨status, .ok, warning⟩ := by
  unfold writeCatalog
  dsimp only
  rw [h]

theorem writeCatalog_error {rejection : Rejection}
    (h : (w.console.handle X.toPackages c.file ⟨c.identity, request⟩).2 = .error rejection) :
    (writeCatalog X w c request).1 = rejected rejection := by
  unfold writeCatalog
  dsimp only
  rw [h]

end

/-- The catalog side of a settled snapshot. -/
theorem AdminApi.Backend.Settled.console {w : Backend} (h : w.Settled P config) :
    w.console.Settled P config := ⟨h.catalog, h.valid, h.routing⟩

/-- A reload of the file that is served changes nothing. -/
theorem AdminApi.Backend.Settled.reload {w : Backend} (h : w.Settled P config) :
    w.reload P (.ok config) = w := by
  have hcatalog : w.console.shared.catalog.Valid P := h.catalog ▸ h.valid
  have hsame : w.console.shared.state.withRouting
      (routingOf w.console.shared.catalog config.retry) = w.console.shared.state := by
    refine GatewayState.ext_parts rfl rfl rfl ?_
    rw [h.catalog, h.routing]
    rfl
  rw [Backend.reload, exec_reload h.retry _ hcatalog, hsame]

/-- **A request with a clean reply leaves a settled snapshot settled.** -/
theorem AdminApi.Backend.Settled.call {w : Backend} {call : ApiCall}
    (h : w.Settled X.toPackages config)
    (hown : Owned w.users w.keys) (hfile : call.context.file = .ok config)
    (hclean : (serve X w call).1.Clean) : (serve X w call).2.Settled X.toPackages config := by
  obtain ⟨c, request⟩ := call
  have hserved := serve_served (X := X) (w := w) ⟨c, request⟩
  have hgrown : w.tables.Last (serve X w ⟨c, request⟩).2.tables := serve_last w _
  have husers : (serve X w ⟨c, request⟩).2.users.rows ≠ [] := by
    obtain ⟨user, hmem⟩ := List.exists_mem_of_ne_nil _ h.users
    obtain ⟨user', hfind, -⟩ := hgrown.users _ _ (Table.find_eq_some.2 ⟨hmem, rfl⟩)
    exact List.ne_nil_of_mem (Table.find_eq_some.1 hfind).1
  have hkeys : (serve X w ⟨c, request⟩).2.keys.rows ≠ [] ∨ config.gatewayKeys = [] := by
    refine h.keys.imp_left fun hsome => ?_
    obtain ⟨key, hmem⟩ := List.exists_mem_of_ne_nil _ hsome
    obtain ⟨key', hfind, -⟩ := hgrown.keys _ _ (Table.find_eq_some.2 ⟨hmem, rfl⟩)
    exact List.ne_nil_of_mem (Table.find_eq_some.1 hfind).1
  generalize hout : serve X w ⟨c, request⟩ = out at hserved hclean husers hkeys
  cases hserved with
  | nothing => exact h
  | newUser hinsert =>
    exact ⟨husers, hkeys, h.apiKeys.trans (apiKeys_newUser (t := w.tables) hown hinsert).symm,
      h.granted, h.catalog, h.valid, h.retry, h.routing⟩
  | newPassword id hash =>
    exact ⟨husers, hkeys, h.apiKeys.trans (apiKeys_newPassword (t := w.tables) id hash).symm,
      h.granted, h.catalog, h.valid, h.retry, h.routing⟩
  | @refreshed _ users keys n body =>
    rcases refresh_cases { w with users := users, keys := keys } c.faults n body with hr | hr
    · rw [hr] at husers hkeys ⊢
      exact ⟨husers, hkeys, rfl, h.granted, h.catalog, h.valid, h.retry, h.routing⟩
    · rw [hr] at hclean
      cases hclean.1
  | granted _ _ hv =>
    rcases hv with ⟨-, rfl⟩ | ⟨hv, -⟩
    · cases hclean.1
    · cases hv
      exact ⟨husers, hkeys, h.apiKeys, rfl, h.catalog, h.valid, h.retry, h.routing⟩
  | @catalog request =>
    have hconsole : (writeCatalog X w c request).2.console =
        (w.console.handle X.toPackages (.ok config) ⟨c.identity, request⟩).1 := by
      rw [writeCatalog, show c.file = .ok config from hfile]
    have hsettled : (w.console.handle X.toPackages (.ok config)
        ⟨c.identity, request⟩).1.Settled X.toPackages config := by
      rw [← show c.file = .ok config from hfile]
      refine h.console.handle hfile (fun rejection hr => ?_) fun status warning hr => ?_
      · exact (writeCatalog_error hr ▸ hclean).2
      · cases (writeCatalog_ok hr ▸ hclean).1
    rw [← hconsole] at hsettled
    obtain ⟨-, -, -, -, hserved, hgranted⟩ := writeCatalog_accounts (X := X) w c request
    exact ⟨husers, hkeys, hserved.trans h.apiKeys, hgranted.trans h.granted, hsettled.catalog,
      hsettled.valid, h.retry, hsettled.routing⟩

theorem Gateway.Settled.step (hs : s.Settled X.toPackages config) (hok : s.Applied X config event)
    (h : s.step X event = some s') : s'.Settled X.toPackages config := by
  have howned : Owned s'.tables.users s'.tables.keys := by
    rcases step_accounts h with ⟨husers, hkeys⟩ | hwrite
    · rw [husers, hkeys]
      exact hs.owned
    · exact hwrite.owned hs.owned
  refine ⟨howned, ?_⟩
  rintro w' rfl
  cases s with
  | down t =>
    cases event with
    | boot b =>
      cases (hok : b.config = config)
      unfold Gateway.step at h
      dsimp only at h
      split at h
      · rename_i t' w hbuilt
        cases h
        exact ((buildRouter_cases hbuilt).2.2.2 w' rfl).1.settled
      · cases h
    | die => cases h
    | call call => cases h
    | reload file => cases h
    | traffic counters usage lastUsedAt => cases h
  | up w =>
    have hw := hs.served w rfl
    cases event with
    | boot b => cases h
    | die => cases h
    | call call =>
      cases h
      exact hw.call hs.owned hok.1 (hok.2 w rfl)
    | reload file =>
      cases (hok : file = .ok config)
      cases h
      rw [hw.reload]
      exact hw
    | traffic counters usage lastUsedAt =>
      cases h
      refine ⟨hw.users, hw.keys.imp_left fun hsome hnil => hsome (List.map_eq_nil_iff.1 hnil),
        hw.apiKeys.trans (apiKeys_touched (t := w.tables) lastUsedAt).symm, hw.granted, hw.catalog,
        hw.valid, hw.retry, hw.routing⟩

/-! ## Boots in which nothing fails -/

/-- Nothing fails. -/
structure Boot.Healthy (b : Boot) : Prop where
  reads : ∀ read, b.fails read = false
  seeding : ∀ statement, b.seeding.fails statement = false
  imports : ∀ stage n, b.importFails stage n = false

theorem runCalls_iff {fails : Nat → Bool} (hfails : ∀ n, fails n = false) {n : Nat}
    {db db' : CatalogDb} {calls : List ImportCall} :
    runCalls fails n db calls = (db', true) ↔ calls.foldlM ImportCall.exec db = .ok db' := by
  induction calls generalizing n db with
  | nil => simp [runCalls, pure, Except.pure]
  | cons call calls ih =>
    rw [runCalls, hfails, if_neg Bool.false_ne_true, List.foldlM_cons]
    cases call.exec db with
    | ok next => exact ih
    | error e => exact iff_of_false (fun h => by cases h) fun h => by cases h

namespace Boot

variable {b : Boot} {db db' : CatalogDb}

theorem runStage_iff (hb : b.Healthy) {stage : ImportStage} : b.runStage stage db = (db', true) ↔
    (stage.calls b.config b.imports db).foldlM ImportCall.exec db = .ok db' := by
  rw [runStage, hb.imports, if_neg Bool.false_ne_true, runCalls_iff (hb.imports stage)]

theorem thenStage_iff {stage : ImportStage} {done : CatalogDb × Bool} :
    b.thenStage stage done = (db', true) ↔
      ∃ db, done = (db, true) ∧ b.runStage stage db = (db', true) := by
  obtain ⟨db, ok⟩ := done
  cases ok with
  | false => simp [thenStage]
  | true => simp [thenStage]

/-- The imports of the boot are `importOnce`. -/
theorem runImports_iff (hb : b.Healthy) : b.runImports db = (db', true) ↔
    db.importOnce b.config b.imports.newId b.imports.now = .ok db' := by
  rw [importOnce_calls, runImports, thenStage_iff]
  simp only [thenStage_iff, runStage_iff hb]
  constructor
  · rintro ⟨db₂, ⟨db₁, hproviders, hpricing⟩, hmodels⟩
    exact ⟨db₁, db₂, hproviders, hpricing, hmodels⟩
  · rintro ⟨db₁, db₂, hproviders, hpricing, hmodels⟩
    exact ⟨db₂, ⟨db₁, hproviders, hpricing⟩, hmodels⟩

/-- What the boot sets up besides the catalog. -/
def accounts (b : Boot) (t : Tables) : GatewayState :=
  (((GatewayState.ofRouting (routingOf {} {}) b.upstream b.usageRecorder).withApiKeys
    t.apiKeys).withGranted t.granted).withSpendCounter b.spendCounter

theorem buildRouterShared_eq (b : Boot) (t : Tables) (catalog : CatalogSnapshot) :
    buildRouterShared P b.config catalog b.upstream b.usageRecorder t.apiKeys t.granted
        b.spendCounter =
      (rebuild P b.config catalog (b.accounts t)).map fun state => .new state catalog := by
  unfold buildRouterShared rebuild
  change (GatewayState.fromParts P b.config catalog b.upstream b.usageRecorder >>= _) =
    (GatewayState.fromParts P b.config catalog b.upstream b.usageRecorder >>= _).map _
  cases GatewayState.fromParts P b.config catalog b.upstream b.usageRecorder <;> rfl

end Boot

/-- **A boot in which nothing fails** seeds the accounts and starts on the catalog. -/
theorem buildRouter_start {b : Boot} (hb : b.Healthy) {t : Tables} {users : Users} {keys : Keys}
    (hseeded : AdminApi.bootstrapAccounts P b.config b.seeding t.users t.keys = .ok (users, keys)) :
    (buildRouter P b t).2.map Backend.console =
      (AdminState.boot P b.config b.imports t.catalog
        (b.accounts { t with users := users, keys := keys })).toOption := by
  unfold buildRouter
  rw [hseeded]
  simp only [hb.reads, Bool.false_eq_true, if_false, or_false]
  cases himport : t.catalog.importOnce b.config b.imports.newId b.imports.now with
  | error e =>
    have hfailed : (b.runImports t.catalog).2 = false := by
      by_contra hdone
      have hrun : b.runImports t.catalog = ((b.runImports t.catalog).1, true) :=
        Prod.ext rfl (Bool.eq_true_of_not_eq_false hdone)
      rw [Boot.runImports_iff hb, himport] at hrun
      cases hrun
    rw [if_pos (by simp [hfailed]), AdminState.boot, himport]
    rfl
  | ok db =>
    rw [(Boot.runImports_iff hb).2 himport, AdminState.boot, himport]
    dsimp only
    rw [if_neg (by simp)]
    have hsame : b.accounts ⟨users, keys, t.grants, t.usage, db⟩ =
        b.accounts { t with users := users, keys := keys } := rfl
    rw [b.buildRouterShared_eq, hsame]
    simp only [Except.mapError, bind, Except.bind]
    cases rebuild P b.config db.snapshot (b.accounts { t with users := users, keys := keys }) <;>
      rfl

/-- Such a boot serves exactly when a start succeeds on the catalog that it finds. -/
theorem buildRouter_serves_iff {b : Boot} (hb : b.Healthy) (hfile : b.config.Loads P) {t : Tables}
    {users : Users} {keys : Keys}
    (hseeded : AdminApi.bootstrapAccounts P b.config b.seeding t.users t.keys = .ok (users, keys)) :
    (∃ w, (buildRouter P b t).2 = some w) ↔ t.catalog.Startable P b.config := by
  rw [← boot_iff hfile b.imports (b.accounts { t with users := users, keys := keys }),
    ← Option.isSome_iff_exists, ← Option.isSome_map, buildRouter_start hb hseeded]
  cases AdminState.boot P b.config b.imports t.catalog
      (b.accounts { t with users := users, keys := keys }) <;>
    simp [Except.toOption]

/-! ## Restarts -/

/-- No section of the file finds its table empty. -/
structure GatewayConfig.Imported (config : GatewayConfig) (db : CatalogDb) : Prop where
  providers : db.providers ≠ [] ∨ config.providers = []
  pricing : db.pricing ≠ [] ∨ config.pricing = []
  routes : db.models ≠ [] ∨ config.routes = []

theorem calls_imported {draw : BootDraw} {db : CatalogDb} (h : config.Imported db)
    (stage : ImportStage) : stage.calls config draw db = [] := by
  cases stage with
  | providers =>
    rw [ImportStage.calls]
    split
    · rename_i hcount
      rw [h.providers.resolve_left fun hne => hne (List.length_eq_zero_iff.1 hcount), List.map_nil]
    · rfl
  | pricing =>
    rw [ImportStage.calls]
    split
    · rename_i hcount
      rw [h.pricing.resolve_left fun hne => hne (List.length_eq_zero_iff.1 hcount)]
      rfl
    · rfl
  | models =>
    rw [ImportStage.calls]
    split
    · rfl
    · rename_i hcount
      rw [h.routes.resolve_left fun hne => hcount (List.length_pos_of_ne_nil hne)]
      rfl

theorem Boot.runImports_imported {b : Boot} {db : CatalogDb} (h : b.config.Imported db)
    (hb : b.Healthy) : b.runImports db = (db, true) := by
  have hstage (stage : ImportStage) :
      (stage.calls b.config b.imports db).foldlM ImportCall.exec db = .ok db := by
    rw [calls_imported h]
    rfl
  exact (runImports_iff hb).2 (importOnce_calls.2
    ⟨db, db, hstage .providers, hstage .pricing, hstage .models⟩)

/-- What a restarted gateway serves: the handles are new, everything else as before. -/
def SharedGatewayState.restarted (shared : SharedGatewayState) (b : Boot) : SharedGatewayState :=
  { shared with
    state := { shared.state with
      upstream := b.upstream
      usageRecorder := b.usageRecorder
      spendCounter := b.spendCounter } }

theorem AdminApi.Backend.Settled.restart {w : Backend} {b : Boot} (h : w.Settled P b.config)
    (himported : b.config.Imported w.console.db) (hb : b.Healthy) :
    ∃ w', buildRouter P b w.tables = (w.tables, some w') ∧
      w'.console.shared = w.console.shared.restarted b := by
  have haccounts : AdminApi.bootstrapAccounts P b.config b.seeding w.tables.users w.tables.keys =
      .ok (w.users, w.keys) := bootstrapAccounts_again hb.seeding h.users h.keys
  have himports : b.runImports w.console.db = (w.console.db, true) :=
    Boot.runImports_imported himported hb
  have hshared : buildRouterShared P b.config w.console.db.snapshot b.upstream b.usageRecorder
      w.tables.apiKeys w.tables.granted b.spendCounter = .ok (w.console.shared.restarted b) := by
    rw [buildRouterShared, fromParts_ok.2 ⟨h.valid, h.retry, rfl⟩]
    show Except.ok _ = Except.ok _
    rw [SharedGatewayState.restarted, h.catalog, SharedGatewayState.new]
    congr 2
    exact GatewayState.ext_parts h.apiKeys.symm h.granted.symm rfl h.routing.symm
  refine ⟨{ w with
    usage := some w.tables.usage
    counters := seededCounter w.tables.usage
    console := { w.console with shared := w.console.shared.restarted b } }, ?_, rfl⟩
  unfold buildRouter
  rw [haccounts]
  simp only [hb.reads, Bool.false_eq_true, if_false, or_self]
  rw [show w.tables.catalog = w.console.db from rfl, himports]
  have htables : (⟨w.users, w.keys, w.tables.grants, w.tables.usage, w.console.db⟩ : Tables) =
      w.tables := rfl
  dsimp only
  rw [if_neg (by simp), htables, hshared]
  rfl

/-- **Hot applied is restarted.** Take any run from the migrated database, with any boots, failed
ones too, and deaths, in which every boot, every reload and every refresh reads the same file and
every reply to a request is without a warning or an internal error. Requests and reloads come one
after another: none overlaps another one. If no section of the file finds its table empty, a restart
in which nothing fails changes no table and serves the same keys, grants, providers, models, rules
and retry policy that are served without it. -/
theorem hot_applied_is_restarted {collation : String → String → Bool} {tr : List GatewayEvent}
    {w : Backend} {b : Boot} (hrun : Run (Gateway.step X) (Gateway.Applied X b.config)
      (.down (.empty collation)) tr (.up w))
    (himported : b.config.Imported w.console.db) (hb : b.Healthy) :
    ∃ w', exec (Gateway.step X) (.up w) [.die, .boot b] = some (.up w') ∧ w'.tables = w.tables ∧
      w'.console.shared = w.console.shared.restarted b := by
  have hstart : (Gateway.down (.empty collation)).Settled X.toPackages b.config := by
    refine ⟨fun key hkey => ?_, fun w hw => ?_⟩
    · cases hkey
    · cases hw
  have hsettled := hrun.inv (I := fun u => u.Settled X.toPackages b.config) hstart
    fun _ _ _ hu hok hs => hu.step hok hs
  obtain ⟨w', hbuilt, hshared⟩ := (hsettled.served w rfl).restart himported hb
  have hdie : Gateway.step X (.up w) .die = some (.down w.tables) := rfl
  have hboot : Gateway.step X (.down w.tables) (.boot b) = some (.up w') := by
    unfold Gateway.step
    dsimp only
    rw [hbuilt]
  refine ⟨w', ?_, ((buildRouter_cases hbuilt).2.2.2 w' rfl).2, hshared⟩
  rw [exec, List.foldlM_cons, hdie, Option.bind_eq_bind, Option.bind_some, List.foldlM_cons, hboot]
  rfl

/-- A request whose reply is clean continues a run. -/
theorem Applied.serve {w : Backend} {tr : List GatewayEvent} {c : ApiCall}
    (h : Run (Gateway.step X) (Gateway.Applied X config) s tr (.up w))
    (hfile : c.context.file = .ok config) (hclean : (AdminApi.serve X w c).1.Clean) :
    Run (Gateway.step X) (Gateway.Applied X config) s (tr ++ [.call c])
      (.up (AdminApi.serve X w c).2) := by
  refine h.snoc ⟨hfile, ?_⟩ rfl
  rintro _ ⟨⟩
  exact hclean

/-- The gateway of the samples, with a URL and an amount that parse. -/
def readableTexts : Externals :=
  { sampleExternals with
    uriFromStr := catalogPackages.uriFromStr
    decimalFromStr := catalogPackages.decimalFromStr }

def createCiKey : ApiCall := ⟨sampleContext, .createKey ⟨"ci", none, none⟩⟩

/-- A dollar for the admin. -/
def grantDollar : ApiCall := ⟨sampleContext, .createGrant ⟨1, "1"⟩ none⟩

def createHotProvider : ApiCall where
  context := sampleContext
  request := .writeCatalog (.createProvider
    { id := "p", fields := { protocol := "openai", baseUrl := "https://a", apiKey := "k" } })

/-- The admin creates a key, a grant and a provider. -/
def hotWrites : List GatewayEvent := [.call createCiKey, .call grantDollar, .call createHotProvider]

/-- What the three requests publish is served by the restarted gateway too. -/
theorem hot_applied_is_restarted_sample : ∃ w,
    Steps (Gateway.step readableTexts) sampleDown (.boot sampleBoot :: hotWrites) (.up w) ∧
    (w.console.shared.state.apiKeys.keys.card = 2 ∧
      w.console.shared.state.granted.lookup 1 = some 1 ∧
      w.console.shared.state.providers.keys = {"p"}) ∧
    ∃ w', exec (Gateway.step readableTexts) (.up w) [.die, .boot sampleBoot] = some (.up w') ∧
      w'.tables = w.tables ∧ w'.console.shared = w.console.shared.restarted sampleBoot := by
  obtain ⟨w, hrun, himported, hserved⟩ : ∃ w,
      Run (Gateway.step readableTexts) (Gateway.Applied readableTexts sampleBoot.config) sampleDown
        (.boot sampleBoot :: hotWrites) (.up w) ∧
      sampleBoot.config.Imported w.console.db ∧
      (w.console.shared.state.apiKeys.keys.card = 2 ∧
        w.console.shared.state.granted.lookup 1 = some 1 ∧
        w.console.shared.state.providers.keys = {"p"}) := by
    have hstart : Run (Gateway.step readableTexts)
        (Gateway.Applied readableTexts sampleBoot.config) sampleDown [.boot sampleBoot] (.up _) :=
      .snoc .nil rfl rfl
    have hkey := Applied.serve (c := createCiKey) hstart rfl (by decide +kernel)
    have hgrant := Applied.serve (c := grantDollar) hkey rfl (by decide +kernel)
    have hprovider := Applied.serve (c := createHotProvider) hgrant rfl (by decide +kernel)
    exact ⟨_, hprovider, ⟨.inr rfl, .inr rfl, .inr rfl⟩, by decide +kernel⟩
  exact ⟨w, hrun.mono fun _ _ _ => trivial, hserved, hot_applied_is_restarted hrun himported
    ⟨fun _ => rfl, fun _ => rfl, fun _ _ => rfl⟩⟩

end LiteAgentify
