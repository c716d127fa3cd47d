import LiteAgentify.Proof.Isolation
import LiteAgentify.Proxy.Boot

/-!
# What a management request does

`Served`: everything that a request can do to the backend, whoever sends it and whichever of its
statements fail (`serve_served`): a request that writes keys or the status of a user refreshes the
key map (`KeyWrite`), the others leave the tables it is made of alone, up to a new user or a new
password. The results about runs of requests are derived from it, no handler is unfolded again.
-/

set_option autoImplicit false

namespace LiteAgentify

namespace AdminApi

/-! ## Writes -/

def UserModel.setStatus (status : UserStatus) (user : UserModel) : UserModel :=
  { user with status := status }

def UserModel.setPassword (hash : String) (user : UserModel) : UserModel :=
  { user with passwordHash := hash }

def ApiKeyModel.revoke (key : ApiKeyModel) : ApiKeyModel := { key with status := .revoked }

@[simp] theorem UserModel.setStatus_id (status : UserStatus) (user : UserModel) :
    (user.setStatus status).id = user.id := rfl

@[simp] theorem UserModel.setStatus_username (status : UserStatus) (user : UserModel) :
    (user.setStatus status).username = user.username := rfl

@[simp] theorem UserModel.setPassword_id (hash : String) (user : UserModel) :
    (user.setPassword hash).id = user.id := rfl

@[simp] theorem UserModel.setPassword_username (hash : String) (user : UserModel) :
    (user.setPassword hash).username = user.username := rfl

@[simp] theorem ApiKeyModel.revoke_id (key : ApiKeyModel) : key.revoke.id = key.id := rfl

@[simp] theorem ApiKeyModel.revoke_keyHash (key : ApiKeyModel) :
    key.revoke.keyHash = key.keyHash := rfl

def withStatus (users : Users) (id : Uuid) (status : UserStatus) : Users :=
  users.update id (UserModel.setStatus status) (UserModel.setStatus_id status)
    (UserModel.setStatus_username status)

def withPassword (users : Users) (id : Uuid) (hash : String) : Users :=
  users.update id (UserModel.setPassword hash) (UserModel.setPassword_id hash)
    (UserModel.setPassword_username hash)

def withRevoked (keys : Keys) (id : Uuid) : Keys :=
  keys.update id ApiKeyModel.revoke ApiKeyModel.revoke_id ApiKeyModel.revoke_keyHash

def withLimits (keys : Keys) (id : Uuid) (allowedModels : Option Json) (spendCapUsd : Option ℚ) :
    Keys :=
  keys.update id
    (fun key => { key with allowedModels := allowedModels, spendCapUsd := spendCapUsd })
    (fun _ => rfl) fun _ => rfl

/-- A write that the key map depends on: the users and the keys that it leaves. -/
inductive KeyWrite (P : Packages) (c : Context) (users : Users) (keys : Keys) :
    ApiRequest → Users → Keys → Prop
  | insert {body : CreateKeyRequest} {name : String} {allowedModels : Option (List String)}
      {spendCapUsd : Option ℚ} {keys' : Keys} :
      (users.find c.identity.userId).isSome →
      keys.insert (newKey c P name allowedModels spendCapUsd) = some keys' →
      KeyWrite P c users keys (.createKey body) users keys'
  | limits {id : Uuid} {body : UpdateKeyRequest} (allowedModels : Option Json)
      (spendCapUsd : Option ℚ) :
      KeyWrite P c users keys (.updateKey id body) users
        (withLimits keys id allowedModels spendCapUsd)
  | revoke {id : Uuid} : KeyWrite P c users keys (.revokeKey id) users (withRevoked keys id)
  | disable {id : Uuid} :
      KeyWrite P c users keys (.disableUser id) (withStatus users id .disabled) keys
  | enable {id : Uuid} :
      KeyWrite P c users keys (.enableUser id) (withStatus users id .active) keys

/-- The grants that a reply acknowledges. -/
def Reply.grants (reply : Reply) : List GrantRecord :=
  match reply.body with
  | .grant grant => [grant]
  | _ => []

/-- What a request does: nothing; a write that the snapshot does not depend on; a write of the key
map's tables, with the refresh that follows; a grant, with its refresh; a write of the catalog. -/
inductive Served (X : Externals) (w : Backend) (c : Context) :
    ApiRequest → Reply × Backend → Prop
  | nothing {request : ApiRequest} {reply : Reply} (hgrants : reply.grants = []) :
      Served X w c request (reply, w)
  | newUser {request : ApiRequest} {user : UserModel} {users : Users} :
      w.users.insert user = some users →
      Served X w c request (⟨201, .user (userJson user), none⟩, { w with users := users })
  | newPassword {request : ApiRequest} (id : Uuid) (hash : String) :
      Served X w c request (json .ok, { w with users := withPassword w.users id hash })
  | refreshed {request : ApiRequest} {users : Users} {keys : Keys} {n : Nat} {body : Body} :
      KeyWrite X.toPackages c w.users w.keys request users keys → (json body).grants = [] →
      Served X w c request
        ({ w with users := users, keys := keys }.refreshAndRespond c.faults n body)
  | granted {body : GrantBody} {note : Option String} {grant : GrantRecord} {v : Backend}
      {warning : Option String} :
      (w.users.find grant.userId).isSome → grant.id = c.draws.id →
      (v = { w with grants := w.grants ++ [grant] } ∧ warning = some grantWarning ∨
        { w with grants := w.grants ++ [grant] }.refreshGranted false = some v ∧ warning = none) →
      Served X w c (.createGrant body note) (⟨201, .grant grant, warning⟩, v)
  | catalog {request : CatalogRequest} :
      Served X w c (.writeCatalog request) (writeCatalog X w c request)

section
variable {X : Externals} {w : Backend} {c : Context}

/-! ## Handlers -/

theorem updateRow_done {R U : Type} {key : R → Uuid} {unique : R → U} {faults : Faults} {n : Nat}
    {t t' : Table key unique} {k : Uuid} {storable : Bool} {f : R → R}
    {hkey : ∀ row, key (f row) = key row} {hunique : ∀ row, unique (f row) = unique row}
    (h : updateRow faults n t k storable f hkey hunique = .done t') :
    t' = t.update k f hkey hunique ∧ (t.find k).isSome := by
  unfold updateRow at h
  split_ifs at h with hn hfind
  cases h
  exact ⟨rfl, by simpa [Option.isSome_iff_ne_none] using hfind⟩

variable (X w c) in
theorem rejected_served (request : ApiRequest) (rejection : Rejection) :
    Served X w c request (reject w rejection) := .nothing rfl

theorem adminOnly_served {request : ApiRequest} {handler : Reply × Backend}
    (h : Served X w c request handler) : Served X w c request (adminOnly w c handler) := by
  unfold adminOnly
  split
  · exact rejected_served X w c request _
  · exact h

theorem reading_served {request : ApiRequest} {fault : Bool} {message : String} {body : Body}
    (h : (json body).grants = []) : Served X w c request (reading w fault message body) := by
  unfold reading
  split
  · exact rejected_served X w c request _
  · exact .nothing h

theorem changeOwnPassword_served (currentPassword newPassword : String) :
    Served X w c (.changeOwnPassword currentPassword newPassword)
      (changeOwnPassword X w c currentPassword newPassword) := by
  unfold changeOwnPassword
  split
  · exact rejected_served X w c _ _
  split_ifs
  · exact rejected_served X w c _ _
  split
  · exact rejected_served X w c _ _
  split
  · exact rejected_served X w c _ _
  split
  · exact rejected_served X w c _ _
  rename_i hash _
  split
  · rename_i users hdone
    obtain ⟨rfl, -⟩ := updateRow_done hdone
    exact .newPassword c.identity.userId hash
  · exact rejected_served X w c _ _
  · exact rejected_served X w c _ _

theorem createUser_ok {faults : Faults} {user : UserModel} {users : Users}
    (h : w.createUser faults user = .ok users) : w.users.insert user = some users := by
  unfold Backend.createUser at h
  dsimp only at h
  split_ifs at h
  split at h
  · cases h
    assumption
  · cases h

theorem createUser_served (username password role : String) :
    Served X w c (.createUser username password role)
      (createUser w c username password role) := by
  refine adminOnly_served ?_
  split
  · exact rejected_served X w c _ _
  dsimp only
  split
  · exact rejected_served X w c _ _
  · rename_i users hcreated
    exact .newUser (createUser_ok hcreated)

theorem disableUser_served (id : Uuid) :
    Served X w c (.disableUser id) (disableUser w c id) := by
  refine adminOnly_served ?_
  split_ifs
  · exact rejected_served X w c _ _
  split
  · rename_i users hdone
    obtain ⟨rfl, -⟩ := updateRow_done hdone
    exact .refreshed .disable rfl
  · exact rejected_served X w c _ _
  · exact rejected_served X w c _ _

theorem enableUser_served (id : Uuid) : Served X w c (.enableUser id) (enableUser w c id) := by
  refine adminOnly_served ?_
  split
  · rename_i users hdone
    obtain ⟨rfl, -⟩ := updateRow_done hdone
    exact .refreshed .enable rfl
  · exact rejected_served X w c _ _
  · exact rejected_served X w c _ _

theorem resetPassword_served (id : Uuid) (password : String) :
    Served X w c (.resetPassword id password) (resetPassword w c id password) := by
  refine adminOnly_served ?_
  split
  · exact rejected_served X w c _ _
  rename_i hash _
  split
  · rename_i users hdone
    obtain ⟨rfl, -⟩ := updateRow_done hdone
    exact .newPassword id hash
  · exact rejected_served X w c _ _
  · exact rejected_served X w c _ _

theorem listKeys_served : Served X w c .listKeys (listKeys w c) := by
  unfold listKeys
  dsimp only
  split_ifs <;> exact .nothing rfl

/-- A key that is inserted belongs to a user. -/
theorem createKey_some {fault : Bool} {key : ApiKeyModel} {names : List String} {keys : Keys}
    (h : w.createKey fault key names = some keys) :
    (w.users.find key.userId).isSome ∧ w.keys.insert key = some keys := by
  unfold Backend.createKey at h
  split_ifs at h with hn
  simp only [not_or] at hn
  exact ⟨by simpa [Option.isSome_iff_ne_none] using hn.2.1, h⟩

theorem createKey_served (body : CreateKeyRequest) :
    Served X w c (.createKey body) (createKey X w c body) := by
  unfold createKey
  split
  · exact rejected_served X w c _ _
  dsimp only
  split
  · exact rejected_served X w c _ _
  · rename_i key keys hcreated
    obtain ⟨cap, -, hcreated⟩ := Option.bind_eq_some_iff.1 hcreated
    obtain ⟨keys', hkeys, heq⟩ := Option.map_eq_some_iff.1 hcreated
    cases heq
    obtain ⟨howner, hinsert⟩ := createKey_some hkeys
    exact .refreshed (.insert howner hinsert) rfl

theorem updateKey_served (id : Uuid) (body : UpdateKeyRequest) :
    Served X w c (.updateKey id body) (updateKey X w c id body) := by
  unfold updateKey
  split
  · exact rejected_served X w c _ _
  split
  · exact rejected_served X w c _ _
  split
  · rename_i keys hdone
    obtain ⟨rfl, -⟩ := updateRow_done hdone
    exact .refreshed (.limits _ _) rfl
  · exact rejected_served X w c _ _
  · exact rejected_served X w c _ _

theorem revokeKey_served (id : Uuid) : Served X w c (.revokeKey id) (revokeKey w c id) := by
  unfold revokeKey
  split
  · exact rejected_served X w c _ _
  split_ifs
  · exact .nothing rfl
  split
  · rename_i keys hdone
    obtain ⟨rfl, -⟩ := updateRow_done hdone
    exact .refreshed .revoke rfl
  · exact rejected_served X w c _ _
  · exact rejected_served X w c _ _

theorem appendGrant_some {fault : Bool} {amount : Decimal} {row : ℚ → GrantRecord}
    {grant : GrantRecord} (h : w.appendGrant fault amount row = some grant) :
    (∃ amount, grant = row amount) ∧ (w.users.find grant.userId).isSome := by
  unfold Backend.appendGrant at h
  split at h
  · cases h
  · dsimp only at h
    split_ifs at h with hn
    cases h
    simp only [not_or] at hn
    exact ⟨⟨_, rfl⟩, by simpa [Option.isSome_iff_ne_none] using hn.2.1⟩

theorem createGrant_served (body : GrantBody) (note : Option String) :
    Served X w c (.createGrant body note) (createGrant X w c body note) := by
  refine adminOnly_served ?_
  split
  · exact rejected_served X w c _ _
  split_ifs
  · exact rejected_served X w c _ _
  · exact rejected_served X w c _ _
  dsimp only
  split
  · exact rejected_served X w c _ _
  rename_i grant hgrant
  obtain ⟨⟨amount, hrow⟩, huser⟩ := appendGrant_some hgrant
  have hid : grant.id = c.draws.id := by rw [hrow]
  cases hfault : c.faults.statement 2 with
  | true => exact .granted huser hid (.inl ⟨rfl, rfl⟩)
  | false => exact .granted huser hid (.inr ⟨rfl, rfl⟩)

/-- **What a request does**, whoever sends it and whatever fails. -/
theorem serve_served (call : ApiCall) :
    Served X w call.context call.request (serve X w call) := by
  obtain ⟨c, request⟩ := call
  cases request with
  | listUsage query =>
    refine .nothing ?_
    dsimp only
    split
    · rfl
    · split
      · rfl
      · split <;> rfl
  | usageSummary query =>
    refine .nothing ?_
    dsimp only
    split
    · rfl
    · split
      · rfl
      · split <;> rfl
  | me => exact .nothing rfl
  | changeOwnPassword currentPassword newPassword =>
    exact changeOwnPassword_served currentPassword newPassword
  | listUsers => exact adminOnly_served (reading_served rfl)
  | createUser username password role => exact createUser_served username password role
  | disableUser id => exact disableUser_served id
  | enableUser id => exact enableUser_served id
  | resetPassword id password => exact resetPassword_served id password
  | listKeys => exact listKeys_served
  | createKey body => exact createKey_served body
  | updateKey id body => exact updateKey_served id body
  | revokeKey id => exact revokeKey_served id
  | listProviders => exact adminOnly_served (reading_served rfl)
  | revealProviderKey id =>
    refine adminOnly_served ?_
    split_ifs
    · exact rejected_served X w c _ _
    split
    · exact rejected_served X w c _ _
    · exact .nothing rfl
  | listPricing => exact adminOnly_served (reading_served rfl)
  | listModels => exact adminOnly_served (reading_served rfl)
  | listModelNames => exact reading_served rfl
  | writeCatalog request => exact .catalog
  | listBalances => exact adminOnly_served (reading_served rfl)
  | createGrant body note => exact createGrant_served body note
  | listLedger userId limit =>
    refine adminOnly_served ?_
    split_ifs
    · exact rejected_served X w c _ _
    · exact reading_served rfl
  | myBalance => exact .nothing rfl
  | logout => exact .nothing rfl

end

end AdminApi

end LiteAgentify
