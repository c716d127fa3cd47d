import LiteAgentify.Admin.Routes
import LiteAgentify.Lib.Keyed

/-!
# User sessions are isolated

What a user-role session of `u` can see of the backend is what `SameFor u` compares: `u`'s own
record, keys and usage rows, the counters of `u` and of `u`'s keys, the published sum of `u`'s
grants and the names of the enabled models. Each handler answers alike in two backends that agree on
that, writes nothing outside `u`'s record and keys (`Untouched`), and leaves two backends that agree
(`Alike`, one lemma for each handler).
-/

set_option autoImplicit false

namespace LiteAgentify

namespace AdminApi

open UsageQuery

def ownKeyRow (u : Uuid) (key : ApiKeyModel) : Bool := key.userId = u

def ownUsage (u : Uuid) (row : UsageModel) : Bool := row.userId = some u

/-- Two backends agree on what user `u` may see. -/
structure SameFor (u : Uuid) (w₁ w₂ : Backend) : Prop where
  user : w₁.users.find u = w₂.users.find u
  keys : w₁.keys.select (ownKeyRow u) = w₂.keys.select (ownKeyRow u)
  usage : w₁.usage.map (·.filter (ownUsage u)) = w₂.usage.map (·.filter (ownUsage u))
  spent : w₁.counters.get (.user u) = w₂.counters.get (.user u)
  keySpent : ∀ key ∈ w₁.keys.select (ownKeyRow u),
    w₁.counters.get (.key key.id) = w₂.counters.get (.key key.id)
  granted : (w₁.console.shared.state.granted.lookup u).getD 0 =
    (w₂.console.shared.state.granted.lookup u).getD 0
  names : enabledNames w₁.console.db = enabledNames w₂.console.db

/-- Everything in the tables but `u`'s record and keys is as it was, and the shared snapshot is what
it was but for the published key map. -/
structure Untouched (u : Uuid) (w w' : Backend) : Prop where
  users : w'.users.select (·.id ≠ u) = w.users.select (·.id ≠ u)
  keys : w'.keys.select (·.userId ≠ u) = w.keys.select (·.userId ≠ u)
  grants : w'.grants = w.grants
  usage : w'.usage = w.usage
  counters : w'.counters = w.counters
  catalog : w'.console.db = w.console.db
  shared : w'.console.shared = { w.console.shared with
    state := w.console.shared.state.withApiKeys w'.console.shared.state.apiKeys }

/-- And every key that was not there before has what was drawn for it. -/
structure Confined (P : Packages) (u : Uuid) (d : Draws) (w w' : Backend) : Prop extends
    Untouched u w w' where
  drawn : ∀ key ∈ w'.keys.rows,
    (∃ key' ∈ w.keys.rows, key'.id = key.id ∧ key'.keyHash = key.keyHash) ∨
      key.id = d.id ∧ key.keyHash = hashApiKeyHex P d.apiKey

/-- What a request draws for a new key occurs nowhere in the backend. -/
structure Fresh (P : Packages) (w : Backend) (d : Draws) : Prop where
  id : d.id ∉ w.keys.rows.map fun key => key.id
  hash : hashApiKeyHex P d.apiKey ∉ w.keys.rows.map fun key => key.keyHash

/-- A record without what is drawn for it: its id, its prefix and its time. -/
def KeyJson.masked (record : KeyJson) : KeyJson :=
  { record with id := 0, keyPrefix := "", createdAt := 0 }

/-- A reply without fresh ids, key material and times. -/
def Reply.masked (reply : Reply) : Reply :=
  match reply.body with
  | .created _ record => { reply with body := .created "" record.masked }
  | _ => reply

/-! ## The relations -/

section
variable {u v : Uuid} {w w' w₁ w₂ w₃ : Backend}

theorem SameFor.refl : SameFor u w w := ⟨rfl, rfl, rfl, rfl, fun _ _ => rfl, rfl, rfl⟩

theorem SameFor.trans (h : SameFor u w₁ w₂) (h' : SameFor u w₂ w₃) : SameFor u w₁ w₃ :=
  ⟨h.user.trans h'.user, h.keys.trans h'.keys, h.usage.trans h'.usage, h.spent.trans h'.spent,
    fun key hkey => (h.keySpent key hkey).trans (h'.keySpent key (h.keys ▸ hkey)),
    h.granted.trans h'.granted, h.names.trans h'.names⟩

theorem Untouched.refl : Untouched u w w := ⟨rfl, rfl, rfl, rfl, rfl, rfl, rfl⟩

theorem Untouched.trans (h : Untouched u w₁ w₂) (h' : Untouched u w₂ w₃) : Untouched u w₁ w₃ :=
  ⟨h'.users.trans h.users, h'.keys.trans h.keys, h'.grants.trans h.grants, h'.usage.trans h.usage,
    h'.counters.trans h.counters, h'.catalog.trans h.catalog, by
      rw [h'.shared, h.shared]
      rfl⟩

theorem Untouched.granted (h : Untouched u w w') :
    w'.console.shared.state.granted = w.console.shared.state.granted := by
  rw [h.shared]
  rfl

theorem Confined.of_keys {P : Packages} {d : Draws} (h : Untouched u w w')
    (hkeys : w'.keys = w.keys) : Confined P u d w w' :=
  ⟨h, fun key hkey => .inl ⟨key, hkeys ▸ hkey, rfl, rfl⟩⟩

theorem Confined.refl {P : Packages} {d : Draws} : Confined P u d w w := .of_keys .refl rfl

/-- The record of every other user is as it was. -/
theorem Untouched.find (h : Untouched u w w') (hne : v ≠ u) : w'.users.find v = w.users.find v := by
  have hfilter (t : Users) : t.find v = (t.select (·.id ≠ u)).find? (·.id = v) := by
    rw [← Table.find_filter]
    cases hv : t.find v with
    | none => rfl
    | some user =>
      have hid := (Table.find_eq_some.1 hv).2
      rw [Option.filter_some, if_pos]
      simpa [hid] using hne
  rw [hfilter, hfilter, h.users]

/-- So are the keys of every other user. -/
theorem Untouched.select (h : Untouched u w w') (hne : v ≠ u) :
    w'.keys.select (ownKeyRow v) = w.keys.select (ownKeyRow v) := by
  have hfilter (t : Keys) :
      t.select (ownKeyRow v) = (t.select (·.userId ≠ u)).filter (ownKeyRow v) := by
    rw [Table.select, Table.select, List.filter_filter]
    refine List.filter_congr fun key _ => ?_
    by_cases hkey : key.userId = v
    · simp [ownKeyRow, hkey, hne]
    · simp [ownKeyRow, hkey]
  rw [hfilter, hfilter, h.keys]

/-- Another user sees no difference. -/
theorem Untouched.sameFor (h : Untouched u w w') (hne : v ≠ u) : SameFor v w' w where
  user := h.find hne
  keys := h.select hne
  usage := by rw [h.usage]
  spent := by rw [h.counters]
  keySpent := fun key _ => by rw [h.counters]
  granted := by rw [h.granted]
  names := by rw [h.catalog]

end

/-! ## Writes -/

section
variable {u : Uuid} {w w₁ w₂ : Backend} {faults : Faults} {n : Nat} {body : Body}

theorem refresh_fst : (w.refreshAndRespond faults n body).1 =
    if faults.statement n ∨ faults.statement (n + 1) then
      { json body with warning := some keyWarning }
    else json body := by
  rw [Backend.refreshAndRespond, Backend.refreshApiKeys, Backend.activeKeyMap]
  split_ifs <;> rfl

variable (w faults n body) in
/-- A refresh publishes a key map and changes nothing else. -/
theorem refresh_snd : ∃ apiKeys, (w.refreshAndRespond faults n body).2 =
    { w with console := { w.console with shared := { w.console.shared with
      state := w.console.shared.state.withApiKeys apiKeys } } } := by
  rw [Backend.refreshAndRespond, Backend.refreshApiKeys, Backend.activeKeyMap]
  split_ifs
  · exact ⟨w.console.shared.state.apiKeys, rfl⟩
  · exact ⟨_, rfl⟩

theorem Confined.refresh {P : Packages} {d : Draws} {v : Backend} (h : Confined P u d w v) :
    Confined P u d w (v.refreshAndRespond faults n body).2 := by
  obtain ⟨apiKeys, hv⟩ := refresh_snd v faults n body
  rw [hv]
  exact ⟨h.toUntouched.trans ⟨rfl, rfl, rfl, rfl, rfl, rfl, rfl⟩, h.drawn⟩

theorem refresh_sameFor {body₁ body₂ : Body} (h : SameFor u w₁ w₂) :
    SameFor u (w₁.refreshAndRespond faults n body₁).2 (w₂.refreshAndRespond faults n body₂).2 := by
  obtain ⟨apiKeys₁, h₁⟩ := refresh_snd w₁ faults n body₁
  obtain ⟨apiKeys₂, h₂⟩ := refresh_snd w₂ faults n body₂
  rw [h₁, h₂]
  exact ⟨h.user, h.keys, h.usage, h.spent, h.keySpent, h.granted, h.names⟩

variable {f : UserModel → UserModel} {hid : ∀ user, (f user).id = user.id}
  {hname : ∀ user, (f user).username = user.username}

theorem updateUser_confined {P : Packages} {d : Draws} :
    Confined P u d w { w with users := w.users.update u f hid hname } := by
  refine .of_keys ⟨?_, rfl, rfl, rfl, rfl, rfl, rfl⟩ rfl
  refine Table.select_update_of_not hid hname (fun user => by simp only [hid]) ?_
  intro user _ hu
  simpa using hu

theorem updateUser_sameFor (h : SameFor u w₁ w₂) :
    SameFor u { w₁ with users := w₁.users.update u f hid hname }
      { w₂ with users := w₂.users.update u f hid hname } where
  user := by rw [Table.find_update, Table.find_update, h.user]
  keys := h.keys
  usage := h.usage
  spent := h.spent
  keySpent := h.keySpent
  granted := h.granted
  names := h.names

end

section
variable {u id : Uuid} {w w₁ w₂ : Backend} {f : ApiKeyModel → ApiKeyModel}
  {hid : ∀ key, (f key).id = key.id} {hhash : ∀ key, (f key).keyHash = key.keyHash}

/-- An update of one of the user's keys that leaves it to its owner. -/
theorem updateKey_confined {P : Packages} {d : Draws} {key : ApiKeyModel}
    (hkey : w.keys.find id = some key) (hown : key.userId = u)
    (howner : ∀ key, (f key).userId = key.userId) :
    Confined P u d w { w with keys := w.keys.update id f hid hhash } where
  users := rfl
  keys := by
    refine Table.select_update_of_not hid hhash (fun row => by simp only [howner]) ?_
    intro row hrow hrid
    have : some key = some row := hkey.symm.trans (Table.find_eq_some.2 ⟨hrow, hrid⟩)
    cases this
    simpa using hown
  grants := rfl
  usage := rfl
  counters := rfl
  catalog := rfl
  shared := rfl
  drawn := by
    intro key hkey
    obtain ⟨row, hrow, rfl⟩ := List.mem_map.1 hkey
    exact .inl ⟨row, hrow, (Table.change_eq (g := fun key => key.id) hid row).symm,
      (Table.change_eq (g := fun key => key.keyHash) hhash row).symm⟩

theorem updateKey_sameFor (h : SameFor u w₁ w₂) (howner : ∀ key, (f key).userId = key.userId) :
    SameFor u { w₁ with keys := w₁.keys.update id f hid hhash }
      { w₂ with keys := w₂.keys.update id f hid hhash } where
  user := h.user
  keys := by
    rw [Table.select_update fun key => by simp only [ownKeyRow, howner],
      Table.select_update fun key => by simp only [ownKeyRow, howner], h.keys]
  usage := h.usage
  spent := h.spent
  keySpent := by
    intro key hkey
    rw [Table.select_update fun key => by simp only [ownKeyRow, howner]] at hkey
    obtain ⟨row, hrow, rfl⟩ := List.mem_map.1 hkey
    rw [Table.change_eq (g := fun key => key.id) hid row]
    exact h.keySpent row hrow
  granted := h.granted
  names := h.names

variable {keys keys₁ keys₂ : Keys} {key : ApiKeyModel}

theorem insertKey_confined {P : Packages} {d : Draws} (hkey : w.keys.insert key = some keys)
    (hown : key.userId = u) (hid : key.id = d.id) (hhash : key.keyHash = hashApiKeyHex P d.apiKey) :
    Confined P u d w { w with keys := keys } where
  users := rfl
  keys := by
    rw [Table.select_insert hkey, if_neg (by simpa using hown), List.append_nil]
  grants := rfl
  usage := rfl
  counters := rfl
  catalog := rfl
  shared := rfl
  drawn := by
    intro row hrow
    rw [(Table.insert_eq_some.1 hkey).2.2] at hrow
    rcases List.mem_append.1 hrow with hrow | hrow
    · exact .inl ⟨row, hrow, rfl, rfl⟩
    · rw [List.mem_singleton.1 hrow]
      exact .inr ⟨hid, hhash⟩

theorem insertKey_sameFor (h : SameFor u w₁ w₂) (hkey₁ : w₁.keys.insert key = some keys₁)
    (hkey₂ : w₂.keys.insert key = some keys₂)
    (hspent : w₁.counters.get (.key key.id) = w₂.counters.get (.key key.id)) :
    SameFor u { w₁ with keys := keys₁ } { w₂ with keys := keys₂ } where
  user := h.user
  keys := by rw [Table.select_insert hkey₁, Table.select_insert hkey₂, h.keys]
  usage := h.usage
  spent := h.spent
  keySpent := by
    intro row hrow
    rw [Table.select_insert hkey₁] at hrow
    rcases List.mem_append.1 hrow with hrow | hrow
    · exact h.keySpent row hrow
    · split at hrow
      · rw [List.mem_singleton.1 hrow]
        exact hspent
      · cases hrow
  granted := h.granted
  names := h.names

end

/-! ## One request in two backends -/

/-- What a handler does in two backends, with the draws `c.draws` in the one and `d` in the other:
it replies alike and writes within its user's rows, and with the same draws it replies the same and
the backends still agree. -/
structure Alike (P : Packages) (c : Context) (d : Draws) (w₁ w₂ : Backend)
    (o₁ o₂ : Reply × Backend) : Prop where
  masked : o₁.1.masked = o₂.1.masked
  left : Confined P c.identity.userId c.draws w₁ o₁.2
  right : Confined P c.identity.userId d w₂ o₂.2
  again : c.draws = d → w₁.counters.get (.key d.id) = w₂.counters.get (.key d.id) →
    o₁.1 = o₂.1 ∧ SameFor c.identity.userId o₁.2 o₂.2

theorem updateRow_found {R U : Type} {key : R → Uuid} {unique : R → U} {faults : Faults} {n : Nat}
    {t : Table key unique} {k : Uuid} {storable : Bool} {f : R → R}
    {hkey : ∀ row, key (f row) = key row} {hunique : ∀ row, unique (f row) = unique row} {row : R}
    (h : t.find k = some row) : updateRow faults n t k storable f hkey hunique =
      if faults.statement n ∨ faults.statement (n + 1) ∨ ¬ storable then .failed
      else .done (t.update k f hkey hunique) := by
  rw [updateRow, h]
  by_cases hn : faults.statement n = true
  · rw [if_pos hn, if_pos (.inl hn)]
  · rw [if_neg hn, if_neg (by simp)]
    simp only [hn, false_or, Bool.false_eq_true]

/-- A row with a new id and a new hash can be inserted. -/
theorem insert_fresh (w : Backend) (row : ApiKeyModel)
    (hid : row.id ∉ w.keys.rows.map fun key => key.id)
    (hhash : row.keyHash ∉ w.keys.rows.map fun key => key.keyHash) :
    ∃ keys, w.keys.insert row = some keys := ⟨_, dif_pos ⟨hid, hhash⟩⟩

section
variable {X : Externals} {c : Context} {d : Draws} {w w₁ w₂ : Backend}

theorem Alike.replied (h : SameFor c.identity.userId w₁ w₂) (reply : Reply) :
    Alike X.toPackages c d w₁ w₂ (reply, w₁) (reply, w₂) := ⟨rfl, .refl, .refl, fun _ _ => ⟨rfl, h⟩⟩

/-- A write within the user's rows, the refresh after it and a body that is the same. -/
theorem Alike.refreshed {v₁ v₂ : Backend}
    (left : Confined X.toPackages c.identity.userId c.draws w₁ v₁)
    (right : Confined X.toPackages c.identity.userId d w₂ v₂)
    (hv : SameFor c.identity.userId v₁ v₂) (n : Nat) (body : Body) :
    Alike X.toPackages c d w₁ w₂ (v₁.refreshAndRespond c.faults n body)
      (v₂.refreshAndRespond c.faults n body) where
  masked := by rw [refresh_fst, refresh_fst]
  left := left.refresh
  right := right.refresh
  again := fun _ _ => ⟨by rw [refresh_fst, refresh_fst], refresh_sameFor hv⟩

/-! ## Admin-only handlers -/

/-- The reply of every handler that begins with `require_admin`. -/
def adminRequired : Rejection := ⟨403, "admin role required"⟩

theorem adminOnly_user (hrole : c.identity.role = .user) {handler : Reply × Backend} :
    adminOnly w c handler = reject w adminRequired := by
  rw [adminOnly, requireAdmin, hrole, if_neg (by decide)]
  rfl

theorem writeCatalog_user (hrole : c.identity.role = .user) {request : CatalogRequest} :
    writeCatalog X w c request = reject w adminRequired := by
  rw [writeCatalog, AdminState.handle, requireAdmin, hrole, if_neg (by decide)]
  rfl

/-! ## Accounts and keys -/

section
variable (h : SameFor c.identity.userId w₁ w₂)
include h

theorem changeOwnPassword_alike (currentPassword newPassword : String) :
    Alike X.toPackages c d w₁ w₂ (changeOwnPassword X w₁ c currentPassword newPassword)
      (changeOwnPassword X w₂ { c with draws := d } currentPassword newPassword) := by
  unfold changeOwnPassword
  cases validatePassword newPassword with
  | error rejection => exact .replied h _
  | ok _ =>
    simp only [← h.user]
    by_cases hfault : c.faults.statement 0 = true
    · rw [if_pos hfault, if_pos hfault]
      exact .replied h _
    rw [if_neg hfault, if_neg hfault]
    cases hfind : w₁.users.find c.identity.userId with
    | none => exact .replied h _
    | some user =>
      simp only
      by_cases hverify : verifyPassword X.argon2 user.passwordHash currentPassword = true
      · simp only [hverify, not_true_eq_false, if_false, Context.hashed]
        cases c.faults.hashing with
        | true => exact .replied h _
        | false =>
          simp only [Bool.false_eq_true, if_false, Backend.setPasswordHash, updateRow_found hfind,
            updateRow_found (h.user ▸ hfind)]
          split_ifs
          · exact .replied h _
          · refine ⟨rfl, updateUser_confined, updateUser_confined, fun hd _ => ⟨rfl, ?_⟩⟩
            rw [hd]
            exact updateUser_sameFor h
      · rw [if_pos hverify, if_pos hverify]
        exact .replied h _

theorem createKey_alike (hfresh₁ : Fresh X.toPackages w₁ c.draws)
    (hfresh₂ : Fresh X.toPackages w₂ d) (body : CreateKeyRequest) :
    Alike X.toPackages c d w₁ w₂ (createKey X w₁ c body)
      (createKey X w₂ { c with draws := d } body) := by
  unfold createKey
  cases validateKey X.toPackages body with
  | error rejection => exact .replied h _
  | ok limits =>
    obtain ⟨allowedModels, spendCap⟩ := limits
    simp only
    cases storedAmount spendCap with
    | none => exact .replied h _
    | some spendCap =>
      simp only [Option.bind_some]
      let key (c : Context) := newKey c X.toPackages (Text.trim body.name) allowedModels spendCap
      by_cases hrefused : c.faults.statement 0 = true ∨
          (w₁.users.find c.identity.userId).isNone = true ∨ ¬ isText (Text.trim body.name) = true ∨
          ¬ (allowedModels.getD []).all isText = true
      · have h₁ : w₁.createKey (c.faults.statement 0) (key c) (allowedModels.getD []) = none :=
          if_pos hrefused
        have h₂ : w₂.createKey (c.faults.statement 0) (key { c with draws := d })
            (allowedModels.getD []) = none := if_pos (h.user ▸ hrefused)
        rw [h₁, h₂]
        exact .replied h _
      · obtain ⟨keys₁, hkeys₁⟩ := insert_fresh w₁ (key c) hfresh₁.id hfresh₁.hash
        obtain ⟨keys₂, hkeys₂⟩ :=
          insert_fresh w₂ (key { c with draws := d }) hfresh₂.id hfresh₂.hash
        have h₁ : w₁.createKey (c.faults.statement 0) (key c) (allowedModels.getD []) =
            some keys₁ := (if_neg hrefused).trans hkeys₁
        have h₂ : w₂.createKey (c.faults.statement 0) (key { c with draws := d })
            (allowedModels.getD []) = some keys₂ := (if_neg (h.user ▸ hrefused)).trans hkeys₂
        rw [h₁, h₂]
        refine ⟨?_, (insertKey_confined hkeys₁ rfl rfl rfl).refresh,
          (insertKey_confined hkeys₂ rfl rfl rfl).refresh, ?_⟩
        · simp only [Option.map_some, refresh_fst]
          split_ifs <;> rfl
        · rintro rfl hspent
          refine ⟨?_, refresh_sameFor (insertKey_sameFor h hkeys₁ hkeys₂ hspent)⟩
          simp only [Option.map_some, refresh_fst]

variable (hrole : c.identity.role = .user)
include hrole

theorem listKeys_alike :
    Alike X.toPackages c d w₁ w₂ (listKeys w₁ c) (listKeys w₂ { c with draws := d }) := by
  have hlist (w : Backend) : w.listKeys (some c.identity.userId) =
      (w.keys.select (ownKeyRow c.identity.userId)).insertionSort
        fun a b => a.createdAt ≤ b.createdAt := rfl
  unfold listKeys
  simp only [hrole, reduceCtorEq, if_false, false_and, hlist, ← h.keys]
  by_cases hfault : c.faults.statement 0 = true
  · rw [if_pos hfault, if_pos hfault]
    exact .replied h _
  rw [if_neg hfault, if_neg hfault]
  have hrows : ∀ key ∈ (w₁.keys.select (ownKeyRow c.identity.userId)).insertionSort
      (fun a b => a.createdAt ≤ b.createdAt),
      keyJson (keyRecord key) none (some (w₁.counters.get (.key key.id))) =
        keyJson (keyRecord key) none (some (w₂.counters.get (.key key.id))) := fun key hkey => by
    rw [h.keySpent key ((List.mem_insertionSort _).1 hkey)]
  rw [List.map_congr_left hrows]
  exact .replied h _

omit h in
/-- The owner check reads the user's own keys alone. -/
theorem ownKey_user (id : Uuid) : ownKey w c id =
    if c.faults.statement 0 then .error (.internal "failed to load key")
    else
      match (w.keys.select (ownKeyRow c.identity.userId)).find? (·.id = id) with
      | none => .error (.notFound "key not found")
      | some key => .ok key := by
  rw [← Table.find_filter, ownKey]
  cases w.keys.find id with
  | none => rfl
  | some key =>
    by_cases hown : key.userId = c.identity.userId
    · simp [hrole, hown, ownKeyRow, Option.filter_some]
    · simp [hrole, hown, ownKeyRow, Option.filter_some]

theorem ownKey_same (id : Uuid) : ownKey w₂ { c with draws := d } id = ownKey w₁ c id := by
  rw [ownKey_user hrole, ownKey_user (c := { c with draws := d }) hrole, h.keys]

omit h in
theorem ownKey_ok {id : Uuid} {key : ApiKeyModel} (hkey : ownKey w c id = .ok key) :
    w.keys.find id = some key ∧ key.userId = c.identity.userId := by
  rw [ownKey_user hrole, ← Table.find_filter] at hkey
  split_ifs at hkey
  cases hfind : (w.keys.find id).filter (ownKeyRow c.identity.userId) with
  | none =>
    rw [hfind] at hkey
    cases hkey
  | some key' =>
    rw [hfind] at hkey
    cases hkey
    obtain ⟨hfound, hown⟩ := Option.filter_eq_some_iff.1 hfind
    exact ⟨hfound, by simpa [ownKeyRow] using hown⟩

/-- A write to a key that the owner check lets pass. -/
theorem updateRow_alike {id : Uuid} {key : ApiKeyModel} (hkey : ownKey w₁ c id = .ok key)
    (storable : Bool) (f : ApiKeyModel → ApiKeyModel) (hid : ∀ key, (f key).id = key.id)
    (hhash : ∀ key, (f key).keyHash = key.keyHash) (howner : ∀ key, (f key).userId = key.userId)
    (failed : Rejection) :
    Alike X.toPackages c d w₁ w₂
      (match updateRow c.faults 1 w₁.keys id storable f hid hhash with
        | .done keys => { w₁ with keys := keys }.refreshAndRespond c.faults 3 .ok
        | .missing => reject w₁ (.notFound "key not found")
        | .failed => reject w₁ failed)
      (match updateRow c.faults 1 w₂.keys id storable f hid hhash with
        | .done keys => { w₂ with keys := keys }.refreshAndRespond c.faults 3 .ok
        | .missing => reject w₂ (.notFound "key not found")
        | .failed => reject w₂ failed) := by
  obtain ⟨hfind₁, hown₁⟩ := ownKey_ok hrole hkey
  obtain ⟨hfind₂, hown₂⟩ :=
    ownKey_ok (c := { c with draws := d }) hrole ((ownKey_same h hrole id).trans hkey)
  rw [updateRow_found hfind₁, updateRow_found hfind₂]
  split_ifs
  · exact .replied h _
  · exact .refreshed (updateKey_confined hfind₁ hown₁ howner)
      (updateKey_confined hfind₂ hown₂ howner) (updateKey_sameFor h howner) 3 .ok

theorem updateKey_alike (id : Uuid) (body : UpdateKeyRequest) :
    Alike X.toPackages c d w₁ w₂ (updateKey X w₁ c id body)
      (updateKey X w₂ { c with draws := d } id body) := by
  unfold updateKey
  rw [ownKey_same h hrole]
  cases hkey : ownKey w₁ c id with
  | error rejection => exact .replied h _
  | ok key =>
    cases validateLimits X.toPackages body with
    | error rejection => exact .replied h _
    | ok limits =>
      refine updateRow_alike h hrole hkey _ _ _ _ ?_ _
      intro key
      rfl

theorem revokeKey_alike (id : Uuid) :
    Alike X.toPackages c d w₁ w₂ (revokeKey w₁ c id) (revokeKey w₂ { c with draws := d } id) := by
  unfold revokeKey
  rw [ownKey_same h hrole]
  cases hkey : ownKey w₁ c id with
  | error rejection => exact .replied h _
  | ok key =>
    simp only
    split_ifs
    · exact .replied h _
    · refine updateRow_alike h hrole hkey _ _ _ _ ?_ _
      intro key
      rfl

end

/-! ## Usage -/

section
variable {u : Uuid} {table table₁ table₂ : List UsageModel}

/-- A filter by the user selects among the user's rows. -/
theorem run_scoped {filter : SqlFilter} (h : ∀ row, filter.selects row → ownUsage u row)
    (fault : Bool) : run filter fault table = run filter fault (table.filter (ownUsage u)) := by
  have : table.filter filter.selects = (table.filter (ownUsage u)).filter filter.selects := by
    rw [List.filter_filter]
    refine List.filter_congr fun row _ => ?_
    cases hrow : filter.selects row with
    | true => rw [h row hrow, Bool.and_self]
    | false => rfl
  rw [run, run, this]

/-- Two usage tables that agree on the user's rows: both are unreadable, or both are there. -/
theorem usage_cases {usage₁ usage₂ : Option (List UsageModel)}
    (h : usage₁.map (·.filter (ownUsage u)) = usage₂.map (·.filter (ownUsage u))) :
    (usage₁ = none ∧ usage₂ = none) ∨ ∃ table₁ table₂, usage₁ = some table₁ ∧
      usage₂ = some table₂ ∧ table₁.filter (ownUsage u) = table₂.filter (ownUsage u) := by
  cases usage₁ with
  | none =>
    rw [Option.map_none, eq_comm, Option.map_eq_none_iff] at h
    exact .inl ⟨rfl, h⟩
  | some table₁ =>
    rw [Option.map_some, eq_comm, Option.map_eq_some_iff] at h
    obtain ⟨table₂, rfl, htables⟩ := h
    exact .inr ⟨table₁, table₂, rfl, rfl, htables.symm⟩

/-- The clause on the user, whatever the other parameters. -/
theorem fromParams_scoped {since till : Option DateTime} {provider model : Option String}
    {status : Option StatusFilter} {apiKeyId : Option Uuid} (row : UsageModel)
    (h : (SqlFilter.fromParams since till provider model status (some u) apiKeyId).selects row) :
    ownUsage u row := by
  rw [SqlFilter.selects_fromParams] at h
  simp only [Bool.and_eq_true, Option.all_some] at h
  exact h.1.1.1.2

theorem list_scoped {params : UsageListParams} (hu : params.userId = some u) (faults : Nat → Bool) :
    list params faults table = list params faults (table.filter (ownUsage u)) := by
  rw [list, list, hu, run_scoped fromParams_scoped (faults 0),
    run_scoped fromParams_scoped (faults 1)]

theorem summary_scoped {dateTrunc : SummaryBucket → DateTime → DateTime}
    {params : UsageSummaryParams} (hu : params.userId = some u) (faults : Nat → Bool) :
    summary dateTrunc params faults table =
      summary dateTrunc params faults (table.filter (ownUsage u)) := by
  rw [summary, summary, hu, run_scoped fromParams_scoped (faults 0),
    run_scoped fromParams_scoped (faults 1), run_scoped fromParams_scoped (faults 2),
    run_scoped fromParams_scoped (faults 3)]

end

section
variable (hrole : c.identity.role = .user)
include hrole

theorem scopedUser_user (user : Option Uuid) : scopedUser c user = some c.identity.userId := by
  rw [scopedUser, hrole]

/-- The parameters do not depend on the requested user. -/
theorem listParams_user (query : ListQuery) (user : Option Uuid) :
    listParams X c { query with user := user } = listParams X c query := by
  simp only [listParams, scopedUser_user hrole]

theorem listParams_userId {query : ListQuery} {params : UsageListParams}
    (h : listParams X c query = .ok params) : params.userId = some c.identity.userId := by
  rw [listParams, Keyed.bind_ok] at h
  obtain ⟨since, -, h⟩ := h
  obtain ⟨till, -, h⟩ := Keyed.bind_ok.1 h
  obtain ⟨status, -, h⟩ := Keyed.bind_ok.1 h
  cases h
  exact scopedUser_user hrole _

theorem summaryParams_user (query : SummaryQuery) (user : Option Uuid) :
    summaryParams X c { query with user := user } = summaryParams X c query := by
  simp only [summaryParams, scopedUser_user hrole]

theorem summaryParams_userId {query : SummaryQuery} {params : UsageSummaryParams}
    (h : summaryParams X c query = .ok params) : params.userId = some c.identity.userId := by
  rw [summaryParams, Keyed.bind_ok] at h
  obtain ⟨since, -, h⟩ := h
  obtain ⟨till, -, h⟩ := Keyed.bind_ok.1 h
  obtain ⟨bucket, -, h⟩ := Keyed.bind_ok.1 h
  cases h
  exact scopedUser_user hrole _

variable (husage : w₁.usage.map (·.filter (ownUsage c.identity.userId)) =
  w₂.usage.map (·.filter (ownUsage c.identity.userId)))
include husage

/-- The reply to a list is decided by the user's own rows. -/
theorem listUsage_own (query : ListQuery) :
    (listUsage X w₁ c query).1 = (listUsage X w₂ c query).1 := by
  unfold listUsage
  cases hparams : listParams X c query with
  | error rejection => rfl
  | ok params =>
    have hu := listParams_userId hrole hparams
    obtain ⟨h₁, h₂⟩ | ⟨table₁, table₂, h₁, h₂, htables⟩ := usage_cases husage
    · simp only [h₁, h₂]
    · simp only [h₁, h₂]
      rw [list_scoped hu, htables, ← list_scoped hu]

/-- So is the reply to a summary. -/
theorem usageSummary_own (query : SummaryQuery) :
    (usageSummary X w₁ c query).1 = (usageSummary X w₂ c query).1 := by
  unfold usageSummary
  cases hparams : summaryParams X c query with
  | error rejection => rfl
  | ok params =>
    have hu := summaryParams_userId hrole hparams
    obtain ⟨h₁, h₂⟩ | ⟨table₁, table₂, h₁, h₂, htables⟩ := usage_cases husage
    · simp only [h₁, h₂]
    · simp only [h₁, h₂]
      rw [summary_scoped hu, htables, ← summary_scoped hu]

end

/-! ## Every request -/

section
variable (hrole : c.identity.role = .user)
include hrole

/-- What `require_admin` guards is answered alike and writes nothing. -/
theorem adminOnly_alike (h : SameFor c.identity.userId w₁ w₂)
    {handler₁ handler₂ : Reply × Backend} :
    Alike X.toPackages c d w₁ w₂ (adminOnly w₁ c handler₁)
      (adminOnly w₂ { c with draws := d } handler₂) := by
  rw [adminOnly_user hrole, adminOnly_user (c := { c with draws := d }) hrole]
  exact .replied h _

theorem handle_alike (h : SameFor c.identity.userId w₁ w₂)
    (hfresh₁ : Fresh X.toPackages w₁ c.draws) (hfresh₂ : Fresh X.toPackages w₂ d)
    (request : ApiRequest) : Alike X.toPackages c d w₁ w₂ (request.handle X w₁ c)
      (request.handle X w₂ { c with draws := d }) := by
  cases request with
  | listUsage query =>
    have hreply := listUsage_own (X := X) hrole h.usage query
    exact ⟨congrArg Reply.masked hreply, .refl, .refl, fun _ _ => ⟨hreply, h⟩⟩
  | usageSummary query =>
    have hreply := usageSummary_own (X := X) hrole h.usage query
    exact ⟨congrArg Reply.masked hreply, .refl, .refl, fun _ _ => ⟨hreply, h⟩⟩
  | me => exact .replied h _
  | changeOwnPassword currentPassword newPassword =>
    exact changeOwnPassword_alike h currentPassword newPassword
  | listUsers => exact adminOnly_alike hrole h
  | createUser username password role => exact adminOnly_alike hrole h
  | disableUser id => exact adminOnly_alike hrole h
  | enableUser id => exact adminOnly_alike hrole h
  | resetPassword id password => exact adminOnly_alike hrole h
  | listKeys => exact listKeys_alike h hrole
  | createKey body => exact createKey_alike h hfresh₁ hfresh₂ body
  | updateKey id body => exact updateKey_alike h hrole id body
  | revokeKey id => exact revokeKey_alike h hrole id
  | listProviders => exact adminOnly_alike hrole h
  | revealProviderKey id => exact adminOnly_alike hrole h
  | listPricing => exact adminOnly_alike hrole h
  | listModels => exact adminOnly_alike hrole h
  | listModelNames =>
    rw [ApiRequest.handle, ApiRequest.handle, listModelNames, listModelNames, h.names, reading,
      reading]
    split_ifs
    · exact .replied h _
    · exact .replied h _
  | writeCatalog request =>
    rw [ApiRequest.handle, ApiRequest.handle, writeCatalog_user hrole,
      writeCatalog_user (c := { c with draws := d }) hrole]
    exact .replied h _
  | listBalances => exact adminOnly_alike hrole h
  | createGrant body note => exact adminOnly_alike hrole h
  | listLedger userId limit => exact adminOnly_alike hrole h
  | myBalance =>
    rw [ApiRequest.handle, ApiRequest.handle, myBalance, myBalance, Backend.balanceParts,
      Backend.balanceParts, h.granted, h.spent]
    exact .replied h _
  | logout => exact .replied h _

/-- The requested user filter plays no part. -/
theorem listUsage_user (query : ListQuery) (user : Option Uuid) :
    listUsage X w c { query with user := user } = listUsage X w c query := by
  rw [listUsage, listUsage, listParams_user hrole]

theorem usageSummary_user (query : SummaryQuery) (user : Option Uuid) :
    usageSummary X w c { query with user := user } = usageSummary X w c query := by
  rw [usageSummary, usageSummary, summaryParams_user hrole]

/-- A key of someone else's is answered like one that does not exist. -/
theorem ownKey_foreign {id id' : Uuid} {key : ApiKeyModel} (hkey : w.keys.find id = some key)
    (hforeign : key.userId ≠ c.identity.userId) (hmissing : w.keys.find id' = none) :
    ∃ rejection, ownKey w c id = .error rejection ∧ ownKey w c id' = .error rejection := by
  rw [ownKey, ownKey, hkey, hmissing]
  by_cases hfault : c.faults.statement 0 = true
  · exact ⟨_, if_pos hfault, if_pos hfault⟩
  · rw [if_neg hfault, if_neg hfault]
    exact ⟨_, if_pos ⟨by rw [hrole]; decide, hforeign⟩, rfl⟩

end

/-- **Isolation.** In two backends that agree on what a user-role session may see, each request gets
the same reply up to fresh ids, key material and times, and leaves all that belongs to others as it
was. The usage handlers ignore the requested user and read the user's own rows alone; a foreign key
is answered like one that does not exist. -/
theorem user_sessions_isolated (X : Externals) (c : Context) (d : Draws) (w₁ w₂ : Backend)
    (hrole : c.identity.role = .user) (hsame : SameFor c.identity.userId w₁ w₂)
    (hfresh₁ : Fresh X.toPackages w₁ c.draws) (hfresh₂ : Fresh X.toPackages w₂ d) :
    (∀ request : ApiRequest,
      (request.handle X w₁ c).1.masked =
        (request.handle X w₂ { c with draws := d }).1.masked ∧
      Untouched c.identity.userId w₁ (request.handle X w₁ c).2 ∧
      Untouched c.identity.userId w₂ (request.handle X w₂ { c with draws := d }).2) ∧
    (∀ query user,
      ApiRequest.handle X w₁ c (.listUsage { query with user := user }) =
        ApiRequest.handle X w₁ c (.listUsage query)) ∧
    (∀ query user,
      ApiRequest.handle X w₁ c (.usageSummary { query with user := user }) =
        ApiRequest.handle X w₁ c (.usageSummary query)) ∧
    (∀ w : Backend, w.usage.map (·.filter (ownUsage c.identity.userId)) =
        w₁.usage.map (·.filter (ownUsage c.identity.userId)) →
      (∀ query, (ApiRequest.handle X w c (.listUsage query)).1 =
        (ApiRequest.handle X w₁ c (.listUsage query)).1) ∧
      ∀ query, (ApiRequest.handle X w c (.usageSummary query)).1 =
        (ApiRequest.handle X w₁ c (.usageSummary query)).1) ∧
    ∀ id id' key, w₁.keys.find id = some key → key.userId ≠ c.identity.userId →
      w₁.keys.find id' = none →
      (∀ body, ApiRequest.handle X w₁ c (.updateKey id body) =
        ApiRequest.handle X w₁ c (.updateKey id' body)) ∧
      ApiRequest.handle X w₁ c (.revokeKey id) = ApiRequest.handle X w₁ c (.revokeKey id') := by
  refine ⟨fun request => ?_, listUsage_user hrole, usageSummary_user hrole, fun w husage => ?_,
    fun id id' key hkey hforeign hmissing => ?_⟩
  · have h := handle_alike hrole hsame hfresh₁ hfresh₂ request
    exact ⟨h.masked, h.left.toUntouched, h.right.toUntouched⟩
  · exact ⟨listUsage_own hrole husage, usageSummary_own hrole husage⟩
  · obtain ⟨rejection, hid, hid'⟩ := ownKey_foreign hrole hkey hforeign hmissing
    refine ⟨fun body => ?_, ?_⟩
    · rw [ApiRequest.handle, ApiRequest.handle, updateKey, updateKey, hid, hid']
    · rw [ApiRequest.handle, ApiRequest.handle, revokeKey, revokeKey, hid, hid']

end

/-- A key of a user. -/
def keySample (id userId : Uuid) : ApiKeyModel where
  id := id
  userId := userId
  keyHash := s!"{id}"
  keyPrefix := "la-"
  name := "key"
  status := .active
  createdAt := id
  lastUsedAt := none
  allowedModels := none
  spendCapUsd := none

/-- A request of a user. -/
def usageSample (userId : Uuid) : UsageModel where
  requestId := "r"
  createdAt := 0
  providerId := "p"
  protocol := "openai"
  path := "/v1/chat/completions"
  userId := some userId
  apiKeyId := none
  requestedModel := some "m"
  upstreamModel := some "m"
  status := 200
  latencyMs := 1
  inputTokens := some 1
  outputTokens := some 1
  cachedInputTokens := none
  cacheReadTokens := none
  cacheWriteTokens := none
  totalTokens := some 2
  estimatedCost := some 1
  currency := some "USD"
  usageSource := "provider_response"

/-- Users 7 and 8 with these keys and usage rows. -/
def backendSample (keys : Keys) (usage : List UsageModel) : Backend where
  users :=
    { rows := [⟨⟨7, "ann", "pw", .user, .active⟩, 0⟩, ⟨⟨8, "bob", "pw", .user, .active⟩, 1⟩]
      keys := by decide
      uniques := by decide }
  keys := keys
  grants := []
  usage := some usage
  counters := ∅
  console :=
    { db := .empty fun _ _ => true
      shared := ⟨⟨∅, ∅, ∅, ∅, .fresh, 0, 0, ∅, ⟨∅, 1, 0, 0⟩⟩, ⟨[], [], []⟩⟩ }

def externalsSample : Externals where
  toPackages := default
  argon2 := fun _ _ => false
  parseRfc3339 := fun _ => .error "premature end of input"
  dateTrunc := fun _ t => t

/-- The session of user 7, whose draws are new. -/
def contextSample (id : Uuid) : Context where
  identity := ⟨7, "ann", .user⟩
  draws := ⟨id, "la-abcdefgh", "hash", 5⟩
  faults := ⟨fun _ => false, false⟩
  file := .error "no file"

/-- User 8 has a key and a usage row in the first backend only. -/
theorem user_sessions_isolated_sample :
    let w₁ := backendSample ⟨[keySample 1 7, keySample 2 8], by decide, by decide⟩
      [usageSample 7, usageSample 8]
    let w₂ := backendSample ⟨[keySample 1 7], by decide, by decide⟩ [usageSample 7]
    (∀ request : ApiRequest,
      (request.handle externalsSample w₁ (contextSample 3)).1.masked =
        (request.handle externalsSample w₂ (contextSample 4)).1.masked) ∧
    ApiRequest.handle externalsSample w₁ (contextSample 3) (.revokeKey 2) =
      ApiRequest.handle externalsSample w₁ (contextSample 3) (.revokeKey 9) := by
  intro w₁ w₂
  have h := user_sessions_isolated externalsSample (contextSample 3) (contextSample 4).draws w₁ w₂
    rfl ⟨rfl, rfl, rfl, rfl, fun _ _ => rfl, rfl, rfl⟩ ⟨by decide, by decide⟩
    ⟨by decide, by decide⟩
  exact ⟨fun request => (h.1 request).1, (h.2.2.2.2 2 9 (keySample 2 8) rfl (by decide) rfl).2⟩

end AdminApi

end LiteAgentify
