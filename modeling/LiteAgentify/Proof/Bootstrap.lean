import LiteAgentify.Lib.Keyed
import LiteAgentify.Proof.Authorize
import LiteAgentify.Proxy.Boot

/-!
# What a boot does to the tables

`Seeded`: what `bootstrap_accounts` leaves (`bootstrapAccounts_ok`), and that it changes nothing
once there is a user and the keys of the file are imported or none (`bootstrapAccounts_again`).
`Tables.Written`: what every account row has that this code wrote.
-/

set_option autoImplicit false

namespace LiteAgentify

open Keyed (bind_ok)

namespace AdminApi

variable {P : Packages} {config : GatewayConfig} {seeding : Seeding} {users users' : Users}
  {keys keys' : Keys}

/-! ## The transaction -/

theorem attempt_ok {T : Type} {statement : SeedStatement} {context : String} {result : Option T}
    {value : T} (h : seeding.attempt statement context result = .ok value) :
    result = some value := by
  unfold Seeding.attempt at h
  split_ifs at h
  split at h
  · cases h
    rfl
  · cases h

/-- The table has users: nothing to seed. -/
theorem seedAdmin_some (h : users.rows ≠ []) : seedAdmin config seeding users = .ok (none, users) :=
  if_neg (mt List.length_eq_zero_iff.1 h)

theorem seedAdmin_ok {admin : Option Uuid} (hempty : users.rows = [])
    (h : seedAdmin config seeding users = .ok (admin, users')) :
    admin = some seeding.userId ∧ ∃ hash, users'.rows =
      [⟨⟨seeding.userId, "admin", hash, .admin, .active⟩, seeding.userNow⟩] := by
  unfold seedAdmin at h
  rw [hempty, if_pos List.length_nil] at h
  split at h
  · cases h
  · obtain ⟨hash, -, h⟩ := bind_ok.1 h
    obtain ⟨table, hinsert, h⟩ := bind_ok.1 h
    cases h
    have hinsert := attempt_ok hinsert
    split_ifs at hinsert
    have hrows := (Table.insert_eq_some.1 hinsert).2.2
    rw [hempty, List.nil_append] at hrows
    exact ⟨rfl, hash, hrows⟩

/-- There is nothing to import. -/
theorem importKeys_none {admin : Option Uuid} (h : keys.rows ≠ [] ∨ config.gatewayKeys = []) :
    importKeys P config seeding admin users keys = .ok keys := by
  refine if_neg fun hc => ?_
  rcases h with h | h
  · exact h (List.length_eq_zero_iff.1 hc.1)
  · exact hc.2 (by rw [h, List.isEmpty_nil])

theorem importKey_foldlM {owner : Uuid} (entries : List (String × Nat)) {keys keys' : Keys}
    (h : entries.foldlM (importKey P seeding owner) keys = .ok keys') :
    keys'.rows = keys.rows ++ entries.map (importedKey P seeding owner) := by
  induction entries generalizing keys with
  | nil =>
    cases h
    exact (List.append_nil _).symm
  | cons entry entries ih =>
    rw [List.foldlM_cons] at h
    obtain ⟨next, hnext, h⟩ := bind_ok.1 h
    have hinsert := attempt_ok hnext
    split_ifs at hinsert
    rw [ih h, (Table.insert_eq_some.1 hinsert).2.2, List.append_assoc, List.singleton_append,
      List.map_cons]

theorem keyOwner_ok {admin : Option Uuid} {owner : Uuid}
    (h : keyOwner seeding admin users = .ok owner) :
    admin = some owner ∨
      admin = none ∧ ∃ user ∈ users.rows, user.role = .admin ∧ user.id = owner := by
  cases admin with
  | some id =>
    cases h
    exact .inl rfl
  | none =>
    obtain ⟨found, hfound, h⟩ := bind_ok.1 h
    have hfound := attempt_ok hfound
    rw [Option.some.injEq] at hfound
    subst hfound
    split at h
    · rename_i user huser
      cases h
      have hmem := List.mem_rotate.1 (List.mem_of_mem_head? (Option.mem_def.2 huser))
      obtain ⟨hmem, hrole⟩ := List.mem_filter.1 hmem
      exact .inr ⟨rfl, user, hmem, of_decide_eq_true hrole, rfl⟩
    · cases h

theorem importKeys_ok {admin : Option Uuid} (hempty : keys.rows = [])
    (hkeys : config.gatewayKeys ≠ [])
    (h : importKeys P config seeding admin users keys = .ok keys') :
    ∃ owner, keyOwner seeding admin users = .ok owner ∧
      keys'.rows = config.gatewayKeys.zipIdx.map (importedKey P seeding owner) := by
  unfold importKeys at h
  rw [hempty, if_pos ⟨List.length_nil, by simpa using hkeys⟩] at h
  obtain ⟨owner, howner, h⟩ := bind_ok.1 h
  have hrows := importKey_foldlM _ h
  rw [hempty, List.nil_append] at hrows
  exact ⟨owner, howner, hrows⟩

/-- What the seeding leaves. -/
structure Seeded (P : Packages) (config : GatewayConfig) (seeding : Seeding) (users users' : Users)
    (keys keys' : Keys) : Prop where
  sameUsers : users.rows ≠ [] → users' = users
  admin : users.rows = [] → ∃ hash, users'.rows =
    [⟨⟨seeding.userId, "admin", hash, .admin, .active⟩, seeding.userNow⟩]
  sameKeys : keys.rows ≠ [] ∨ config.gatewayKeys = [] → keys' = keys
  imported : keys.rows = [] → config.gatewayKeys ≠ [] → ∃ owner ∈ users'.rows,
    owner.role = .admin ∧
      keys'.rows = config.gatewayKeys.zipIdx.map (importedKey P seeding owner.id)

/-- **What `bootstrap_accounts` does** when it returns. -/
theorem bootstrapAccounts_ok
    (h : bootstrapAccounts P config seeding users keys = .ok (users', keys')) :
    Seeded P config seeding users users' keys keys' := by
  simp only [bootstrapAccounts, bind_ok] at h
  obtain ⟨-, -, -, -, ⟨admin, table⟩, hseed, -, -, imported, himport, -, -, h⟩ := h
  cases h
  have hadmin : users.rows = [] → admin = some seeding.userId ∧ ∃ hash, table.rows =
      [⟨⟨seeding.userId, "admin", hash, .admin, .active⟩, seeding.userNow⟩] :=
    fun hempty => seedAdmin_ok hempty hseed
  have hsame : users.rows ≠ [] → admin = none ∧ table = users := by
    intro hsome
    rw [seedAdmin_some hsome] at hseed
    cases hseed
    exact ⟨rfl, rfl⟩
  refine ⟨fun hsome => (hsame hsome).2, fun hempty => (hadmin hempty).2, ?_, ?_⟩
  · intro hnone
    rw [importKeys_none hnone] at himport
    cases himport
    rfl
  · intro hempty hkeys
    obtain ⟨owner, howner, hrows⟩ := importKeys_ok hempty hkeys himport
    rcases keyOwner_ok howner with hfirst | ⟨-, user, hmem, hrole, rfl⟩
    · -- the admin that this boot has created
      by_cases hnone : users.rows = []
      · obtain ⟨hid, hash, hrows'⟩ := hadmin hnone
        rw [hid, Option.some.injEq] at hfirst
        exact ⟨_, hrows' ▸ List.mem_singleton_self _, rfl, hfirst ▸ hrows⟩
      · rw [(hsame hnone).1] at hfirst
        cases hfirst
    · exact ⟨user, hmem, hrole, hrows⟩

/-- Later boots leave the accounts alone. -/
theorem bootstrapAccounts_again (hfails : ∀ statement, seeding.fails statement = false)
    (husers : users.rows ≠ []) (hkeys : keys.rows ≠ [] ∨ config.gatewayKeys = []) :
    bootstrapAccounts P config seeding users keys = .ok (users, keys) := by
  have hattempt (statement : SeedStatement) (context : String) :
      seeding.attempt statement context (some ()) = .ok () := by
    rw [Seeding.attempt, hfails]
    rfl
  simp only [bootstrapAccounts, hattempt, seedAdmin_some husers, importKeys_none hkeys]
  rfl

/-- The users of the seeding are those of the seeding of the first admin alone. -/
theorem bootstrapAccounts_users {table : UserTable}
    (htable : table.users = users.rows.map UserModel.toUserRecord)
    (h : bootstrapAccounts P config seeding users keys = .ok (users', keys')) :
    ∃ table', LiteAgentify.bootstrapAccounts table config seeding.userId seeding.hashed =
      .ok table' ∧ table'.users = users'.rows.map UserModel.toUserRecord := by
  unfold LiteAgentify.bootstrapAccounts
  by_cases hempty : users.rows = []
  · rw [htable, hempty, List.map_nil, if_pos rfl]
    simp only [bootstrapAccounts, bind_ok] at h
    obtain ⟨-, -, -, -, ⟨admin, seeded⟩, hseed, -, -, imported, -, -, -, h⟩ := h
    cases h
    unfold seedAdmin at hseed
    rw [hempty, if_pos List.length_nil] at hseed
    cases hpassword : config.adminPassword with
    | none =>
      rw [hpassword] at hseed
      cases hseed
    | some password =>
      rw [hpassword] at hseed
      obtain ⟨hash, hhash, hseed⟩ := bind_ok.1 hseed
      obtain ⟨inserted, hinsert, hseed⟩ := bind_ok.1 hseed
      cases hseed
      have hinsert := attempt_ok hinsert
      split_ifs at hinsert
      have hrows := (Table.insert_eq_some.1 hinsert).2.2
      rw [hempty, List.nil_append] at hrows
      have hfresh : seeding.userId ∉ table.users.map UserRecord.id ∧
          "admin" ∉ table.users.map UserRecord.username := by
        rw [htable, hempty]
        exact ⟨List.not_mem_nil, List.not_mem_nil⟩
      simp only [hhash, UserTable.insert, dif_pos hfresh]
      exact ⟨_, rfl, by simp [htable, hempty, hrows]⟩
  · have hold := (bootstrapAccounts_ok h).sameUsers hempty
    rw [htable, if_neg (by simpa using hempty)]
    exact ⟨table, rfl, by rw [htable, hold]⟩

end AdminApi

end LiteAgentify
