import LiteAgentify.Admin.Routes
import LiteAgentify.Proof.Failover
import LiteAgentify.Proof.Refresh

/-!
# Who authenticates

`authorize` looks up the digest of each presented credential in the key map, whose digests were read
back from the hex text of the `key_hash` column. The hex text of a digest decodes to that digest
(`decodeHex32_hash`), so a lookup succeeds for exactly the plaintexts of the active keys of active
users (`keyMap_lookup_iff`), and the caller is the first of those that the headers present
(`authorize_iff`).
-/

set_option autoImplicit false

namespace LiteAgentify

open AdminApi (hexByte hashApiKeyHex)

/-! ## The hex text of a digest -/

theorem asBytes_ofList (chars : List Char) :
    Text.asBytes (String.ofList chars) = chars.flatMap String.utf8EncodeChar := by
  simp [Text.asBytes, List.utf8Encode]

theorem utf8_digitChar : ∀ n < 16, String.utf8EncodeChar (Nat.digitChar n) =
    [UInt8.ofNat (Nat.digitChar n).toNat] := by decide

theorem hexDigit_digitChar : ∀ n < 16,
    hexDigit (UInt8.ofNat (Nat.digitChar n).toNat) = some n := by decide

theorem asBytes_hexByte (byte : UInt8) : (hexByte byte).flatMap String.utf8EncodeChar =
    [UInt8.ofNat (Nat.digitChar (byte.toNat / 16)).toNat,
      UInt8.ofNat (Nat.digitChar (byte.toNat % 16)).toNat] := by
  have hb := byte.toNat_lt
  simp only [hexByte, List.flatMap_cons, List.flatMap_nil,
    utf8_digitChar (byte.toNat / 16) (by omega), utf8_digitChar (byte.toNat % 16) (by omega)]
  rfl

/-- Decoding inverts the hex text of a byte string. -/
theorem decodeHex_hex (bytes : Bytes) :
    decodeHex (Text.asBytes (String.ofList (bytes.flatMap hexByte))) = some bytes := by
  rw [asBytes_ofList, List.flatMap_assoc]
  induction bytes with
  | nil => rfl
  | cons byte bytes ih =>
    have hb := byte.toNat_lt
    rw [List.flatMap_cons, asBytes_hexByte, List.cons_append, List.cons_append, List.nil_append,
      decodeHex, hexDigit_digitChar _ (by omega), hexDigit_digitChar _ (by omega), ih]
    show some (UInt8.ofNat (byte.toNat / 16 * 16 + byte.toNat % 16) :: bytes) = _
    rw [Nat.div_add_mod' byte.toNat 16, UInt8.ofNat_toNat]

theorem utf8ByteSize_hex (bytes : Bytes) :
    (String.ofList (bytes.flatMap hexByte)).utf8ByteSize = 2 * bytes.length := by
  show (Text.asBytes (String.ofList (bytes.flatMap hexByte))).length = _
  rw [asBytes_ofList, List.flatMap_assoc]
  induction bytes with
  | nil => rfl
  | cons byte bytes ih =>
    have hlength : (byte :: bytes).length = bytes.length + 1 := List.length_cons
    rw [List.flatMap_cons, List.length_append, ih, asBytes_hexByte, hlength]
    show 2 + _ = _
    omega

/-- What `create_key` stores is read back as the digest that callers are looked up by. -/
theorem decodeHex32_hash (P : Packages) (key : String) :
    decodeHex32 (hashApiKeyHex P key) = some (hashApiKey P key) := by
  have hsize : (hashApiKeyHex P key).utf8ByteSize = 64 := by
    rw [hashApiKeyHex, utf8ByteSize_hex, Vector.length_toList]
  unfold decodeHex32
  rw [hsize]
  unfold hashApiKeyHex
  simp [decodeHex_hex, Vector.toList]

/-! ## The key map -/

/-- Where the hashes of the keys decode to distinct digests, the key map has the keys of its
users, each under its digest. -/
theorem keyMap_lookup_iff {keys : List ApiKeyRow} {users : List UserRow}
    {digestOf : ApiKeyRow → Digest}
    (hdec : ∀ key ∈ keys, decodeHex32 key.keyHash = some (digestOf key))
    (hdis : (keys.map digestOf).Nodup) {digest : Digest} {identity : KeyIdentity} :
    (keyMap keys users).lookup digest = some identity ↔
      ∃ key ∈ keys, key.userId ∈ users.map UserRow.id ∧ digestOf key = digest ∧
        key.identity = identity := by
  induction keys using List.reverseRecOn with
  | nil => simp [keyMap]
  | append_singleton keys key ih =>
    have hkey := hdec key (by simp)
    simp only [List.map_append, List.map_cons, List.map_nil, List.nodup_append,
      List.mem_singleton, List.mem_map, forall_eq, forall_exists_index, and_imp,
      forall_apply_eq_imp_iff₂] at hdis
    obtain ⟨hold, -, hnew⟩ := hdis
    have ih := ih (fun k hk => hdec k (by simp [hk])) hold
    rw [keyMap_append, hkey]
    simp only [List.mem_append, List.mem_singleton, or_and_right, exists_or, exists_eq_left]
    by_cases hu : key.userId ∈ users.map UserRow.id
    · simp only [hu, if_true, true_and]
      by_cases hd : digest = digestOf key
      · subst hd
        rw [Finmap.lookup_insert, Option.some.injEq]
        constructor
        · exact fun h => .inr ⟨rfl, h⟩
        · rintro (⟨k, hk, -, h, -⟩ | ⟨-, h⟩)
          · exact absurd h (hnew k hk)
          · exact h
      · rw [Finmap.lookup_insert_of_ne _ hd, ih]
        simp [Ne.symm hd]
    · simp only [hu, if_false, false_and, or_false]
      exact ih

/-! ## Callers -/

/-- `credential` is the plaintext of `key`, which is active and whose owner is active. -/
structure Database.Authentic (db : Database) (plain : ApiKeyRow → String) (credential : String)
    (key : ApiKeyRow) : Prop where
  stored : key ∈ db.keys
  active : key.status = .active
  owner : ∃ user ∈ db.users, user.id = key.userId ∧ user.status = .active
  plaintext : plain key = credential

/-- A lookup in the key map of the database, for hashes without collisions. -/
theorem activeKeyMap_lookup_iff {P : Packages} {db : Database} {plain : ApiKeyRow → String}
    (hashes : (db.keys.map ApiKeyRow.keyHash).Nodup)
    (hashed : ∀ key ∈ db.keys, key.keyHash = hashApiKeyHex P (plain key)) {credential : String}
    (hinj : ∀ key ∈ db.keys, hashApiKey P (plain key) = hashApiKey P credential →
      plain key = credential) {identity : KeyIdentity} :
    (activeKeyMap db).lookup (hashApiKey P credential) = some identity ↔
      ∃ key, db.Authentic plain credential key ∧ identity = key.identity := by
  have hsub : ∀ key ∈ db.activeKeys, key ∈ db.keys := fun key hk => (List.mem_filter.1 hk).1
  have hdec : ∀ key ∈ db.activeKeys,
      decodeHex32 key.keyHash = some (hashApiKey P (plain key)) := by
    intro key hk
    rw [hashed key (hsub key hk), decodeHex32_hash]
  -- the hash text is a function of the digest, so distinct texts have distinct digests
  have hdis : (db.activeKeys.map fun key => hashApiKey P (plain key)).Nodup := by
    have hact : (db.activeKeys.map ApiKeyRow.keyHash).Nodup :=
      hashes.sublist (List.filter_sublist.map _)
    refine List.Nodup.of_map (fun digest => String.ofList (digest.toList.flatMap hexByte)) ?_
    rw [List.map_map]
    rwa [List.map_congr_left fun key hk => hashed key (hsub key hk)] at hact
  rw [activeKeyMap, keyMap_lookup_iff hdec hdis]
  constructor
  · rintro ⟨key, hk, hu, hd, rfl⟩
    obtain ⟨user, hum, hid⟩ := List.mem_map.1 hu
    obtain ⟨hum, hact⟩ := List.mem_filter.1 hum
    exact ⟨key, ⟨hsub key hk, by simpa using (List.mem_filter.1 hk).2,
      ⟨user, hum, hid, by simpa using hact⟩, hinj key (hsub key hk) hd⟩, rfl⟩
  · rintro ⟨key, ⟨hk, hact, ⟨user, hum, hid, hu⟩, rfl⟩, rfl⟩
    exact ⟨key, List.mem_filter.2 ⟨hk, by simpa using hact⟩,
      List.mem_map.2 ⟨user, List.mem_filter.2 ⟨hum, by simpa using hu⟩, hid⟩, rfl, rfl⟩

/-- **Who authenticates.** Where SHA-256 does not collide on the keys and credentials involved, a
request authenticates exactly when a credential it presents is the plaintext of an active key of an
active user. The caller is that of the first such credential. -/
theorem authorize_iff {P : Packages} {db : Database} {state : GatewayState} {headers : HeaderMap}
    {plain : ApiKeyRow → String} (hs : state.apiKeys = activeKeyMap db)
    (hashes : (db.keys.map ApiKeyRow.keyHash).Nodup)
    (hashed : ∀ key ∈ db.keys, key.keyHash = hashApiKeyHex P (plain key))
    (injective : Set.InjOn (hashApiKey P) {text | text ∈ gatewayKeyCandidates P headers ∨
      ∃ key ∈ db.keys, text = plain key}) :
    ((state.authorize P headers).isSome ↔
      ∃ credential ∈ gatewayKeyCandidates P headers, ∃ key, db.Authentic plain credential key) ∧
      ∀ identity, state.authorize P headers = some identity ↔
        ∃ earlier credential later key,
          gatewayKeyCandidates P headers = earlier ++ credential :: later ∧
          (∀ other ∈ earlier, ¬ ∃ key, db.Authentic plain other key) ∧
          db.Authentic plain credential key ∧
          identity = {
            userId := key.userId
            apiKeyId := key.id
            allowedModels := (key.allowedModels.bind parseAllowedModels).map List.toFinset
            spendCapUsd := key.spendCapUsd } := by
  have hlookup : ∀ credential ∈ gatewayKeyCandidates P headers, ∀ identity,
      state.apiKeys.lookup (hashApiKey P credential) = some identity ↔
        ∃ key, db.Authentic plain credential key ∧ identity = key.identity := by
    intro credential hc identity
    rw [hs, activeKeyMap_lookup_iff hashes hashed]
    exact fun key hk h => injective (.inr ⟨key, hk, rfl⟩) (.inl hc) h
  have hmiss : ∀ credential ∈ gatewayKeyCandidates P headers,
      state.apiKeys.lookup (hashApiKey P credential) = none ↔
        ¬ ∃ key, db.Authentic plain credential key := by
    intro credential hc
    rw [Option.eq_none_iff_forall_ne_some]
    simp only [ne_eq, hlookup credential hc]
    exact ⟨fun h ⟨key, hk⟩ => h _ ⟨key, hk, rfl⟩, fun h _ ⟨key, hk, _⟩ => h ⟨key, hk⟩⟩
  constructor
  · unfold GatewayState.authorize
    rw [List.findSome?_isSome_iff]
    refine exists_congr fun credential => and_congr_right fun hc => ?_
    rw [Option.isSome_iff_ne_none, ne_eq, hmiss credential hc, not_not]
  · intro identity
    unfold GatewayState.authorize
    rw [List.findSome?_eq_some_iff]
    constructor
    · rintro ⟨earlier, credential, later, hsplit, hfound, hearlier⟩
      have hmem : ∀ other ∈ earlier, other ∈ gatewayKeyCandidates P headers :=
        fun other ho => by simp [hsplit, ho]
      obtain ⟨key, hk, rfl⟩ := (hlookup credential (by simp [hsplit]) identity).1 hfound
      exact ⟨earlier, credential, later, key, hsplit,
        fun other ho => (hmiss other (hmem other ho)).1 (hearlier other ho), hk, rfl⟩
    · rintro ⟨earlier, credential, later, key, hsplit, hearlier, hk, rfl⟩
      have hmem : ∀ other ∈ earlier, other ∈ gatewayKeyCandidates P headers :=
        fun other ho => by simp [hsplit, ho]
      exact ⟨earlier, credential, later, hsplit,
        (hlookup credential (by simp [hsplit]) _).2 ⟨key, hk, rfl⟩,
        fun other ho => (hmiss other (hmem other ho)).2 (hearlier other ho)⟩

/-- SHA-256 on the three texts below. -/
def threeDigests : Packages where
  headerToStr := Text.fromUtf8
  sha256 bytes :=
    if bytes = Text.asBytes "k" then digestOfK
    else if bytes = Text.asBytes "r" then
      #v[69, 67, 73, 228, 34, 240, 82, 151, 25, 30, 173, 19, 226, 29, 61, 181, 32, 229, 171, 239,
        82, 5, 94, 73, 100, 184, 47, 178, 19, 245, 147, 161]
    else
      #v[57, 114, 35, 207, 130, 187, 103, 197, 189, 20, 195, 34, 130, 151, 159, 194, 19, 0, 228, 44,
        187, 135, 122, 117, 123, 148, 34, 107, 34, 94, 51, 232]
  uriFromStr _ := none
  headerFromStr _ := none
  jsonFromSlice _ := none
  jsonFromStr _ := none
  jsonToVec _ := []
  decimalFromStr _ := none
  parseRfc2822 _ := none

def revokedRow : ApiKeyRow :=
  ⟨10, 1, hashApiKeyHex threeDigests "r", .revoked, none, none⟩

def activeRow : ApiKeyRow :=
  ⟨11, 1, hashApiKeyHex threeDigests "k", .active, some (.array [.string "m"]), some 5⟩

theorem userOne_alone : ([⟨1, .user, .active⟩].map UserRow.id).Nodup := List.nodup_singleton 1

/-- User 1 with the revoked key `r` and the active key `k`. -/
def revokedAndActive : Database where
  users := [⟨1, .user, .active⟩]
  keys := [revokedRow, activeRow]
  grants := []
  userIds := userOne_alone
  keyIds := by decide

def plaintexts (key : ApiKeyRow) : String := if key.id = 10 then "r" else "k"

def bearerAndApiKey : HeaderMap :=
  [("authorization", Text.asBytes "Bearer r"), ("x-api-key", Text.asBytes "k")]

def keysOnly (apiKeys : ApiKeyMap) : GatewayState where
  apiKeys := apiKeys
  providers := ∅
  models := ∅
  granted := ∅
  spendCounter := .fresh
  upstream := 0
  usageRecorder := 0
  pricing := ∅
  retryPolicy := { retryableStatuses := ∅, maxAttempts := 1, baseDelayMs := 0, maxDelayMs := 0 }

theorem candidates_bearerAndApiKey :
    gatewayKeyCandidates threeDigests bearerAndApiKey = ["r", "Bearer r", "k"] := by
  have hstr : ∀ text, threeDigests.headerToStr (Text.asBytes text) = some text :=
    Text.fromUtf8_asBytes
  simp [gatewayKeyCandidates, bearerAndApiKey, HeaderMap.get, hstr]
  decide

/-- The revoked key is passed over. -/
theorem active_key_after_revoked_key :
    (keysOnly (activeKeyMap revokedAndActive)).authorize threeDigests bearerAndApiKey =
      some ⟨1, 11, some {"m"}, some 5⟩ := by
  have hactive : revokedAndActive.Authentic plaintexts "k" activeRow :=
    ⟨.tail _ (.head _), rfl, ⟨_, .head _, rfl, rfl⟩, rfl⟩
  have hrevoked : ∀ text ∈ ["r", "Bearer r"],
      ¬ ∃ key, revokedAndActive.Authentic plaintexts text key := by
    rintro text ht ⟨key, ⟨hk, hactive, -, rfl⟩⟩
    obtain rfl | rfl : key = revokedRow ∨ key = activeRow := by
      simpa [revokedAndActive] using hk
    · cases hactive
    · revert ht
      decide
  have hdistinct : Set.InjOn (hashApiKey threeDigests) {"r", "Bearer r", "k"} := by
    simp only [Set.InjOn, Set.mem_insert_iff, Set.mem_singleton_iff, forall_eq_or_imp, forall_eq]
    decide
  refine ((authorize_iff rfl ?_ ?_ ?_).2 _).2
    ⟨["r", "Bearer r"], "k", [], _, candidates_bearerAndApiKey, hrevoked, hactive, rfl⟩
  · decide
  · simp [revokedAndActive, plaintexts, revokedRow, activeRow]
  · refine hdistinct.mono ?_
    rintro text (ht | ⟨key, hk, rfl⟩)
    · simpa [candidates_bearerAndApiKey] using ht
    · revert key
      decide

end LiteAgentify
