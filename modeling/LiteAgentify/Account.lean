import LiteAgentify.Base

/-!
# Accounts and API keys

`src/account/mod.rs`, `src/account/keys.rs` and the reading side of `src/account/store.rs`: the
users and keys tables, and the key map (`activeKeyMap`) that the snapshot authenticates with.
-/

set_option autoImplicit false

namespace LiteAgentify

inductive Role
  | admin
  | user
  deriving DecidableEq, Repr

inductive UserStatus
  | active
  | disabled
  deriving DecidableEq, Repr

inductive KeyStatus
  | active
  | revoked
  deriving DecidableEq, Repr

/-- The caller identity an API key resolves to. -/
structure KeyIdentity where
  userId : Uuid
  apiKeyId : Uuid
  allowedModels : Option (Finset String) := none
  spendCapUsd : Option ℚ := none
  deriving DecidableEq

/-- Whether this key is permitted to call `model`. -/
def KeyIdentity.mayCall (identity : KeyIdentity) (model : String) : Bool :=
  identity.allowedModels.all (model ∈ ·)

abbrev ApiKeyMap := HashMap Digest KeyIdentity

def hashApiKey (P : Packages) (key : String) : Digest := P.sha256 (Text.asBytes key)

/-! ## The account tables -/

/-- A row of `users`. -/
structure UserRow where
  id : Uuid
  role : Role
  status : UserStatus
  deriving DecidableEq

/-- A row of `api_keys`. -/
structure ApiKeyRow where
  id : Uuid
  userId : Uuid
  keyHash : String
  status : KeyStatus
  /-- The JSONB column. -/
  allowedModels : Option Json
  spendCapUsd : Option ℚ

/-- `char::to_digit(16)` of a byte. -/
def hexDigit (byte : UInt8) : Option Nat :=
  let n := byte.toNat
  if 48 ≤ n ∧ n ≤ 57 then some (n - 48)
  else if 97 ≤ n ∧ n ≤ 102 then some (n - 87)
  else if 65 ≤ n ∧ n ≤ 70 then some (n - 55)
  else none

/-- The bytes a string of hex digit pairs stands for. -/
def decodeHex : Bytes → Option Bytes
  | high :: low :: rest => do
    let high ← hexDigit high
    let low ← hexDigit low
    return UInt8.ofNat (high * 16 + low) :: (← decodeHex rest)
  | _ => some []

def decodeHex32 (value : String) : Option Digest := do
  guard (value.utf8ByteSize = 64)
  let bytes ← decodeHex (Text.asBytes value)
  if h : bytes.length = 32 then some ⟨bytes.toArray, by simpa using h⟩ else none

/-- The names in the JSONB column; anything but an array means unrestricted. -/
def parseAllowedModels : Json → Option (List String)
  | .array items => some (items.filterMap Json.asStr)
  | _ => none

/-- The JSONB column of an allowed-models list. -/
def allowedModelsToJson (allowedModels : Option (List String)) : Option Json :=
  allowedModels.map fun names => .array (names.map .string)

/-- The identity a key row stands for. -/
def ApiKeyRow.identity (key : ApiKeyRow) : KeyIdentity where
  userId := key.userId
  apiKeyId := key.id
  allowedModels := (key.allowedModels.bind parseAllowedModels).map List.toFinset
  spendCapUsd := key.spendCapUsd

/-- The key map of the keys and the users that `active_key_map` read; a key with a malformed hash
is skipped. -/
def keyMap (keys : List ApiKeyRow) (users : List UserRow) : ApiKeyMap :=
  keys.foldl (fun map key =>
    if key.userId ∈ users.map UserRow.id then
      match decodeHex32 key.keyHash with
      | some digest => map.insert digest key.identity
      | none => map
    else map) ∅

end LiteAgentify
