import Mathlib.Data.Finmap
import Mathlib.Algebra.Order.Ring.Rat
import Mathlib.Data.Rat.Floor
import Mathlib.Data.List.Sort
import LiteAgentify.Lib.Text

/-!
# Values shared by the whole gateway

Identifiers, byte strings, `HashMap` (`Finmap`: a finite map, equal when its lookups are), the
`rust_decimal` numbers that prices are written in, `serde_json` values, header maps, and
`Packages`: the functions of third-party crates the gateway calls, as parameters of the model.
Amounts of money (costs, grants, caps, counters) are exact rationals.
-/

set_option autoImplicit false

namespace LiteAgentify

abbrev Uuid := Nat
abbrev Bytes := List UInt8

/-- `DateTime<Utc>` in milliseconds. -/
abbrev DateTime := Int

/-- `[u8; 32]`, a SHA-256 digest. -/
abbrev Digest := Vector UInt8 32

abbrev HashMap (K V : Type) := Finmap fun _ : K => V

/-- `HashMap::contains_key`. -/
def HashMap.containsKey {K V : Type} [DecidableEq K] (m : HashMap K V) (k : K) : Bool :=
  (m.lookup k).isSome

theorem HashMap.containsKey_iff {K V : Type} [DecidableEq K] (m : HashMap K V) (k : K) :
    m.containsKey k = true ↔ k ∈ m := Finmap.lookup_isSome

/-! ## Decimals -/

/-- `rust_decimal::Decimal`: a sign bit, a 96-bit mantissa and a decimal scale of at most 28. -/
structure Decimal where
  negative : Bool
  mantissa : Nat
  scale : Nat
  mantissa_lt : mantissa < 2 ^ 96
  scale_le : scale ≤ 28
  deriving DecidableEq

namespace Decimal

/-- `Decimal::new` of a nonnegative mantissa. -/
def ofNat (mantissa : Nat) (scale : Nat) (hm : mantissa < 2 ^ 96 := by decide)
    (hs : scale ≤ 28 := by decide) : Decimal := ⟨false, mantissa, scale, hm, hs⟩

theorem byte_lt (n : UInt8) : n.toNat < 2 ^ 96 := n.toNat_lt.trans (by decide)

theorem zero_scale_le : 0 ≤ 28 := Nat.zero_le 28

/-- `Decimal::from` of a byte. -/
def ofUInt8 (n : UInt8) : Decimal := ⟨false, n.toNat, 0, byte_lt n, zero_scale_le⟩

def isSignNegative (d : Decimal) : Bool := d.negative

/-- What a `numeric(20, 10)` column stores: ten decimal places, rounded half away from zero, and an
overflow error from `10 ^ 10` on. A stored zero has no sign. -/
def toNumeric (d : Decimal) : Option Decimal :=
  let mantissa :=
    if d.scale ≤ 10 then d.mantissa * 10 ^ (10 - d.scale)
    else (d.mantissa + 10 ^ (d.scale - 10) / 2) / 10 ^ (d.scale - 10)
  if h : mantissa < 10 ^ 20 then
    some ⟨d.negative && mantissa ≠ 0, mantissa, 10, h.trans (by decide), by decide⟩
  else none

/-- The number a decimal stands for. -/
def toRat (d : Decimal) : ℚ :=
  if d.negative then -(d.mantissa / 10 ^ d.scale : ℚ) else d.mantissa / 10 ^ d.scale

end Decimal

/-! ## JSON -/

inductive JsonNumber
  | posInt (n : Nat)
  | negInt (n : Int)
  | float (text : String)
  deriving DecidableEq

/-- `serde_json::Value`; an object's members are listed once each, by key. -/
inductive Json
  | null
  | bool (b : Bool)
  | number (n : JsonNumber)
  | string (s : String)
  | array (items : List Json)
  | object (members : List (String × Json))

namespace Json

/-- `Value::get` with a string index: a member of an object. -/
def get (key : String) : Json → Option Json
  | object members => members.lookup key
  | _ => none

def asStr : Json → Option String
  | string s => some s
  | _ => none

/-- `Value::as_i64`: integers in the range of `i64`. -/
def asI64 : Json → Option Int
  | number (.posInt n) => if n < 2 ^ 63 then some n else none
  | number (.negInt n) => some n
  | _ => none

/-- `Map::insert` on an object: replaces the member or adds it at its place in key order; any other
value is left alone (`as_object_mut` is `None`). -/
def insert (json : Json) (key : String) (value : Json) : Json :=
  match json with
  | object members =>
    if (members.lookup key).isSome then
      object (members.map fun m => if m.1 = key then (key, value) else m)
    else object (members.takeWhile (·.1 < key) ++ (key, value) :: members.dropWhile (·.1 < key))
  | v => v

end Json

/-! ## Headers -/

/-- A header map: names (lower case) with their values, in order; a name may occur repeatedly. -/
abbrev HeaderMap := List (String × Bytes)

namespace HeaderMap

/-- `HeaderMap::get`: the first value of a name. -/
def get (headers : HeaderMap) (name : String) : Option Bytes := headers.lookup name

/-- `HeaderMap::insert`: the new value replaces every earlier one of the name. -/
def insert (headers : HeaderMap) (name : String) (value : Bytes) : HeaderMap :=
  if headers.any (·.1 = name) then
    (headers.takeWhile (·.1 ≠ name)) ++ (name, value) ::
      ((headers.dropWhile (·.1 ≠ name)).tail.filter (·.1 ≠ name))
  else headers ++ [(name, value)]

end HeaderMap

/-! ## Third-party functions -/

/-- `http::Uri`. -/
structure Uri where
  text : String
  scheme : Option String
  authority : Option String
  deriving DecidableEq

/-- The functions of other crates that the modelled code calls. -/
structure Packages where
  /-- `http::Uri::from_str` -/
  uriFromStr : String → Option Uri
  /-- `HeaderValue::from_str` -/
  headerFromStr : String → Option Bytes
  /-- `HeaderValue::to_str` -/
  headerToStr : Bytes → Option String
  /-- `serde_json::from_slice` -/
  jsonFromSlice : Bytes → Option Json
  /-- `serde_json::from_str` -/
  jsonFromStr : String → Option Json
  /-- `serde_json::to_vec` -/
  jsonToVec : Json → Bytes
  /-- `Sha256::digest` -/
  sha256 : Bytes → Digest
  /-- `Decimal::from_str` -/
  decimalFromStr : String → Option Decimal
  /-- `DateTime::parse_from_rfc2822` -/
  parseRfc2822 : String → Option DateTime
  deriving Inhabited

end LiteAgentify
