import Mathlib.Algebra.Group.Int.Defs
import Mathlib.Algebra.Group.Nat.Defs
import Mathlib.Data.Int.Order.Basic

/-!
# Integers of a fixed width

The operators on `w`-bit integers as functions on `Nat` and `Int` that return nothing when the exact
result does not fit: an overflow is visible instead of wrapped away. A shift does not fit either
when its amount is not below the width or when it would lose a bit. The saturating product always
fits.
-/

set_option autoImplicit false

namespace Machine

variable {w a b n : Nat} {i : Int}

/-- Addition of unsigned integers. -/
def add (w a b : Nat) : Option Nat := if a + b < 2 ^ w then some (a + b) else none

/-- The shift `a << n`. -/
def shl (w a n : Nat) : Option Nat :=
  if n < w ∧ a * 2 ^ n < 2 ^ w then some (a * 2 ^ n) else none

def saturatingMul (w a b : Nat) : Nat := min (a * b) (2 ^ w - 1)

/-- An integer as an unsigned one. -/
def toUnsigned (w : Nat) (i : Int) : Option Nat :=
  if 0 ≤ i ∧ i < 2 ^ w then some i.toNat else none

/-- An integer as a signed one. -/
def toSigned (w : Nat) (i : Int) : Option Int :=
  if -2 ^ (w - 1) ≤ i ∧ i < 2 ^ (w - 1) then some i else none

theorem add_eq (h : a + b < 2 ^ w) : add w a b = some (a + b) := if_pos h

/-- One bit, shifted by less than the width. -/
theorem shl_one (h : n < w) : shl w 1 n = some (2 ^ n) := by
  have hlt : (2 : Nat) ^ n < 2 ^ w := Nat.pow_lt_pow_right (by decide) h
  rw [shl, Nat.one_mul, if_pos ⟨h, hlt⟩]

theorem toUnsigned_of_nonneg (h : 0 ≤ i) (hlt : i.toNat < 2 ^ w) :
    toUnsigned w i = some i.toNat := by
  have hcast : (i.toNat : Int) < 2 ^ w := by exact_mod_cast hlt
  exact if_pos ⟨h, (Int.toNat_of_nonneg h) ▸ hcast⟩

/-- A conversion of which only positive results are kept. -/
theorem toUnsigned_filter_pos (h : i < 2 ^ w) :
    (toUnsigned w i).filter (0 < ·) = if i > 0 then some i.toNat else none := by
  unfold toUnsigned
  by_cases hpos : i > 0
  · have hnat : 0 < i.toNat := by omega
    rw [if_pos ⟨by omega, h⟩, if_pos hpos, Option.filter_some, if_pos (decide_eq_true hnat)]
  · rw [if_neg hpos]
    split
    · have hzero : i.toNat = 0 := by omega
      rw [hzero]
      rfl
    · rfl

theorem toSigned_eq (hlow : -2 ^ (w - 1) ≤ i) (hhigh : i < 2 ^ (w - 1)) :
    toSigned w i = some i := if_pos ⟨hlow, hhigh⟩

end Machine
