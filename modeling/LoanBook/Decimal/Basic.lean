import LoanBook.Rounding

/-!
# Bounded decimals

A `Decimal` is a sign, a mantissa below `2 ^ 96` and a scale of at most 28: the number
`± mantissa / 10 ^ scale`. The scale is part of the value, so `1.5` and `1.50` are different
decimals that denote the same number, and a zero may carry a sign. Numbers are compared through
`Decimal.units`, the exact count of units of `10 ^ -28`.
-/

namespace LoanBook

namespace Decimal

/-- Every mantissa lies below this bound. -/
def mantissaBound : Nat := 2 ^ 96

/-- The largest number of decimal places. -/
def maxScale : Nat := 28

end Decimal

/-- A signed decimal with a 96-bit mantissa and at most 28 decimal places. -/
structure Decimal where
  negative : Bool
  mantissa : Nat
  scale : Nat
  mantissa_lt : mantissa < Decimal.mantissaBound
  scale_le : scale ≤ Decimal.maxScale
deriving DecidableEq

namespace Decimal

/-- The decimal with the given parts, if they are in range. -/
def ofParts? (negative : Bool) (mantissa scale : Nat) : Option Decimal :=
  if inRange : mantissa < mantissaBound ∧ scale ≤ maxScale then
    some ⟨negative, mantissa, scale, inRange.1, inRange.2⟩
  else
    none

def signed (value : Decimal) : Int :=
  if value.negative then -(value.mantissa : Int) else value.mantissa

/-- The number denoted, counted in units of `10 ^ -28`. -/
def units (value : Decimal) : Int :=
  value.signed * 10 ^ (maxScale - value.scale)

instance : LE Decimal := ⟨fun left right => left.units ≤ right.units⟩

instance : LT Decimal := ⟨fun left right => left.units < right.units⟩

/-- Two decimals are equivalent when they denote the same number. -/
instance : HasEquiv Decimal := ⟨fun left right => left.units = right.units⟩

instance (left right : Decimal) : Decidable (left ≤ right) :=
  inferInstanceAs (Decidable (left.units ≤ right.units))

instance (left right : Decimal) : Decidable (left < right) :=
  inferInstanceAs (Decidable (left.units < right.units))

instance (left right : Decimal) : Decidable (left ≈ right) :=
  inferInstanceAs (Decidable (left.units = right.units))

/-- The positive zero of the given scale. -/
def zeroOfScale (scale : Nat) (scale_le : scale ≤ maxScale) : Decimal :=
  ⟨false, 0, scale, by decide, scale_le⟩

/-- Zero, without decimal places. -/
def zero : Decimal := zeroOfScale 0 (by decide)

/-- A 32-bit count as a whole number. -/
def ofUInt32 (count : UInt32) : Decimal :=
  ⟨false, count.toNat, 0,
    Nat.lt_trans count.toNat_lt (by decide), by decide⟩

def one : Decimal := ofUInt32 1

def hundred : Decimal := ofUInt32 100

/-- The number one half, written `0.5`. -/
def half : Decimal := ⟨false, 5, 1, by decide, by decide⟩

/-- Whether the denoted number is zero; the sign and the scale do not matter. -/
def isZero (value : Decimal) : Bool :=
  value.mantissa == 0

/-- Whether the denoted number is above zero. -/
def isPositive (value : Decimal) : Bool :=
  decide (zero < value)

/-- Whether the denoted number is below zero. -/
def isNegative (value : Decimal) : Bool :=
  decide (value < zero)

@[simp] theorem units_zeroOfScale (scale : Nat) (scale_le : scale ≤ maxScale) :
    (zeroOfScale scale scale_le).units = 0 := by
  simp [units, signed, zeroOfScale]

@[simp] theorem units_zero : zero.units = 0 :=
  units_zeroOfScale 0 (by decide)

theorem le_def {left right : Decimal} : left ≤ right ↔ left.units ≤ right.units := Iff.rfl

theorem lt_def {left right : Decimal} : left < right ↔ left.units < right.units := Iff.rfl

theorem equiv_def {left right : Decimal} : left ≈ right ↔ left.units = right.units := Iff.rfl

theorem ofParts?_eq_some {negative : Bool} {mantissa scale : Nat}
    (mantissa_lt : mantissa < mantissaBound) (scale_le : scale ≤ maxScale) :
    ofParts? negative mantissa scale = some ⟨negative, mantissa, scale, mantissa_lt, scale_le⟩ :=
  dif_pos ⟨mantissa_lt, scale_le⟩

end Decimal

end LoanBook
