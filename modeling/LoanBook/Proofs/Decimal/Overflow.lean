import LoanBook.Proofs.Decimal.Products

/-!
# Numbers that outgrow a decimal

A number has no decimal when, as a whole number, it is rounded to `2 ^ 96` or more.  That is an
even number, so it is reached from half a unit below it on.
-/

namespace LoanBook.Decimal

open Rounding

variable {negative : Bool} {mantissa scale : Nat}

theorem halfEven_lt_mantissaBound_iff {denominator : Nat} (positive : 0 < denominator) :
    halfEven mantissa denominator < mantissaBound ↔
      2 * mantissa + denominator < 2 * (mantissaBound * denominator) := by
  rw [← not_iff_not, Nat.not_lt, Nat.not_lt]
  constructor
  · intro outgrows
    have near := @two_mul_halfEven_mul_le mantissa _ positive
    have scaled := Nat.mul_le_mul_right denominator outgrows
    omega
  · exact le_halfEven_of_even positive (by decide)

/-- What is fitted with some places is fitted without any. -/
theorem halfEven_lt_of_fit? {value : Decimal} (found : fit? negative mantissa scale = some value) :
    halfEven mantissa (10 ^ scale) < mantissaBound := by
  have isFit := isFit_of_fit? found
  have fits := value.mantissa_lt
  rw [isFit.mantissa_eq] at fits
  have scaleLe : value.scale ≤ scale := Nat.le_trans isFit.scale_le_min (Nat.min_le_left _ _)
  have positive (exponent : Nat) : 0 < 10 ^ exponent := Nat.pow_pos (by decide)
  rw [halfEven_lt_mantissaBound_iff (positive _)] at fits ⊢
  have unitLe : 10 ^ (scale - value.scale) ≤ 10 ^ scale :=
    Nat.pow_le_pow_right (by decide) (Nat.sub_le _ _)
  -- in the larger unit half of it is more, but the bound is more still
  simp only [mantissaBound] at fits ⊢
  omega

theorem fit?_eq_none_iff :
    fit? negative mantissa scale = none ↔
      2 * (mantissaBound * 10 ^ scale) ≤ 2 * mantissa + 10 ^ scale := by
  have positive : 0 < 10 ^ scale := Nat.pow_pos (by decide)
  rw [← Nat.not_lt, ← halfEven_lt_mantissaBound_iff positive]
  constructor
  · intro none fits
    obtain ⟨value, found, _⟩ := @exists_fit? negative mantissa scale 0 (Nat.zero_le _) fits
    rw [none] at found
    cases found
  · intro outgrows
    rw [Option.eq_none_iff_forall_ne_some]
    intro value found
    exact outgrows (halfEven_lt_of_fit? found)

private theorem mul?_eq_none_iff_mantissa {left right : Decimal} :
    left.mul? right = none ↔
      2 * (mantissaBound * 10 ^ (left.scale + right.scale)) ≤
        2 * (left.mantissa * right.mantissa) + 10 ^ (left.scale + right.scale) := by
  by_cases zeroFactor : left.isZero = true ∨ right.isZero = true
  · have none : left.mantissa * right.mantissa = 0 := by
      rcases zeroFactor with leftZero | rightZero
      · rw [beq_iff_eq.mp leftZero, Nat.zero_mul]
      · rw [beq_iff_eq.mp rightZero, Nat.mul_zero]
    have positive : 0 < 10 ^ (left.scale + right.scale) := Nat.pow_pos (by decide)
    rw [mul?_of_isZero zeroFactor, none]
    simp only [reduceCtorEq, false_iff, mantissaBound]
    omega
  · simp only [not_or, Bool.not_eq_true] at zeroFactor
    obtain ⟨leftNonzero, rightNonzero⟩ := zeroFactor
    rw [← Option.map_eq_none_iff, mul?_map_units leftNonzero rightNonzero, Option.map_eq_none_iff,
      fit?_eq_none_iff]

/-- A product overflows when it is no less than half a unit below `2 ^ 96`. -/
theorem mul?_eq_none_iff {left right : Decimal} :
    left.mul? right = none ↔
      2 * (mantissaBound * 10 ^ (maxScale + maxScale)) ≤
        2 * (left.magnitude * right.magnitude) + 10 ^ (maxScale + maxScale) := by
  have leftLe := left.scale_le
  have rightLe := right.scale_le
  have scaled : 10 ^ (maxScale + maxScale) = 10 ^ (left.scale + right.scale) *
      10 ^ (maxScale + maxScale - (left.scale + right.scale)) :=
    (pow_mul_pow_sub 10 (by omega)).symm
  have positive : 0 < 10 ^ (maxScale + maxScale - (left.scale + right.scale)) :=
    Nat.pow_pos (by decide)
  rw [mul?_eq_none_iff_mantissa, magnitude_mul_magnitude, scaled,
    ← Nat.mul_le_mul_right_iff positive, Nat.add_mul, Nat.mul_assoc 2, Nat.mul_assoc 2,
    Nat.mul_assoc mantissaBound]

end LoanBook.Decimal
