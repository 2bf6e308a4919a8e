import LoanBook.Proofs.Decimal.Bracketing

/-!
# The order of products

Fitting keeps the order of numbers, also where the larger of two is left with fewer places: then it
is beyond all that 96 bits hold with more of them.  So products come in the order of the exact
products, and rounded amounts in the order of the amounts.
-/

namespace LoanBook.Decimal

open Rounding

section Fit

variable {negative otherNegative : Bool} {mantissa larger scale otherScale : Nat}
  {value other : Decimal}

/-- The smaller of two numbers is fitted with at least as many places. -/
theorem scale_le_of_fit? (less : mantissa ≤ larger)
    (found : fit? negative mantissa scale = some value)
    (otherFound : fit? otherNegative larger scale = some other) : other.scale ≤ value.scale := by
  have isFit := isFit_of_fit? otherFound
  have fits : halfEven mantissa (10 ^ (scale - other.scale)) < mantissaBound := by
    apply Nat.lt_of_le_of_lt (halfEven_mono less)
    rw [← isFit.mantissa_eq]
    exact other.mantissa_lt
  obtain ⟨_, again, atLeast, _⟩ := @exists_fit? negative _ _ _ isFit.scale_le_min fits
  cases found.symm.trans again
  exact atLeast

private theorem magnitude_le_of_fit?_of_le (less : mantissa ≤ larger)
    (found : fit? negative mantissa scale = some value)
    (otherFound : fit? otherNegative larger scale = some other) :
    value.magnitude ≤ other.magnitude := by
  have isFit := isFit_of_fit? found
  have otherFit := isFit_of_fit? otherFound
  rcases Nat.lt_or_eq_of_le (scale_le_of_fit? less found otherFound) with fewer | same
  · have atMost := isFit.scale_le_min
    exact magnitude_le_of_shorter otherFound (by omega) fewer
  · rw [magnitude, magnitude, isFit.mantissa_eq, otherFit.mantissa_eq, same]
    exact Nat.mul_le_mul_right _ (halfEven_mono less)

/-- A number can be written with more places before it is fitted. -/
theorem exists_fit?_mul_pow (more : Nat) (found : fit? negative mantissa scale = some value) :
    ∃ raised, fit? negative (mantissa * 10 ^ more) (scale + more) = some raised ∧
      raised.magnitude = value.magnitude := by
  have mapped := @fit?_mul_pow negative mantissa scale more
  rw [found, Option.map_some, Option.map_eq_some_iff] at mapped
  obtain ⟨raised, raisedFound, same⟩ := mapped
  exact ⟨raised, raisedFound, by rw [← natAbs_units, ← natAbs_units, same]⟩

/-- Fitting keeps the order of numbers, however many places they are written with. -/
theorem magnitude_le_of_fit? (scaleLe : scale ≤ maxScale + maxScale)
    (otherScaleLe : otherScale ≤ maxScale + maxScale)
    (less : mantissa * 10 ^ (maxScale + maxScale - scale) ≤
      larger * 10 ^ (maxScale + maxScale - otherScale))
    (found : fit? negative mantissa scale = some value)
    (otherFound : fit? otherNegative larger otherScale = some other) :
    value.magnitude ≤ other.magnitude := by
  obtain ⟨raised, raisedFound, same⟩ :=
    exists_fit?_mul_pow (maxScale + maxScale - scale) found
  obtain ⟨otherRaised, otherRaisedFound, otherSame⟩ :=
    exists_fit?_mul_pow (maxScale + maxScale - otherScale) otherFound
  rw [Nat.add_sub_cancel' scaleLe] at raisedFound
  rw [Nat.add_sub_cancel' otherScaleLe] at otherRaisedFound
  rw [← same, ← otherSame]
  exact magnitude_le_of_fit?_of_le less raisedFound otherRaisedFound

end Fit

section Product

variable {left right product : Decimal}

theorem units_nonneg_of_mul? (nonneg : 0 ≤ left.units) (rightNonneg : 0 ≤ right.units)
    (multiplied : left.mul? right = some product) : 0 ≤ product.units := by
  by_cases none : left.units * right.units = 0
  · exact Int.le_of_eq (units_of_mul?_of_zero none multiplied).symm
  · obtain ⟨fitted, _, same⟩ := exists_fit?_of_mul? nonneg rightNonneg none multiplied
    rw [same]
    exact Int.natCast_nonneg _

/-- Products of amounts not below zero come in the order of the exact products. -/
theorem units_le_of_mul? {otherLeft otherRight otherProduct : Decimal} (nonneg : 0 ≤ left.units)
    (rightNonneg : 0 ≤ right.units) (otherNonneg : 0 ≤ otherLeft.units)
    (otherRightNonneg : 0 ≤ otherRight.units)
    (less : left.units * right.units ≤ otherLeft.units * otherRight.units)
    (multiplied : left.mul? right = some product)
    (otherMultiplied : otherLeft.mul? otherRight = some otherProduct) :
    product.units ≤ otherProduct.units := by
  by_cases none : left.units * right.units = 0
  · rw [units_of_mul?_of_zero none multiplied]
    exact units_nonneg_of_mul? otherNonneg otherRightNonneg otherMultiplied
  · have positive := Int.mul_nonneg nonneg rightNonneg
    obtain ⟨fitted, found, same⟩ := exists_fit?_of_mul? nonneg rightNonneg none multiplied
    obtain ⟨otherFitted, otherFound, otherSame⟩ :=
      exists_fit?_of_mul? otherNonneg otherRightNonneg (by omega) otherMultiplied
    rw [units_of_nonneg nonneg, units_of_nonneg rightNonneg, units_of_nonneg otherNonneg,
      units_of_nonneg otherRightNonneg] at less
    have digits : left.magnitude * right.magnitude ≤
        otherLeft.magnitude * otherRight.magnitude := by
      exact_mod_cast less
    rw [magnitude_mul_magnitude, magnitude_mul_magnitude] at digits
    rw [same, otherSame]
    exact_mod_cast magnitude_le_of_fit? (Nat.add_le_add left.scale_le right.scale_le)
      (Nat.add_le_add otherLeft.scale_le otherRight.scale_le) digits found otherFound

end Product

/-- Rounded amounts come in the order of the amounts. -/
theorem units_round_mono {value other : Decimal} {places : Nat} (nonneg : 0 ≤ value.units)
    (less : value.units ≤ other.units) (placesLe : places ≤ maxScale) :
    (value.round places).units ≤ (other.round places).units := by
  have otherNonneg := Int.le_trans nonneg less
  rw [units_of_nonneg nonneg, units_of_nonneg otherNonneg] at less
  rw [units_round_of_nonneg nonneg placesLe, units_round_of_nonneg otherNonneg placesLe]
  exact_mod_cast Nat.mul_le_mul_right _ (halfUp_mono (by exact_mod_cast less))

end LoanBook.Decimal
