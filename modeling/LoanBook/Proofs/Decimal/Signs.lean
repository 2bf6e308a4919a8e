import LoanBook.Proofs.Decimal.Products

/-!
# Numbers of the other sign

Products and rounding do not favour a sign: with the sign of an operand flipped, the result has its
sign flipped.  So what is known of numbers that are not below zero holds of the others, mirrored.
-/

namespace LoanBook.Decimal

variable {negative : Bool} {mantissa scale places : Nat}

theorem ofParts?_not :
    ofParts? (!negative) mantissa scale = (ofParts? negative mantissa scale).map negate := by
  unfold ofParts?
  split
  · rfl
  · rfl

theorem fitBelow_not :
    fitBelow (!negative) mantissa scale places =
      (fitBelow negative mantissa scale places).map negate := by
  induction places with
  | zero => exact ofParts?_not
  | succ places ih =>
      rw [fitBelow, fitBelow, ofParts?_not, ih]
      cases ofParts? negative (Rounding.halfEven mantissa (10 ^ (scale - (places + 1))))
          (places + 1) with
      | none => rfl
      | some value => rfl

theorem fit?_not :
    fit? (!negative) mantissa scale = (fit? negative mantissa scale).map negate :=
  fitBelow_not

theorem mul?_negate_map_units (left right : Decimal) :
    (left.negate.mul? right).map units =
      (left.mul? right).map fun product => -product.units := by
  by_cases zeroFactor : left.isZero = true ∨ right.isZero = true
  · have mirrored : left.negate.isZero = true ∨ right.isZero = true := zeroFactor
    rw [mul?_of_isZero zeroFactor, mul?_of_isZero mirrored]
    simp
  · simp only [not_or, Bool.not_eq_true] at zeroFactor
    obtain ⟨leftNonzero, rightNonzero⟩ := zeroFactor
    have mirrored : left.negate.isZero = false := leftNonzero
    have sign : (left.negate.negative != right.negative) = !(left.negative != right.negative) := by
      simp [negate]
    have same := congrArg (Option.map fun amount : Int => -amount)
      (mul?_map_units leftNonzero rightNonzero)
    rw [Option.map_map, Option.map_map] at same
    rw [mul?_map_units mirrored rightNonzero, sign, fit?_not, Option.map_map]
    refine Eq.trans ?_ same.symm
    congr 1
    funext fitted
    exact units_negate fitted

theorem round_negate (value : Decimal) (places : Nat) :
    (value.negate.round places).units = -(value.round places).units := by
  by_cases longer : places < value.scale
  · have mirrored : places < value.negate.scale := longer
    rw [round, dif_pos mirrored, round, dif_pos longer, units, units, signed, signed]
    by_cases vanishes : Rounding.halfUp value.mantissa (10 ^ (value.scale - places)) = 0
    · simp [vanishes]
    · cases sign : value.negative with
      | false => simp [negate, sign, vanishes]
      | true => simp [negate, sign, vanishes]
  · rw [round_of_scale_le (Nat.le_of_not_lt longer),
      round_of_scale_le (show value.negate.scale ≤ places from Nat.le_of_not_lt longer),
      units_negate]

/-- Rounding depends on the number and not on how it is written, whatever its sign. -/
theorem round_equiv_round {value other : Decimal} (same : value ≈ other)
    (placesLe : places ≤ maxScale) : value.round places ≈ other.round places := by
  rw [equiv_def] at same
  rcases Int.le_total 0 value.units with nonneg | nonpos
  · exact round_congr same nonneg placesLe
  · have mirrored : value.negate ≈ other.negate := by
      rw [equiv_def, units_negate, units_negate, same]
    have rounded := round_congr mirrored (by rw [units_negate]; omega) placesLe
    rw [equiv_def, round_negate, round_negate] at rounded
    rw [equiv_def]
    omega

end LoanBook.Decimal
