import LoanBook.Proofs.Decimal.Fitting

/-!
# Products and rounding of decimals

The product of an amount with a portion lies between nothing and the amount, and rounding to minor
units keeps it there.  Both depend on the numbers only and not on how they are written.
-/

namespace LoanBook.Decimal

open Rounding

@[simp]
theorem units_one : one.units = 10 ^ maxScale := by
  decide

section Product

variable {left right : Decimal}

theorem mul?_of_isZero (zeroFactor : left.isZero = true ∨ right.isZero = true) :
    left.mul? right = some zero := by
  rw [mul?, if_pos (by simpa using zeroFactor)]

theorem units_mul_eq_zero_iff :
    left.units * right.units = 0 ↔ left.isZero = true ∨ right.isZero = true := by
  rw [Int.mul_eq_zero, isZero_iff, isZero_iff]

theorem units_of_mul?_of_zero {product : Decimal} (none : left.units * right.units = 0)
    (multiplied : left.mul? right = some product) : product.units = 0 := by
  rw [mul?_of_isZero (units_mul_eq_zero_iff.mp none)] at multiplied
  cases multiplied
  exact units_zero

/-- Up to the way a zero is written, a product is the fitted product of the mantissas. -/
theorem mul?_map_units (leftNonzero : left.isZero = false) (rightNonzero : right.isZero = false) :
    (left.mul? right).map units =
      (fit? (left.negative != right.negative) (left.mantissa * right.mantissa)
        (left.scale + right.scale)).map units := by
  rw [mul?, if_neg (by simp [leftNonzero, rightNonzero])]
  cases fitted : fit? (left.negative != right.negative) (left.mantissa * right.mantissa)
      (left.scale + right.scale) with
  | none => rfl
  | some product =>
      dsimp only
      split
      · rename_i vanishes
        have none : product.isZero = true := by
          simp only [Bool.and_eq_true] at vanishes
          exact vanishes.1
        split
        · simp [isZero_iff.mp none]
        · have same : ({ product with negative := false } : Decimal).isZero = true := none
          simp [isZero_iff.mp none, isZero_iff.mp same]
      · rfl

theorem magnitude_mul_magnitude (left right : Decimal) :
    left.magnitude * right.magnitude = left.mantissa * right.mantissa *
      10 ^ (maxScale + maxScale - (left.scale + right.scale)) := by
  have leftLe := left.scale_le
  have rightLe := right.scale_le
  have exponent : maxScale + maxScale - (left.scale + right.scale) =
      (maxScale - left.scale) + (maxScale - right.scale) := by omega
  rw [exponent, Nat.pow_add, magnitude, magnitude]
  ring

theorem mantissa_le_of_units_le_one {value : Decimal} (nonneg : 0 ≤ value.units)
    (bound : value.units ≤ 10 ^ maxScale) : value.mantissa ≤ 10 ^ value.scale := by
  have digits := @mantissa_le_of_magnitude_le value 1
  rw [Nat.one_mul, Nat.one_mul] at digits
  apply digits
  rw [units_of_nonneg nonneg] at bound
  exact_mod_cast bound

theorem not_negative_of_nonneg {value : Decimal} (nonneg : 0 ≤ value.units)
    (nonzero : value.isZero = false) : value.negative = false := by
  apply not_negative_of_pos
  have units : value.units ≠ 0 := fun none => by simp [isZero_iff.mpr none] at nonzero
  omega

/-- The product of two amounts above zero is their fitted product. -/
theorem exists_fit?_of_mul? {product : Decimal} (nonneg : 0 ≤ left.units)
    (rightNonneg : 0 ≤ right.units) (nonzero : left.units * right.units ≠ 0)
    (multiplied : left.mul? right = some product) :
    ∃ fitted, fit? false (left.mantissa * right.mantissa) (left.scale + right.scale) =
      some fitted ∧ product.units = fitted.magnitude := by
  rw [Ne, units_mul_eq_zero_iff, not_or, Bool.not_eq_true, Bool.not_eq_true] at nonzero
  obtain ⟨leftNonzero, rightNonzero⟩ := nonzero
  have mapped := mul?_map_units leftNonzero rightNonzero
  rw [not_negative_of_nonneg nonneg leftNonzero, not_negative_of_nonneg rightNonneg rightNonzero,
    multiplied, Option.map_some] at mapped
  obtain ⟨fitted, found, same⟩ := Option.map_eq_some_iff.mp mapped.symm
  have sign : fitted.negative = false := (isFit_of_fit? found).negative_eq
  exact ⟨fitted, found, by rw [← same, units_of_not_negative sign]⟩

/-- The product of an amount with a portion lies between nothing and the amount. -/
theorem exists_mul?_portion (nonneg : 0 ≤ left.units) (portionNonneg : 0 ≤ right.units)
    (portionLe : right.units ≤ 10 ^ maxScale) :
    ∃ product, left.mul? right = some product ∧ 0 ≤ product.units ∧
      product.units ≤ left.units ∧
      (right.units = 10 ^ maxScale → product.units = left.units) := by
  by_cases zeroFactor : left.isZero = true ∨ right.isZero = true
  · refine ⟨zero, mul?_of_isZero zeroFactor, by simp, by simpa using nonneg, ?_⟩
    intro whole
    rcases zeroFactor with leftZero | rightZero
    · rw [isZero_iff.mp leftZero, units_zero]
    · rw [isZero_iff.mp rightZero] at whole
      exact absurd whole (by decide)
  · simp only [not_or, Bool.not_eq_true] at zeroFactor
    obtain ⟨leftNonzero, rightNonzero⟩ := zeroFactor
    have leftUnits := units_of_nonneg nonneg
    have rightUnits := units_of_nonneg portionNonneg
    have leftSign := not_negative_of_nonneg nonneg leftNonzero
    have rightSign := not_negative_of_nonneg portionNonneg rightNonzero
    have digits := mantissa_le_of_units_le_one portionNonneg portionLe
    have exponent : left.scale + right.scale - left.scale = right.scale := by omega
    have bound : left.mantissa * right.mantissa ≤
        left.mantissa * 10 ^ (left.scale + right.scale - left.scale) := by
      rw [exponent]
      exact Nat.mul_le_mul_left _ digits
    have leftLe := left.scale_le
    obtain ⟨fitted, found, atLeast, isFit, atMost⟩ := @exists_fit?_of_le_mul
      (left.negative != right.negative) _ (left.scale + right.scale) left.scale _ (by omega)
      left.mantissa_lt bound
    have mapped := mul?_map_units leftNonzero rightNonzero
    rw [found, Option.map_some, Option.map_eq_some_iff] at mapped
    obtain ⟨product, multiplied, same⟩ := mapped
    have fittedUnits : fitted.units = fitted.magnitude := by
      apply units_of_not_negative
      rw [isFit.negative_eq, leftSign, rightSign]
      rfl
    refine ⟨product, multiplied, by omega, ?_, ?_⟩
    · rw [same, fittedUnits, leftUnits]
      exact_mod_cast atMost
    · intro whole
      have full : right.mantissa = 10 ^ right.scale := by
        apply Nat.le_antisymm digits
        have magnitudeEq : right.magnitude = 10 ^ maxScale := by
          rw [rightUnits] at whole
          exact_mod_cast whole
        rw [magnitude, ← pow_mul_pow_sub 10 right.scale_le] at magnitudeEq
        exact Nat.le_of_mul_le_mul_right (Nat.le_of_eq magnitudeEq.symm) (Nat.pow_pos (by decide))
      have lower : left.mantissa * 10 ^ (left.scale + right.scale - left.scale) ≤
          left.mantissa * right.mantissa := by
        rw [exponent, full]
      have equal : fitted.magnitude = left.magnitude :=
        Nat.le_antisymm atMost (isFit.mul_le_magnitude atLeast lower)
      rw [same, fittedUnits, leftUnits, equal]

/-- The product of at most `10 ^ 27` minor units with a portion is fitted with one place more than
they have, or with all of its places. -/
theorem exists_fit?_mul {places : Nat} (negative : Bool) (placesLt : places < maxScale)
    (leftDigits : left.mantissa ≤ 10 ^ (27 - places) * 10 ^ left.scale)
    (rightDigits : right.mantissa ≤ 10 ^ right.scale) :
    ∃ fitted, fit? negative (left.mantissa * right.mantissa) (left.scale + right.scale) =
        some fitted ∧ min (left.scale + right.scale) (places + 1) ≤ fitted.scale ∧
      IsFit negative (left.mantissa * right.mantissa) (left.scale + right.scale) fitted := by
  apply exists_fit?
  · omega
  · have atMost : halfEven (left.mantissa * right.mantissa) (10 ^ (left.scale + right.scale -
        min (left.scale + right.scale) (places + 1))) ≤ 10 ^ maxScale := by
      apply halfEven_le_of_le_mul (Nat.pow_pos (by decide))
      calc
        left.mantissa * right.mantissa ≤
            10 ^ (27 - places) * 10 ^ left.scale * 10 ^ right.scale :=
          Nat.mul_le_mul leftDigits rightDigits
        _ = 10 ^ (27 - places + (left.scale + right.scale)) := by
          rw [Nat.mul_assoc, ← Nat.pow_add, ← Nat.pow_add]
        _ ≤ 10 ^ (maxScale +
            (left.scale + right.scale - min (left.scale + right.scale) (places + 1))) := by
          apply Nat.pow_le_pow_right (by decide)
          simp only [maxScale] at placesLt ⊢
          omega
        _ = _ := Nat.pow_add _ _ _
    exact Nat.lt_of_le_of_lt atMost (by decide)

/-- The product of an amount of at most `10 ^ 27` minor units with a portion misses the exact
product by a twentieth of a minor unit at most. -/
theorem exists_mul?_near {places : Nat} (nonneg : 0 ≤ left.units) (portionNonneg : 0 ≤ right.units)
    (portionLe : right.units ≤ 10 ^ maxScale) (placesLt : places < maxScale)
    (bound : left.units ≤ 10 ^ (27 - places) * 10 ^ maxScale) :
    ∃ product, left.mul? right = some product ∧ 0 ≤ product.units ∧
      2 * (product.units * 10 ^ maxScale - left.units * right.units).natAbs ≤
        10 ^ (27 - places) * 10 ^ maxScale := by
  obtain ⟨product, multiplied, productNonneg, _, _⟩ :=
    exists_mul?_portion nonneg portionNonneg portionLe
  refine ⟨product, multiplied, productNonneg, ?_⟩
  by_cases none : left.units * right.units = 0
  · rw [none, units_of_mul?_of_zero none multiplied, Int.zero_mul]
    exact Nat.zero_le _
  · have leftUnits := units_of_nonneg nonneg
    have leftScale := left.scale_le
    have rightScale := right.scale_le
    have leftDigits : left.mantissa ≤ 10 ^ (27 - places) * 10 ^ left.scale := by
      apply mantissa_le_of_magnitude_le
      rw [leftUnits] at bound
      exact_mod_cast bound
    obtain ⟨fitted, found, atLeast, isFit⟩ := exists_fit?_mul false placesLt leftDigits
      (mantissa_le_of_units_le_one portionNonneg portionLe)
    obtain ⟨_, again, productUnits⟩ := exists_fit?_of_mul? nonneg portionNonneg none multiplied
    cases found.symm.trans again
    have near := isFit.near (by omega) atLeast
    have exponent : maxScale + maxScale - (places + 1) = 27 - places + maxScale := by
      simp only [maxScale] at placesLt ⊢
      omega
    rw [← magnitude_mul_magnitude, exponent, Nat.pow_add] at near
    rw [productUnits, leftUnits, units_of_nonneg portionNonneg]
    exact_mod_cast near

/-- Numbers that are equal and above or below zero have one sign, and the digits of the longer one
end in zeros. -/
theorem parts_of_equiv {value other : Decimal} (same : value ≈ other)
    (nonzero : value.isZero = false) (shorter : value.scale ≤ other.scale) :
    other.negative = value.negative ∧
      other.mantissa = value.mantissa * 10 ^ (other.scale - value.scale) := by
  rw [equiv_def] at same
  have magnitudeEq : value.magnitude = other.magnitude := by
    rw [← natAbs_units, ← natAbs_units, same]
  have positive : 0 < value.magnitude := by
    apply Nat.pos_of_ne_zero
    rw [Ne, magnitude_eq_zero_iff]
    simpa [isZero] using nonzero
  constructor
  · rw [units_eq_magnitude, units_eq_magnitude] at same
    cases sign : value.negative <;> cases otherSign : other.negative
    · rfl
    · simp [sign, otherSign] at same
      omega
    · simp [sign, otherSign] at same
      omega
    · rfl
  · rw [magnitude, magnitude, pow_sub_eq_mul shorter other.scale_le, ← Nat.mul_assoc] at magnitudeEq
    exact (Nat.eq_of_mul_eq_mul_right (Nat.pow_pos (by decide)) magnitudeEq).symm

private theorem mul?_congr_of_scale_le {other : Decimal} (same : left ≈ other)
    (shorter : left.scale ≤ other.scale) :
    (left.mul? right).map units = (other.mul? right).map units := by
  cases leftZero : left.isZero with
  | true =>
      have otherZero : other.isZero = true := by
        rw [equiv_def] at same
        rw [isZero_iff] at leftZero ⊢
        rw [← same, leftZero]
      rw [mul?_of_isZero (Or.inl leftZero), mul?_of_isZero (Or.inl otherZero)]
  | false =>
      cases rightZero : right.isZero with
      | true => rw [mul?_of_isZero (Or.inr rightZero), mul?_of_isZero (Or.inr rightZero)]
      | false =>
          have otherNonzero : other.isZero = false := by
            rw [equiv_def] at same
            rw [Bool.eq_false_iff, Ne, isZero_iff] at leftZero ⊢
            rwa [← same]
          obtain ⟨sign, digits⟩ := parts_of_equiv same leftZero shorter
          rw [mul?_map_units leftZero rightZero, mul?_map_units otherNonzero rightZero, sign,
            digits]
          have longer : other.scale + right.scale =
              left.scale + right.scale + (other.scale - left.scale) := by omega
          rw [longer, Nat.mul_right_comm, fit?_mul_pow]

/-- A product depends on the number multiplied and not on how it is written. -/
theorem mul?_congr {other : Decimal} (same : left ≈ other) :
    (left.mul? right).map units = (other.mul? right).map units := by
  rcases Nat.le_total left.scale other.scale with shorter | longer
  · exact mul?_congr_of_scale_le same shorter
  · have flipped : other ≈ left := by
      rw [equiv_def] at same ⊢
      exact same.symm
    exact (mul?_congr_of_scale_le flipped longer).symm

end Product

section Round

variable {value : Decimal} {places : Nat}

/-- Rounding to places is rounding the count of units to a multiple. -/
theorem magnitude_round (placesLe : places ≤ maxScale) :
    (value.round places).magnitude =
      halfUp value.magnitude (10 ^ (maxScale - places)) * 10 ^ (maxScale - places) := by
  by_cases longer : places < value.scale
  · have rounded : (value.round places).magnitude =
        halfUp value.mantissa (10 ^ (value.scale - places)) * 10 ^ (maxScale - places) := by
      rw [round, dif_pos longer, magnitude]
    rw [rounded]
    congr 1
    rw [magnitude, pow_sub_eq_mul (Nat.le_of_lt longer) value.scale_le,
      halfUp_mul_mul (Nat.pow_pos (by decide))]
  · rw [round_of_scale_le (Nat.le_of_not_lt longer),
      magnitude_eq_mul (Nat.le_of_not_lt longer) placesLe,
      halfUp_mul_right (Nat.pow_pos (by decide))]

theorem units_round_nonneg (nonneg : 0 ≤ value.units) : 0 ≤ (value.round places).units := by
  by_cases longer : places < value.scale
  · cases sign : value.negative with
    | false =>
        have kept : (value.round places).negative = false := by
          rw [round, dif_pos longer]
          simp [sign]
        rw [units_of_not_negative kept]
        omega
    | true =>
        have none : value.magnitude = 0 := by
          rw [units_eq_magnitude, if_pos sign] at nonneg
          omega
        have rounded : (value.round places).mantissa = 0 := by
          rw [round, dif_pos longer]
          have whole := @halfUp_mul_right (10 ^ (value.scale - places)) 0 (Nat.pow_pos (by decide))
          rw [Nat.zero_mul] at whole
          simpa [magnitude_eq_zero_iff.mp none] using whole
        rw [units_eq_magnitude, magnitude_eq_zero_iff.mpr rounded]
        simp
  · rw [round_of_scale_le (Nat.le_of_not_lt longer)]
    exact nonneg

theorem units_round_of_nonneg (nonneg : 0 ≤ value.units) (placesLe : places ≤ maxScale) :
    (value.round places).units =
      (halfUp value.magnitude (10 ^ (maxScale - places)) * 10 ^ (maxScale - places) : Nat) := by
  rw [units_of_nonneg (units_round_nonneg nonneg), magnitude_round placesLe]

/-- A value below an amount in minor units is not rounded past it. -/
theorem units_round_le {limit : Decimal} (nonneg : 0 ≤ value.units)
    (bound : value.units ≤ limit.units) (short : limit.scale ≤ places)
    (placesLe : places ≤ maxScale) : (value.round places).units ≤ limit.units := by
  have limitUnits := units_of_nonneg (Int.le_trans nonneg bound)
  rw [units_round_of_nonneg nonneg placesLe, limitUnits, magnitude_eq_mul short placesLe]
  have less : value.magnitude ≤ limit.magnitude := by
    rw [units_of_nonneg nonneg, limitUnits] at bound
    exact_mod_cast bound
  rw [magnitude_eq_mul short placesLe] at less
  exact_mod_cast Nat.mul_le_mul_right _ (halfUp_le_of_le_mul (Nat.pow_pos (by decide)) less)

/-- Rounding an amount in minor units keeps the number. -/
theorem round_equiv_of_equiv {amount : Decimal} (same : value ≈ amount)
    (nonneg : 0 ≤ value.units) (short : amount.scale ≤ places) (placesLe : places ≤ maxScale) :
    value.round places ≈ amount := by
  rw [equiv_def] at same ⊢
  have amountUnits := units_of_nonneg (same ▸ nonneg)
  rw [units_round_of_nonneg nonneg placesLe, amountUnits, magnitude_eq_mul short placesLe]
  have equal : value.magnitude = amount.magnitude := by
    rw [← natAbs_units, ← natAbs_units, same]
  rw [equal, magnitude_eq_mul short placesLe, halfUp_mul_right (Nat.pow_pos (by decide))]

theorem round_congr {other : Decimal} (same : value ≈ other) (nonneg : 0 ≤ value.units)
    (placesLe : places ≤ maxScale) : value.round places ≈ other.round places := by
  rw [equiv_def] at same ⊢
  have equal : value.magnitude = other.magnitude := by
    rw [← natAbs_units, ← natAbs_units, same]
  rw [units_round_of_nonneg nonneg placesLe, units_round_of_nonneg (same ▸ nonneg) placesLe, equal]

/-- A value less than half a minor unit away from an amount in minor units is rounded to it. -/
theorem round_equiv_of_near {amount : Decimal} (nonneg : 0 ≤ value.units)
    (amountNonneg : 0 ≤ amount.units) (short : amount.scale ≤ places)
    (placesLe : places ≤ maxScale)
    (near : 2 * (value.units - amount.units).natAbs < 10 ^ (maxScale - places)) :
    value.round places ≈ amount := by
  rw [equiv_def, units_round_of_nonneg nonneg placesLe, units_of_nonneg amountNonneg]
  have valueUnits := units_of_nonneg nonneg
  have amountUnits := units_of_nonneg amountNonneg
  have split := magnitude_eq_mul short placesLe
  have rounded : halfUp value.magnitude (10 ^ (maxScale - places)) =
      amount.mantissa * 10 ^ (places - amount.scale) := by
    apply halfUp_eq_of_near (Nat.pow_pos (by decide))
    · omega
    · omega
  rw [rounded, ← split]

end Round

end LoanBook.Decimal
