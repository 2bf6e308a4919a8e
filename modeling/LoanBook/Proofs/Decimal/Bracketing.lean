import LoanBook.Proofs.Decimal.Products
import LoanBook.Proofs.Decimal.Sums

/-!
# Decimals that bracket a result

Fitting respects the order of decimals: a number on one side of a decimal is fitted to a decimal on
that side, with whatever number of places 96 bits leave it.  So a sum that some decimal denotes is
never rounded, and a product or a difference bounded by a decimal stays bounded by it.
-/

namespace LoanBook.Decimal

open Rounding

section Fit

variable {negative : Bool} {mantissa scale places : Nat} {limit value : Decimal}

/-- A number of at most 56 places, in units of the last of them. -/
theorem mul_pow_eq (scaleLe : scale ≤ maxScale + maxScale) (placesLe : places ≤ scale) :
    10 ^ (maxScale + maxScale - places) =
      10 ^ (scale - places) * 10 ^ (maxScale + maxScale - scale) :=
  pow_sub_eq_mul placesLe scaleLe

theorem magnitude_mul_pow (value : Decimal) :
    value.magnitude * 10 ^ maxScale = value.mantissa * 10 ^ (maxScale + maxScale - value.scale) := by
  have scaleLe := value.scale_le
  rw [magnitude, Nat.mul_assoc, ← Nat.pow_add]
  congr 2
  omega

/-- A number up to a decimal is fitted to a decimal up to it. -/
theorem exists_fit?_le (scaleLe : scale ≤ maxScale + maxScale)
    (bound : mantissa * 10 ^ (maxScale + maxScale - scale) ≤ limit.magnitude * 10 ^ maxScale) :
    ∃ value, fit? negative mantissa scale = some value ∧ value.magnitude ≤ limit.magnitude := by
  have positive (exponent : Nat) : 0 < 10 ^ exponent := Nat.pow_pos (by decide)
  have limitScale := limit.scale_le
  rw [magnitude_mul_pow] at bound
  rcases Nat.le_total limit.scale scale with shorter | longer
  · rw [mul_pow_eq scaleLe shorter, ← Nat.mul_assoc] at bound
    obtain ⟨value, found, _, _, atMost⟩ := @exists_fit?_of_le_mul negative mantissa scale limit.scale
      limit.mantissa (by omega) limit.mantissa_lt (Nat.le_of_mul_le_mul_right bound (positive _))
    exact ⟨value, found, atMost⟩
  · have short : scale ≤ maxScale := by omega
    have raised : maxScale + maxScale - scale = maxScale - scale + maxScale := by omega
    have digits : mantissa ≤ limit.mantissa := by
      apply Nat.le_of_mul_le_mul_right _ (positive (maxScale + maxScale - limit.scale))
      exact Nat.le_trans (Nat.mul_le_mul_left mantissa
        (Nat.pow_le_pow_right (by decide) (by omega))) bound
    refine ⟨_, fit?_eq_some (Nat.lt_of_le_of_lt digits limit.mantissa_lt) short, ?_⟩
    rw [← magnitude_mul_pow, raised, Nat.pow_add, ← Nat.mul_assoc] at bound
    exact Nat.le_of_mul_le_mul_right bound (positive _)

/-- What is fitted with less than all of its places outgrows 96 bits with one place more. -/
theorem outgrows_of_fit? (found : fit? negative mantissa scale = some value)
    (shorter : value.scale < min scale maxScale) :
    mantissaBound ≤ halfEven mantissa (10 ^ (scale - (value.scale + 1))) := by
  by_contra fits
  obtain ⟨longer, longerFound, atLeast, _⟩ :=
    @exists_fit? negative mantissa scale (value.scale + 1) (by omega) (Nat.lt_of_not_le fits)
  cases found.symm.trans longerFound
  omega

/-- What is fitted with less than all of its places is beyond what 96 bits hold with one more. -/
theorem mantissaBound_mul_lt_of_fit? (found : fit? negative mantissa scale = some value)
    (shorter : value.scale < min scale maxScale) :
    mantissaBound * 10 ^ (maxScale - value.scale) < 10 * value.magnitude := by
  have tenth := tenth_lt_halfEven_of_outgrown (by omega) (outgrows_of_fit? found shorter)
  rw [← (isFit_of_fit? found).mantissa_eq] at tenth
  rw [magnitude, ← Nat.mul_assoc]
  exact Nat.mul_lt_mul_of_pos_right tenth (Nat.pow_pos (by decide))

/-- What is fitted with less than all of its places is not below a decimal of more places. -/
theorem magnitude_le_of_shorter (found : fit? negative mantissa scale = some value)
    (shorter : value.scale < min scale maxScale) (longer : value.scale < limit.scale) :
    limit.magnitude ≤ value.magnitude := by
  have limitScale := limit.scale_le
  have beyond := mantissaBound_mul_lt_of_fit? found shorter
  have held : limit.magnitude ≤ mantissaBound * 10 ^ (maxScale - limit.scale) :=
    Nat.mul_le_mul_right _ (Nat.le_of_lt limit.mantissa_lt)
  have power : 10 ^ (maxScale - limit.scale) * 10 ≤ 10 ^ (maxScale - value.scale) := by
    rw [← Nat.pow_succ]
    exact Nat.pow_le_pow_right (by decide) (by omega)
  have scaled := Nat.mul_le_mul_left mantissaBound power
  rw [← Nat.mul_assoc] at scaled
  omega

/-- A number from a decimal up is fitted to a decimal from it up. -/
theorem le_magnitude_of_fit? (scaleLe : scale ≤ maxScale + maxScale)
    (bound : limit.magnitude * 10 ^ maxScale ≤ mantissa * 10 ^ (maxScale + maxScale - scale))
    (found : fit? negative mantissa scale = some value) : limit.magnitude ≤ value.magnitude := by
  have positive (exponent : Nat) : 0 < 10 ^ exponent := Nat.pow_pos (by decide)
  have isFit := isFit_of_fit? found
  have atMost := isFit.scale_le_min
  have limitScale := limit.scale_le
  by_cases shorter : limit.scale ≤ value.scale
  · rw [magnitude_mul_pow, mul_pow_eq scaleLe (by omega), ← Nat.mul_assoc] at bound
    exact isFit.mul_le_magnitude shorter (Nat.le_of_mul_le_mul_right bound (positive _))
  · by_cases kept : value.scale = scale
    · have same : value.mantissa = mantissa := by
        rw [isFit.mantissa_eq, kept, Nat.sub_self, Nat.pow_zero, halfEven_one]
      rw [← same, ← kept, ← magnitude_mul_pow] at bound
      exact Nat.le_of_mul_le_mul_right bound (positive _)
    · exact magnitude_le_of_shorter found (by omega) (by omega)

end Fit

section Product

variable {left right limit : Decimal}

/-- A product of amounts not below zero is bounded by the decimals that bound the exact product. -/
theorem exists_mul?_le (nonneg : 0 ≤ left.units) (rightNonneg : 0 ≤ right.units)
    (bound : left.units * right.units ≤ limit.units * 10 ^ maxScale) :
    ∃ product, left.mul? right = some product ∧ 0 ≤ product.units ∧
      product.units ≤ limit.units := by
  have limitNonneg : 0 ≤ limit.units := by
    have product := Int.mul_nonneg nonneg rightNonneg
    exact nonneg_of_mul_nonneg_left (Int.le_trans product bound) (by positivity)
  by_cases zeroFactor : left.isZero = true ∨ right.isZero = true
  · exact ⟨zero, mul?_of_isZero zeroFactor, by simp, by simpa using limitNonneg⟩
  · simp only [not_or, Bool.not_eq_true] at zeroFactor
    obtain ⟨leftNonzero, rightNonzero⟩ := zeroFactor
    have scaleLe : left.scale + right.scale ≤ maxScale + maxScale :=
      Nat.add_le_add left.scale_le right.scale_le
    rw [units_of_nonneg nonneg, units_of_nonneg rightNonneg, units_of_nonneg limitNonneg] at bound
    have digits : left.mantissa * right.mantissa *
        10 ^ (maxScale + maxScale - (left.scale + right.scale)) ≤
          limit.magnitude * 10 ^ maxScale := by
      rw [← magnitude_mul_magnitude]
      exact_mod_cast bound
    obtain ⟨fitted, found, atMost⟩ :=
      @exists_fit?_le (left.negative != right.negative) _ _ _ scaleLe digits
    have mapped := mul?_map_units leftNonzero rightNonzero
    rw [found, Option.map_some, Option.map_eq_some_iff] at mapped
    obtain ⟨product, multiplied, same⟩ := mapped
    have fittedUnits : fitted.units = fitted.magnitude := by
      apply units_of_not_negative
      rw [(isFit_of_fit? found).negative_eq, not_negative_of_nonneg nonneg leftNonzero,
        not_negative_of_nonneg rightNonneg rightNonzero]
      rfl
    refine ⟨product, multiplied, by omega, ?_⟩
    rw [same, fittedUnits, units_of_nonneg limitNonneg]
    exact_mod_cast atMost

end Product

section Sum

variable {left right limit exact sum difference : Decimal}

theorem aligned_natAbs_mul_pow (left right : Decimal) :
    (left.aligned right).natAbs * 10 ^ (maxScale + maxScale - max left.scale right.scale) =
      (left.units + right.units).natAbs * 10 ^ maxScale := by
  have leftLe := left.scale_le
  have rightLe := right.scale_le
  have exponent : maxScale + maxScale - max left.scale right.scale =
      maxScale - max left.scale right.scale + maxScale := by omega
  rw [exponent, Nat.pow_add, ← Nat.mul_assoc, ← aligned_mul_pow, Int.natAbs_mul, Int.natAbs_pow]
  rfl

/-- A sum is an operand, if the other one is zero, or is fitted. -/
theorem add?_exact_or_fitted (left right : Decimal) :
    (∃ sum, left.add? right = some sum ∧ sum.units = left.units + right.units) ∨
      left.add? right = fit? (decide (left.aligned right < 0)) (left.aligned right).natAbs
        (max left.scale right.scale) := by
  cases leftZero : left.isZero with
  | true =>
      refine Or.inl ⟨right, add?_of_isZero_left leftZero, ?_⟩
      rw [isZero_iff.mp leftZero, Int.zero_add]
  | false =>
      cases rightZero : right.isZero with
      | true =>
          refine Or.inl ⟨left, add?_of_isZero_right leftZero rightZero, ?_⟩
          rw [isZero_iff.mp rightZero, Int.add_zero]
      | false => exact Or.inr (add?_of_nonzero leftZero rightZero)

/-- The size and the sign of a fitted sum. -/
theorem units_of_fitted (found : fit? (decide (left.aligned right < 0))
      (left.aligned right).natAbs (max left.scale right.scale) = some sum) :
    sum.units = if left.units + right.units < 0 then -(sum.magnitude : Int) else sum.magnitude := by
  have sign : left.aligned right < 0 ↔ left.units + right.units < 0 := by
    rw [← aligned_mul_pow]
    have positive : (0 : Int) < 10 ^ (maxScale - max left.scale right.scale) := by positivity
    constructor
    · exact fun negative => Int.mul_neg_of_neg_of_pos negative positive
    · exact fun negative => neg_of_mul_neg_left negative (Int.le_of_lt positive)
  rw [units_eq_magnitude, (isFit_of_fit? found).negative_eq]
  simp only [decide_eq_true_eq, sign]

theorem max_scale_le (left right : Decimal) :
    max left.scale right.scale ≤ maxScale + maxScale := by
  have leftLe := left.scale_le
  have rightLe := right.scale_le
  omega

/-- A sum that some decimal denotes is exact. -/
theorem exists_add?_of_exact (same : exact.units = left.units + right.units) :
    ∃ sum, left.add? right = some sum ∧ sum.units = left.units + right.units := by
  rcases add?_exact_or_fitted left right with exactly | fitted
  · exact exactly
  · have size : (left.aligned right).natAbs *
        10 ^ (maxScale + maxScale - max left.scale right.scale) = exact.magnitude * 10 ^ maxScale := by
      rw [aligned_natAbs_mul_pow, ← same, natAbs_units]
    have scaleLe := max_scale_le left right
    obtain ⟨sum, found, atMost⟩ := @exists_fit?_le (decide (left.aligned right < 0)) _ _ exact
      scaleLe (Nat.le_of_eq size)
    have atLeast := le_magnitude_of_fit? scaleLe (Nat.le_of_eq size.symm) found
    have magnitudeEq := natAbs_units exact
    refine ⟨sum, fitted.trans found, ?_⟩
    rw [units_of_fitted found]
    split <;> omega

/-- A sum is not below a decimal, of zero or more, that the exact sum is not below. -/
theorem le_units_of_add? (nonneg : 0 ≤ limit.units) (bound : limit.units ≤ left.units + right.units)
    (added : left.add? right = some sum) : limit.units ≤ sum.units := by
  rcases add?_exact_or_fitted left right with ⟨exactSum, exactly, same⟩ | fitted
  · cases added.symm.trans exactly
    rwa [same]
  · have found := fitted.symm.trans added
    have size : limit.magnitude * 10 ^ maxScale ≤ (left.aligned right).natAbs *
        10 ^ (maxScale + maxScale - max left.scale right.scale) := by
      rw [aligned_natAbs_mul_pow, ← natAbs_units]
      exact Nat.mul_le_mul_right _ (by omega)
    have atLeast := le_magnitude_of_fit? (max_scale_le left right) size found
    have limitUnits := units_of_nonneg nonneg
    rw [units_of_fitted found, if_neg (by omega)]
    omega

/-- A sum no larger than its left operand misses the exact one by at most half a unit of the last
place that the operand is written with. -/
theorem exists_add?_near (atMost : (left.units + right.units).natAbs ≤ left.units.natAbs) :
    ∃ sum, left.add? right = some sum ∧
      2 * (sum.units - (left.units + right.units)).natAbs ≤ 10 ^ (maxScale - left.scale) := by
  rcases add?_exact_or_fitted left right with ⟨sum, exactly, same⟩ | fitted
  · exact ⟨sum, exactly, by simp [same]⟩
  · have leftLe := left.scale_le
    have scaleLe := max_scale_le left right
    have positive (exponent : Nat) : 0 < 10 ^ exponent := Nat.pow_pos (by decide)
    have digits : (left.aligned right).natAbs ≤
        left.mantissa * 10 ^ (max left.scale right.scale - left.scale) := by
      have size := Nat.mul_le_mul_right (10 ^ maxScale) atMost
      rw [← aligned_natAbs_mul_pow, natAbs_units, magnitude_mul_pow,
        mul_pow_eq scaleLe (Nat.le_max_left _ _), ← Nat.mul_assoc] at size
      exact Nat.le_of_mul_le_mul_right size (positive _)
    obtain ⟨sum, found, atLeast, isFit, _⟩ := @exists_fit?_of_le_mul
      (decide (left.aligned right < 0)) _ _ left.scale left.mantissa (by omega) left.mantissa_lt
      digits
    have near := isFit.near scaleLe (Nat.le_trans (Nat.min_le_right _ _) atLeast)
    rw [aligned_natAbs_mul_pow] at near
    refine ⟨sum, fitted.trans found, ?_⟩
    have exponent : maxScale + maxScale - left.scale = maxScale - left.scale + maxScale := by omega
    rw [exponent, Nat.pow_add] at near
    -- both have the sign of the exact sum, so they are as far apart as their sizes
    have apart : (sum.units - (left.units + right.units)).natAbs =
        ((sum.magnitude : Int) - (left.units + right.units).natAbs).natAbs := by
      have signed := units_of_fitted found
      split at signed <;> omega
    apply Nat.le_of_mul_le_mul_right _ (positive maxScale)
    calc
      2 * (sum.units - (left.units + right.units)).natAbs * 10 ^ maxScale =
          2 * (((sum.magnitude : Int) - (left.units + right.units).natAbs) *
            (10 ^ maxScale : Nat)).natAbs := by
        rw [apart, Nat.mul_assoc, Int.natAbs_mul, Int.natAbs_natCast]
      _ ≤ 10 ^ (maxScale - left.scale) * 10 ^ maxScale := by
        rw [Int.sub_mul]
        exact_mod_cast near

/-- A difference is the sum with the other sign, up to the sign of a zero. -/
theorem sub?_map_units (left right : Decimal) :
    (left.sub? right).map units = (left.add? right.negate).map units := by
  cases rightZero : right.isZero with
  | true =>
      have none := isZero_iff.mp rightZero
      have negatedZero : right.negate.isZero = true := rightZero
      rw [sub?, if_pos rightZero]
      cases leftZero : left.isZero with
      | true => simp [add?_of_isZero_left leftZero, none]
      | false => simp [add?_of_isZero_right leftZero negatedZero]
  | false => rw [sub?_eq_add? rightZero]

theorem exists_add?_of_sub? (leaves : left.sub? right = some difference) :
    ∃ sum, left.add? right.negate = some sum ∧ sum.units = difference.units := by
  have mapped := sub?_map_units left right
  rw [leaves, Option.map_some] at mapped
  exact Option.map_eq_some_iff.mp mapped.symm

theorem exists_sub?_of_add? (added : left.add? right.negate = some sum) :
    ∃ difference, left.sub? right = some difference ∧ difference.units = sum.units := by
  have mapped := sub?_map_units left right
  rw [added, Option.map_some] at mapped
  exact Option.map_eq_some_iff.mp mapped

/-- A difference is exact if some decimal denotes what it should be. -/
theorem sub?_exact_iff (leaves : left.sub? right = some difference) :
    difference.units = left.units - right.units ↔
      ∃ exact : Decimal, exact.units = left.units - right.units := by
  constructor
  · exact fun same => ⟨difference, same⟩
  · rintro ⟨exact, same⟩
    obtain ⟨sum, added, sumEq⟩ := exists_add?_of_sub? leaves
    have total : exact.units = left.units + right.negate.units := by
      rw [units_negate, same]
      rfl
    obtain ⟨exactSum, exactAdded, exactEq⟩ := exists_add?_of_exact total
    cases added.symm.trans exactAdded
    rw [← sumEq, exactEq, ← total, same]

/-- What is left of an amount is not below a decimal, of zero or more, that the exact difference is
not below. -/
theorem le_units_of_sub? (nonneg : 0 ≤ limit.units) (bound : limit.units ≤ left.units - right.units)
    (leaves : left.sub? right = some difference) : limit.units ≤ difference.units := by
  obtain ⟨sum, added, sumEq⟩ := exists_add?_of_sub? leaves
  rw [← sumEq]
  refine le_units_of_add? nonneg ?_ added
  rwa [units_negate]

/-- A difference no larger than its left operand misses the exact one by at most half a unit of the
last place that the operand is written with. -/
theorem exists_sub?_near (atMost : (left.units - right.units).natAbs ≤ left.units.natAbs) :
    ∃ difference, left.sub? right = some difference ∧
      2 * (difference.units - (left.units - right.units)).natAbs ≤ 10 ^ (maxScale - left.scale) := by
  have sumLe : (left.units + right.negate.units).natAbs ≤ left.units.natAbs := by
    rwa [units_negate]
  obtain ⟨sum, added, near⟩ := exists_add?_near sumLe
  obtain ⟨difference, leaves, same⟩ := exists_sub?_of_add? added
  rw [units_negate] at near
  refine ⟨difference, leaves, ?_⟩
  rw [same]
  exact near

end Sum

end LoanBook.Decimal
