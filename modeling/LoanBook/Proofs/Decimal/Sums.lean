import LoanBook.Proofs.Decimal.Fitting

/-!
# Sums of decimals

Amounts in minor units are added and taken away exactly as long as the result fits into 96 bits of
minor units, and the result is again in minor units.
-/

namespace LoanBook.Decimal

variable {left right : Decimal} {places : Nat}

/-- The sum of two signed mantissas at the larger scale of the two. -/
def aligned (left right : Decimal) : Int :=
  left.signed * 10 ^ (max left.scale right.scale - left.scale) +
    right.signed * 10 ^ (max left.scale right.scale - right.scale)

theorem aligned_mul_pow (left right : Decimal) :
    left.aligned right * 10 ^ (maxScale - max left.scale right.scale) =
      left.units + right.units := by
  have leftLe := left.scale_le
  have rightLe := right.scale_le
  have raise (value : Decimal) (short : value.scale ≤ max left.scale right.scale) :
      value.signed * 10 ^ (max left.scale right.scale - value.scale) *
        10 ^ (maxScale - max left.scale right.scale) = value.units := by
    rw [units, Int.mul_assoc, ← pow_add]
    congr 2
    omega
  rw [aligned, Int.add_mul, raise left (by omega), raise right (by omega)]

theorem aligned_nonneg (nonneg : 0 ≤ left.units + right.units) : 0 ≤ left.aligned right := by
  rw [← aligned_mul_pow] at nonneg
  exact nonneg_of_mul_nonneg_left nonneg (by positivity)

theorem add?_of_nonzero (leftNonzero : left.isZero = false) (rightNonzero : right.isZero = false) :
    left.add? right = fit? (decide (left.aligned right < 0)) (left.aligned right).natAbs
      (max left.scale right.scale) := by
  rw [add?, if_neg (by simp [leftNonzero]), if_neg (by simp [rightNonzero])]
  rfl

theorem add?_of_isZero_left (zero : left.isZero = true) : left.add? right = some right :=
  if_pos zero

theorem add?_of_isZero_right (nonzero : left.isZero = false) (zero : right.isZero = true) :
    left.add? right = some left := by
  rw [add?, if_neg (by simp [nonzero]), if_pos zero]

theorem scale_le_of_add? {sum : Decimal} (leftShort : left.scale ≤ places)
    (rightShort : right.scale ≤ places) (added : left.add? right = some sum) :
    sum.scale ≤ places := by
  cases leftZero : left.isZero with
  | true =>
      rw [add?_of_isZero_left leftZero] at added
      cases added
      exact rightShort
  | false =>
      cases rightZero : right.isZero with
      | true =>
          rw [add?_of_isZero_right leftZero rightZero] at added
          cases added
          exact leftShort
      | false =>
          rw [add?_of_nonzero leftZero rightZero] at added
          have atMost := (isFit_of_fit? added).scale_le_min
          omega

/-- A sum that fits into 96 bits of minor units is exact. -/
theorem exists_add? (leftShort : left.scale ≤ places) (rightShort : right.scale ≤ places)
    (placesLe : places ≤ maxScale)
    (bound : (left.units + right.units).natAbs < mantissaBound * 10 ^ (maxScale - places)) :
    ∃ sum, left.add? right = some sum ∧ sum.scale ≤ places ∧
      sum.units = left.units + right.units := by
  cases leftZero : left.isZero with
  | true =>
      refine ⟨right, add?_of_isZero_left leftZero, rightShort, ?_⟩
      rw [isZero_iff.mp leftZero, Int.zero_add]
  | false =>
      cases rightZero : right.isZero with
      | true =>
          refine ⟨left, add?_of_isZero_right leftZero rightZero, leftShort, ?_⟩
          rw [isZero_iff.mp rightZero, Int.add_zero]
      | false =>
          have total := aligned_mul_pow left right
          have scaleLe : max left.scale right.scale ≤ maxScale :=
            Nat.max_le.mpr ⟨left.scale_le, right.scale_le⟩
          have fits : (left.aligned right).natAbs < mantissaBound := by
            rw [← total, Int.natAbs_mul] at bound
            have power : ((10 : Int) ^ (maxScale - max left.scale right.scale)).natAbs =
                10 ^ (maxScale - max left.scale right.scale) := by
              rw [Int.natAbs_pow]
              rfl
            rw [power] at bound
            have less : 10 ^ (maxScale - places) ≤
                10 ^ (maxScale - max left.scale right.scale) :=
              Nat.pow_le_pow_right (by decide) (by omega)
            exact Nat.lt_of_mul_lt_mul_right
              (Nat.lt_of_lt_of_le bound (Nat.mul_le_mul_left mantissaBound less))
          have added := add?_of_nonzero leftZero rightZero
          rw [fit?_eq_some fits scaleLe] at added
          refine ⟨_, added, Nat.max_le.mpr ⟨leftShort, rightShort⟩, ?_⟩
          rw [← total, units]
          congr 1
          by_cases negative : left.aligned right < 0
          · simp only [signed, negative, decide_true, if_true]
            omega
          · simp only [signed, negative, decide_false, Bool.false_eq_true, if_false]
            omega

/-- The sign of a fitted sum is that of the exact one. -/
theorem not_negative_of_add? {sum : Decimal} (leftNonzero : left.isZero = false)
    (rightNonzero : right.isZero = false) (nonneg : 0 ≤ left.units + right.units)
    (added : left.add? right = some sum) : sum.negative = false := by
  rw [add?_of_nonzero leftNonzero rightNonzero] at added
  rw [(isFit_of_fit? added).negative_eq]
  simpa using aligned_nonneg nonneg

theorem units_nonneg_of_add? {sum : Decimal} (nonneg : 0 ≤ left.units + right.units)
    (added : left.add? right = some sum) : 0 ≤ sum.units := by
  cases leftZero : left.isZero with
  | true =>
      rw [add?_of_isZero_left leftZero] at added
      cases added
      rwa [isZero_iff.mp leftZero, Int.zero_add] at nonneg
  | false =>
      cases rightZero : right.isZero with
      | true =>
          rw [add?_of_isZero_right leftZero rightZero] at added
          cases added
          rwa [isZero_iff.mp rightZero, Int.add_zero] at nonneg
      | false =>
          rw [units_of_not_negative (not_negative_of_add? leftZero rightZero nonneg added)]
          exact Int.natCast_nonneg _

/-- A sum of amounts above zero with a smaller amount taken away stays above zero. -/
theorem units_pos_of_add? {sum : Decimal} (positive : 0 < left.units + right.units)
    (added : left.add? right = some sum) : 0 < sum.units := by
  cases leftZero : left.isZero with
  | true =>
      rw [add?_of_isZero_left leftZero] at added
      cases added
      rwa [isZero_iff.mp leftZero, Int.zero_add] at positive
  | false =>
      cases rightZero : right.isZero with
      | true =>
          rw [add?_of_isZero_right leftZero rightZero] at added
          cases added
          rwa [isZero_iff.mp rightZero, Int.add_zero] at positive
      | false =>
          have sign := not_negative_of_add? leftZero rightZero (Int.le_of_lt positive) added
          have leftLe := left.scale_le
          have rightLe := right.scale_le
          have alignedPos : 0 < left.aligned right := by
            rw [← aligned_mul_pow] at positive
            exact pos_of_mul_pos_left positive (by positivity)
          rw [add?_of_nonzero leftZero rightZero] at added
          have digits := mantissa_pos_of_fit? (by omega) (by omega) added
          have nonzero : sum.magnitude ≠ 0 := by
            rw [Ne, magnitude_eq_zero_iff]
            omega
          rw [units_of_not_negative sign]
          omega

theorem sub?_eq_add? (nonzero : right.isZero = false) :
    left.sub? right = left.add? right.negate := by
  rw [sub?, if_neg (by simp [nonzero])]

theorem scale_le_of_sub? {difference : Decimal} (leftShort : left.scale ≤ places)
    (rightShort : right.scale ≤ places) (leaves : left.sub? right = some difference) :
    difference.scale ≤ places := by
  cases rightZero : right.isZero with
  | true =>
      rw [sub?, if_pos rightZero] at leaves
      cases leftZero : left.isZero with
      | true =>
          rw [leftZero] at leaves
          cases leaves
          exact rightShort
      | false =>
          rw [leftZero] at leaves
          cases leaves
          exact leftShort
  | false =>
      rw [sub?_eq_add? rightZero] at leaves
      exact scale_le_of_add? leftShort (show right.negate.scale ≤ places from rightShort) leaves

theorem exists_sub? (leftShort : left.scale ≤ places) (rightShort : right.scale ≤ places)
    (placesLe : places ≤ maxScale)
    (bound : (left.units - right.units).natAbs < mantissaBound * 10 ^ (maxScale - places)) :
    ∃ difference, left.sub? right = some difference ∧ difference.scale ≤ places ∧
      difference.units = left.units - right.units := by
  cases rightZero : right.isZero with
  | true =>
      have none := isZero_iff.mp rightZero
      rw [sub?, if_pos rightZero]
      cases leftZero : left.isZero with
      | true =>
          refine ⟨right, rfl, rightShort, ?_⟩
          rw [none, isZero_iff.mp leftZero]
          rfl
      | false =>
          refine ⟨left, rfl, leftShort, ?_⟩
          rw [none, Int.sub_zero]
  | false =>
      rw [sub?_eq_add? rightZero]
      have added := @exists_add? left right.negate places leftShort rightShort placesLe
      rw [units_negate] at added
      exact added bound

/-- Nothing is left of a number that the same number is taken away from. -/
theorem units_of_sub?_of_equiv {difference : Decimal} (same : left ≈ right)
    (leaves : left.sub? right = some difference) : difference.units = 0 := by
  have nothing : left.units - right.units = 0 := Int.sub_eq_zero_of_eq same
  obtain ⟨exactly, exactLeaves, _, exactUnits⟩ :=
    exists_sub? left.scale_le right.scale_le (Nat.le_refl maxScale) (by rw [nothing]; decide)
  cases leaves.symm.trans exactLeaves
  rw [exactUnits, nothing]

/-- What an amount leaves of another has no more digits than the other, written with the places of
both. -/
theorem aligned_natAbs_le (nonneg : 0 ≤ left.units + right.units) (nonpos : right.units ≤ 0) :
    (left.aligned right).natAbs ≤
      left.mantissa * 10 ^ (max left.scale right.scale - left.scale) := by
  have leftLe := left.scale_le
  have rightLe := right.scale_le
  have total := aligned_mul_pow left right
  have leftUnits := @units_of_nonneg left (by omega)
  rw [magnitude_eq_mul (Nat.le_max_left left.scale right.scale) (by omega)] at leftUnits
  have bound : left.aligned right * 10 ^ (maxScale - max left.scale right.scale) ≤
      ((left.mantissa * 10 ^ (max left.scale right.scale - left.scale) : Nat) : Int) *
        10 ^ (maxScale - max left.scale right.scale) := by
    push_cast at leftUnits ⊢
    omega
  have less := Int.le_of_mul_le_mul_right bound (by positivity)
  have alignedNonneg := aligned_nonneg nonneg
  omega

/-- An amount can be taken away from any that is at least as large, though not always exactly when
the two are written with different numbers of places. -/
theorem exists_sub?_of_le (leftShort : left.scale ≤ places) (rightShort : right.scale ≤ places)
    (nonneg : 0 ≤ right.units) (atMost : right.units ≤ left.units) :
    ∃ difference, left.sub? right = some difference ∧ difference.scale ≤ places ∧
      0 ≤ difference.units := by
  cases rightZero : right.isZero with
  | true =>
      rw [sub?, if_pos rightZero]
      cases leftZero : left.isZero with
      | true => exact ⟨right, rfl, rightShort, nonneg⟩
      | false => exact ⟨left, rfl, leftShort, Int.le_trans nonneg atMost⟩
  | false =>
      have rightNonzero : right.units ≠ 0 := by
        rw [Ne, ← isZero_iff, rightZero]
        simp
      have leftNonzero : left.isZero = false := by
        rw [Bool.eq_false_iff, Ne, isZero_iff]
        omega
      have differenceNonneg : 0 ≤ left.units + right.negate.units := by
        rw [units_negate]
        omega
      have negateNonpos : right.negate.units ≤ 0 := by
        rw [units_negate]
        omega
      have negateNonzero : right.negate.isZero = false := rightZero
      have negateShort : right.negate.scale ≤ places := rightShort
      have leftLe := left.scale_le
      obtain ⟨difference, found, _⟩ := @exists_fit?_of_le_mul
        (decide (left.aligned right.negate < 0)) _ _ left.scale left.mantissa (by omega)
        left.mantissa_lt (aligned_natAbs_le differenceNonneg negateNonpos)
      have added : left.add? right.negate = some difference := by
        rw [add?_of_nonzero leftNonzero negateNonzero, found]
      refine ⟨difference, ?_, scale_le_of_add? leftShort negateShort added,
        units_nonneg_of_add? differenceNonneg added⟩
      rw [sub?_eq_add? rightZero, added]

end LoanBook.Decimal
