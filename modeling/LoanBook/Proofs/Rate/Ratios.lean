import LoanBook.Proofs.Decimal.Quotients
import LoanBook.Proofs.Money.Exact
import Mathlib.Algebra.Order.Field.Basic
import Mathlib.Data.Rat.Cast.Order
import Mathlib.Tactic.FieldSimp

/-!
# Accuracy of ratios

The ratio of a decimal that is not below zero to a larger one, or to one that is as large, can
always be computed, whatever the mantissas and the scales are.  It is a portion, and misses the
exact quotient by half a unit of the 28th decimal place at most.  So does one share of any number of
equal shares.
-/

namespace LoanBook

theorem toNat_pos_of_ne_zero {count : UInt32} (some : count ≠ 0) : 0 < count.toNat :=
  Nat.pos_of_ne_zero fun zero => some (UInt32.toNat_inj.mp zero)

namespace Decimal

theorem units_ofUInt32 (count : UInt32) : (ofUInt32 count).units = count.toNat * 10 ^ maxScale :=
  rfl

/-- The number denoted, as a fraction. -/
def toRat (value : Decimal) : ℚ :=
  value.units / 10 ^ maxScale

theorem toRat_ofUInt32 (count : UInt32) : (ofUInt32 count).toRat = count.toNat := by
  rw [toRat, units_ofUInt32]
  push_cast
  exact mul_div_cancel_right₀ _ (pow_ne_zero _ (by norm_num))

/-- Every decimal from nothing to another one above zero has a quotient by it, between zero and one,
that misses the exact one by half a unit of the last place at most. -/
theorem exists_div?_of_le {left right : Decimal} (nonneg : 0 ≤ left.units)
    (atMost : left.units ≤ right.units) (positive : 0 < right.units) :
    ∃ quotient, left.div? right = some quotient ∧ 0 ≤ quotient.units ∧
      quotient.units ≤ 10 ^ maxScale ∧
      2 * (quotient.units * right.units - left.units * 10 ^ maxScale).natAbs ≤
        right.units.natAbs := by
  rcases Int.lt_or_eq_of_le nonneg with leftPos | nothing
  · exact exists_div? leftPos atMost
  · have leftZero : left.isZero = true := isZero_iff.mpr nothing.symm
    have rightNonzero : ¬right.isZero = true := by
      rw [isZero_iff]
      omega
    refine ⟨zero, by rw [div?, if_neg rightNonzero, if_pos leftZero], ?_⟩
    rw [← nothing, units_zero]
    exact ⟨Int.le_refl 0, by decide, by simp⟩

/-- Cross products that differ by half of the divisor at most belong to quotients that differ by
half of a unit at most. -/
theorem abs_toRat_sub_le {quotient left right : Decimal} (positive : 0 < right.units)
    (near : 2 * (quotient.units * right.units - left.units * 10 ^ maxScale).natAbs ≤
      right.units.natAbs) :
    |quotient.toRat - left.toRat / right.toRat| ≤ 1 / 2 / 10 ^ maxScale := by
  have unitPos : (0 : ℚ) < 10 ^ maxScale := pow_pos (by norm_num) _
  have rightPos : (0 : ℚ) < right.units := by exact_mod_cast positive
  have gap : 2 * |(quotient.units * right.units - left.units * 10 ^ maxScale : ℚ)| ≤
      right.units := by
    zify at near
    rw [abs_of_pos positive] at near
    exact_mod_cast near
  have difference : quotient.toRat - left.toRat / right.toRat =
      (quotient.units * right.units - left.units * 10 ^ maxScale) /
        (right.units * 10 ^ maxScale) := by
    unfold toRat
    field_simp
  rw [difference, abs_div, abs_of_pos (mul_pos rightPos unitPos), div_div,
    div_le_div_iff₀ (mul_pos rightPos unitPos) (mul_pos two_pos unitPos)]
  calc
    |(quotient.units * right.units - left.units * 10 ^ maxScale : ℚ)| * (2 * 10 ^ maxScale) =
        2 * |(quotient.units * right.units - left.units * 10 ^ maxScale : ℚ)| *
          10 ^ maxScale := by ring
    _ ≤ right.units * 10 ^ maxScale := mul_le_mul_of_nonneg_right gap unitPos.le
    _ = 1 * (right.units * 10 ^ maxScale) := (one_mul _).symm

end Decimal

namespace Rate

/-- The ratio to a number above zero of one that lies between nothing and that number. -/
theorem exists_ratio? {left right : Decimal} (nonneg : 0 ≤ left.units)
    (atMost : left.units ≤ right.units) (positive : 0 < right.units) :
    ∃ rate, ratio? left right = some rate ∧ rate.IsPortion ∧
      2 * (rate.decimal.units * right.units - left.units * 10 ^ Decimal.maxScale).natAbs ≤
        right.units.natAbs := by
  obtain ⟨quotient, divided, quotientNonneg, le_one, near⟩ :=
    Decimal.exists_div?_of_le nonneg atMost positive
  exact ⟨⟨quotient⟩, by rw [ratio?, divided]; rfl, isPortion_iff.mpr ⟨quotientNonneg, le_one⟩, near⟩

/-- One share of some equal shares is the ratio of one to their number. -/
theorem ratio?_oneOver {count : UInt32} (some : count ≠ 0) :
    ratio? (.ofUInt32 1) (.ofUInt32 count) = .some (oneOver count) ∧ (oneOver count).IsPortion ∧
      2 * ((oneOver count).decimal.units * (Decimal.ofUInt32 count).units -
        (Decimal.ofUInt32 1).units * 10 ^ Decimal.maxScale).natAbs ≤
          (Decimal.ofUInt32 count).units.natAbs := by
  have one : 1 ≤ count.toNat := toNat_pos_of_ne_zero some
  have oneUnits : (Decimal.ofUInt32 1).units = 10 ^ Decimal.maxScale := by decide
  have atMost : (Decimal.ofUInt32 1).units ≤ (Decimal.ofUInt32 count).units := by
    rw [oneUnits, Decimal.units_ofUInt32]
    exact_mod_cast Nat.le_mul_of_pos_left (10 ^ Decimal.maxScale) one
  have positive : 0 < (Decimal.ofUInt32 1).units := by decide
  obtain ⟨rate, ratioEq, isPortion, near⟩ :=
    exists_ratio? (Int.le_of_lt positive) atMost (Int.lt_of_lt_of_le positive atMost)
  have found : oneOver count = rate := by
    show (ratio? (.ofUInt32 1) (.ofUInt32 count)).getD zero = rate
    rw [ratioEq, Option.getD_some]
  rw [found]
  exact ⟨ratioEq, isPortion, near⟩

theorem oneOver_isPortion (count : UInt32) : (oneOver count).IsPortion := by
  by_cases none : count = 0
  · subst none
    decide
  · exact (ratio?_oneOver none).2.1

theorem oneOver_one : (oneOver 1).decimal ≈ Decimal.one := by
  decide +kernel

theorem oneOver_near {count : UInt32} (some : count ≠ 0) :
    2 * ((oneOver count).decimal.units * count.toNat - 10 ^ Decimal.maxScale).natAbs ≤
      count.toNat := by
  obtain ⟨_, _, near⟩ := ratio?_oneOver some
  have oneUnits : (Decimal.ofUInt32 1).units = 10 ^ Decimal.maxScale := by decide
  rw [oneUnits, Decimal.units_ofUInt32, ← Int.mul_assoc, ← Int.sub_mul, Int.natAbs_mul,
    Int.natAbs_mul, ← Nat.mul_assoc] at near
  exact Nat.le_of_mul_le_mul_right near (by decide)

/-- The ratio of a number to one that is above zero and at least as large is a portion, and so is
one share of any number of equal shares.  Both miss the exact quotient by half a unit of the 28th
decimal place at most. -/
theorem ratios_accurate :
    (∀ left right : Decimal, Decimal.zero ≤ left → left ≤ right → Decimal.zero < right →
      ∃ rate, ratio? left right = some rate ∧ rate.IsPortion ∧
        |rate.decimal.toRat - left.toRat / right.toRat| ≤ 1 / 2 / 10 ^ Decimal.maxScale) ∧
    ∀ count : UInt32, count ≠ 0 → (oneOver count).IsPortion ∧
      |(oneOver count).decimal.toRat - 1 / count.toNat| ≤ 1 / 2 / 10 ^ Decimal.maxScale := by
  constructor
  · intro left right nonneg atMost positive
    rw [Decimal.le_def, Decimal.units_zero] at nonneg
    rw [Decimal.lt_def, Decimal.units_zero] at positive
    obtain ⟨rate, ratioEq, isPortion, near⟩ := exists_ratio? nonneg atMost positive
    exact ⟨rate, ratioEq, isPortion, Decimal.abs_toRat_sub_le positive near⟩
  · intro count some
    obtain ⟨_, isPortion, near⟩ := ratio?_oneOver some
    have positive : 0 < (Decimal.ofUInt32 count).units := by
      rw [Decimal.units_ofUInt32]
      exact_mod_cast Nat.mul_pos (toNat_pos_of_ne_zero some) (by decide)
    have accurate := Decimal.abs_toRat_sub_le positive near
    rw [Decimal.toRat_ofUInt32, Decimal.toRat_ofUInt32] at accurate
    exact ⟨isPortion, by exact_mod_cast accurate⟩

/-- The smallest amount over the largest one, and a third. -/
theorem ratios_accurate_smallest :
    let smallest := Decimal.ofDigits false 1 28
    let largest : Decimal := ⟨false, 2 ^ 96 - 1, 0, by decide, by decide⟩
    Decimal.zero ≤ smallest ∧ smallest ≤ largest ∧ Decimal.zero < largest ∧ (3 : UInt32) ≠ 0 ∧
      (∃ rate, ratio? smallest largest = some rate ∧ rate.IsPortion ∧
        |rate.decimal.toRat - smallest.toRat / largest.toRat| ≤ 1 / 2 / 10 ^ Decimal.maxScale) ∧
      (oneOver 3).IsPortion ∧
      |(oneOver 3).decimal.toRat - 1 / (3 : UInt32).toNat| ≤ 1 / 2 / 10 ^ Decimal.maxScale := by
  intro smallest largest
  have nonneg : Decimal.zero ≤ smallest := by decide
  have atMost : smallest ≤ largest := by decide +kernel
  have positive : Decimal.zero < largest := by decide +kernel
  have three : (3 : UInt32) ≠ 0 := by decide
  exact ⟨nonneg, atMost, positive, three,
    ratios_accurate.1 smallest largest nonneg atMost positive, ratios_accurate.2 3 three⟩

end Rate

end LoanBook
