import LoanBook.Proofs.Decimal.Order

/-!
# How far a product is off

A product misses the exact one by half a unit of the last place that it is left with: by half a unit
of `10 ^ -28`, or by a small share of itself.  So a product that should be a little below a decimal
can be equal to it, and this file says when it is.
-/

namespace LoanBook.Decimal

open Rounding

section Fit

variable {negative : Bool} {mantissa scale even : Nat} {value : Decimal}

/-- A fitted number misses the exact one by half a unit of `10 ^ -28` at most, or by half of what its
last digit of 96 bits can stand for. -/
theorem near_of_fit? (scaleLe : scale ≤ maxScale + maxScale)
    (found : fit? negative mantissa scale = some value) :
    2 * ((value.magnitude * 10 ^ maxScale : Nat) -
        (mantissa * 10 ^ (maxScale + maxScale - scale) : Nat) : Int).natAbs ≤ 10 ^ maxScale ∨
      2 * ((value.magnitude * 10 ^ maxScale : Nat) -
        (mantissa * 10 ^ (maxScale + maxScale - scale) : Nat) : Int).natAbs * mantissaBound ≤
          10 * value.magnitude * 10 ^ maxScale := by
  have isFit := isFit_of_fit? found
  have atMost := isFit.scale_le_min
  by_cases shorter : value.scale < min scale maxScale
  · right
    have beyond := mantissaBound_mul_lt_of_fit? found shorter
    have near := isFit.near scaleLe (Nat.min_le_right scale value.scale)
    have exponent : maxScale + maxScale - value.scale = maxScale - value.scale + maxScale := by
      omega
    rw [exponent, Nat.pow_add] at near
    calc
      _ ≤ 10 ^ (maxScale - value.scale) * 10 ^ maxScale * mantissaBound :=
        Nat.mul_le_mul_right mantissaBound near
      _ = mantissaBound * 10 ^ (maxScale - value.scale) * 10 ^ maxScale := by ring
      _ ≤ 10 * value.magnitude * 10 ^ maxScale := Nat.mul_le_mul_right _ (Nat.le_of_lt beyond)
  · left
    have near := isFit.near scaleLe (show min scale maxScale ≤ value.scale by omega)
    rwa [Nat.add_sub_cancel] at near

/-- A number at most half a unit below an even number of units that 96 bits hold is not fitted
below it. -/
theorem le_magnitude_of_fit?_of_even (scaleLe : scale ≤ maxScale + maxScale)
    (isEven : even % 2 = 0) (fits : even ≤ mantissaBound)
    (close : 2 * (even * 10 ^ maxScale) ≤
      2 * (mantissa * 10 ^ (maxScale + maxScale - scale)) + 10 ^ maxScale)
    (found : fit? negative mantissa scale = some value) : even ≤ value.magnitude := by
  have isFit := isFit_of_fit? found
  have atMost := isFit.scale_le_min
  by_cases shorter : value.scale < min scale maxScale
  · have beyond := mantissaBound_mul_lt_of_fit? found shorter
    have power : 10 ≤ 10 ^ (maxScale - value.scale) :=
      Nat.le_self_pow (by omega) 10
    have large := Nat.mul_le_mul_left mantissaBound power
    omega
  · rcases Nat.le_total scale maxScale with short | long
    · have kept : value.scale = scale := by omega
      have exact : value.magnitude * 10 ^ maxScale =
          mantissa * 10 ^ (maxScale + maxScale - scale) := by
        rw [magnitude_mul_pow, isFit.mantissa_eq, kept, Nat.sub_self, Nat.pow_zero, halfEven_one]
      rw [← exact] at close
      simp only [maxScale] at close
      omega
    · have full : value.scale = maxScale := by omega
      have power := mul_pow_eq scaleLe long
      rw [Nat.add_sub_cancel] at power
      rw [power, ← Nat.mul_assoc, ← Nat.mul_assoc, ← Nat.mul_assoc, ← Nat.add_mul] at close
      rw [magnitude, full, Nat.sub_self, Nat.pow_zero, Nat.mul_one, isFit.mantissa_eq, full]
      apply le_halfEven_of_even (Nat.pow_pos (by decide)) isEven
      rw [← Nat.mul_assoc]
      exact Nat.le_of_mul_le_mul_right close (Nat.pow_pos (by decide))

end Fit

/-- Half a unit of a place above some whole ones is a decimal, and with two places more an even
number of units. -/
theorem exists_half {places whole : Nat} (few : places + 2 ≤ maxScale)
    (digits : (2 * whole + 1) * 5 < mantissaBound) :
    ∃ half : Decimal, 0 < half.units ∧ half.units % 2 = 0 ∧
      2 * half.units = (2 * whole + 1) * 10 ^ (maxScale - places) := by
  have next : maxScale - places = maxScale - (places + 1) + 1 := by omega
  have second : maxScale - (places + 1) = maxScale - (places + 2) + 1 := by omega
  refine ⟨⟨false, (2 * whole + 1) * 5, places + 1, digits, by omega⟩, ?_, ?_, ?_⟩
  all_goals
    rw [units_of_not_negative rfl, magnitude]
    dsimp only
  · exact_mod_cast Nat.mul_pos (by omega) (Nat.pow_pos (by decide))
  · rw [second, Nat.pow_succ, ← Nat.mul_assoc]
    omega
  · rw [next, Int.pow_succ]
    push_cast
    ring

section Product

variable {left right product limit half : Decimal}

/-- A product is not below a decimal that the exact product is not below. -/
theorem le_units_of_mul? (nonneg : 0 ≤ left.units) (rightNonneg : 0 ≤ right.units)
    (limitNonneg : 0 ≤ limit.units)
    (bound : limit.units * 10 ^ maxScale ≤ left.units * right.units)
    (multiplied : left.mul? right = some product) : limit.units ≤ product.units := by
  obtain ⟨whole, wholeMultiplied, _, _, same⟩ :=
    exists_mul?_portion limitNonneg (show 0 ≤ one.units by decide) (Int.le_of_eq units_one)
  rw [← same units_one]
  exact units_le_of_mul? limitNonneg (by decide) nonneg rightNonneg (by rwa [units_one])
    wholeMultiplied multiplied

/-- A product of amounts not below zero misses the exact one by half a unit of `10 ^ -28` at most, or
by half of what its last digit of 96 bits can stand for. -/
theorem near_of_mul? (nonneg : 0 ≤ left.units) (rightNonneg : 0 ≤ right.units)
    (multiplied : left.mul? right = some product) :
    2 * (product.units * 10 ^ maxScale - left.units * right.units).natAbs ≤ 10 ^ maxScale ∨
      2 * (product.units * 10 ^ maxScale - left.units * right.units).natAbs * mantissaBound ≤
        10 * product.units.natAbs * 10 ^ maxScale := by
  by_cases none : left.units * right.units = 0
  · left
    rw [none, units_of_mul?_of_zero none multiplied]
    exact Nat.zero_le _
  · obtain ⟨fitted, found, same⟩ := exists_fit?_of_mul? nonneg rightNonneg none multiplied
    have near := near_of_fit? (Nat.add_le_add left.scale_le right.scale_le) found
    rw [← magnitude_mul_magnitude] at near
    rw [same, units_of_nonneg nonneg, units_of_nonneg rightNonneg, Int.natAbs_natCast]
    exact_mod_cast near

/-- A product at most half a unit of `10 ^ -28` below a decimal, an even number of units that 96 bits
hold, is not below the decimal. -/
theorem le_units_of_mul?_of_even (nonneg : 0 ≤ left.units) (rightNonneg : 0 ≤ right.units)
    (productPos : 0 < left.units * right.units) (halfNonneg : 0 ≤ half.units)
    (isEven : half.units % 2 = 0) (fits : half.units ≤ mantissaBound)
    (close : 2 * (half.units * 10 ^ maxScale) ≤ 2 * (left.units * right.units) + 10 ^ maxScale)
    (multiplied : left.mul? right = some product) : half.units ≤ product.units := by
  obtain ⟨fitted, found, same⟩ := exists_fit?_of_mul? nonneg rightNonneg (by omega) multiplied
  rw [units_of_nonneg nonneg, units_of_nonneg rightNonneg, units_of_nonneg halfNonneg] at close
  have digits : 2 * (half.magnitude * 10 ^ maxScale) ≤
      2 * (left.magnitude * right.magnitude) + 10 ^ maxScale := by
    exact_mod_cast close
  rw [magnitude_mul_magnitude] at digits
  rw [units_of_nonneg halfNonneg] at isEven fits ⊢
  rw [same]
  exact_mod_cast le_magnitude_of_fit?_of_even (Nat.add_le_add left.scale_le right.scale_le)
    (by omega) (by exact_mod_cast fits) digits found

/-- A product that should be a decimal less some `10 ^ -28`ths of it, an even number of units, is
below the decimal exactly when it should be so by more than half a unit. -/
theorem units_lt_of_mul?_iff {gap : Int} (nonneg : 0 ≤ left.units) (rightNonneg : 0 ≤ right.units)
    (halfPos : 0 < half.units) (isEven : half.units % 2 = 0)
    (exact : left.units * right.units = half.units * (10 ^ maxScale - gap))
    (multiplied : left.mul? right = some product) :
    product.units < half.units ↔ 10 ^ maxScale < 2 * half.units * gap := by
  constructor
  · contrapose!
    intro small
    rcases Int.lt_or_le 0 gap with below | above
    · have halfLe : 2 * half.units ≤ 2 * half.units * gap :=
        le_mul_of_one_le_right (by omega) below
      have gapLe : 2 * gap ≤ 2 * half.units * gap :=
        Int.mul_le_mul_of_nonneg_right (by omega) (Int.le_of_lt below)
      simp only [maxScale] at small
      refine le_units_of_mul?_of_even nonneg rightNonneg ?_ (Int.le_of_lt halfPos) isEven ?_ ?_
        multiplied
      · rw [exact]
        apply Int.mul_pos halfPos
        simp only [maxScale]
        omega
      · simp only [mantissaBound]
        omega
      · rw [exact]
        simp only [maxScale]
        linarith
    · refine le_units_of_mul? nonneg rightNonneg (Int.le_of_lt halfPos) ?_ multiplied
      rw [exact]
      exact Int.mul_le_mul_of_nonneg_left (by omega) (Int.le_of_lt halfPos)
  · intro large
    by_contra reached
    obtain ⟨excess, productUnits⟩ := Int.le.dest (Int.not_lt.mp reached)
    have excessNonneg : (0 : Int) ≤ excess := Int.natCast_nonneg excess
    have gapPos : 0 < gap := by
      have positive : 0 < 2 * half.units * gap := Int.lt_trans (by decide) large
      exact pos_of_mul_pos_right positive (by omega)
    have halfLe : half.units ≤ half.units * gap := le_mul_of_one_le_right (by omega) gapPos
    have missed : product.units * 10 ^ maxScale - left.units * right.units =
        half.units * gap + excess * 10 ^ maxScale := by
      rw [exact, ← productUnits]
      ring
    have near := near_of_mul? nonneg rightNonneg multiplied
    rw [missed, ← productUnits] at near
    rw [Int.mul_assoc] at large
    simp only [maxScale, mantissaBound] at near large
    omega

end Product

end LoanBook.Decimal
