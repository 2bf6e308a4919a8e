import LoanBook.Decimal.Arithmetic
import LoanBook.Proofs.Rounding.Nearest

/-!
# Fitting numbers into decimals

An exact number is fitted with as many decimal places as the 96 bits allow.  What is written with
few enough digits is kept; anything below a decimal stays below it; and the result depends on the
number only, not on how many places it is written with.
-/

namespace LoanBook.Decimal

open Rounding

/-- The number denoted without its sign, counted in units of `10 ^ -28`. -/
def magnitude (value : Decimal) : Nat :=
  value.mantissa * 10 ^ (maxScale - value.scale)

theorem units_eq_magnitude (value : Decimal) :
    value.units = if value.negative then -(value.magnitude : Int) else value.magnitude := by
  unfold units signed magnitude
  split <;> push_cast <;> ring

theorem natAbs_units (value : Decimal) : value.units.natAbs = value.magnitude := by
  rw [units_eq_magnitude]
  split <;> omega

theorem units_of_nonneg {value : Decimal} (nonneg : 0 ≤ value.units) :
    value.units = value.magnitude := by
  rw [← natAbs_units]
  omega

theorem units_of_not_negative {value : Decimal} (sign : value.negative = false) :
    value.units = value.magnitude := by
  rw [units_eq_magnitude, if_neg (by simp [sign])]

theorem magnitude_eq_zero_iff {value : Decimal} : value.magnitude = 0 ↔ value.mantissa = 0 := by
  have positive : 0 < 10 ^ (maxScale - value.scale) := Nat.pow_pos (by decide)
  unfold magnitude
  constructor
  · intro zero
    rcases Nat.mul_eq_zero.mp zero with mantissa | power
    · exact mantissa
    · omega
  · intro mantissa
    rw [mantissa, Nat.zero_mul]

theorem isZero_iff {value : Decimal} : value.isZero = true ↔ value.units = 0 := by
  rw [← Int.natAbs_eq_zero, natAbs_units, magnitude_eq_zero_iff, isZero, beq_iff_eq]

theorem isPositive_iff {value : Decimal} : value.isPositive = true ↔ 0 < value.units := by
  rw [isPositive, decide_eq_true_eq, lt_def, units_zero]

theorem not_negative_of_pos {value : Decimal} (positive : 0 < value.units) :
    value.negative = false := by
  cases sign : value.negative with
  | false => rfl
  | true =>
      rw [units_eq_magnitude, if_pos sign] at positive
      omega

theorem pow_sub_eq_mul {low middle high : Nat} (lowLe : low ≤ middle) (middleLe : middle ≤ high) :
    10 ^ (high - low) = 10 ^ (middle - low) * 10 ^ (high - middle) := by
  rw [← Nat.pow_add]
  congr 1
  omega

/-- The minor units of a number with few enough places. -/
theorem magnitude_eq_mul {value : Decimal} {places : Nat} (short : value.scale ≤ places)
    (placesLe : places ≤ maxScale) :
    value.magnitude = value.mantissa * 10 ^ (places - value.scale) * 10 ^ (maxScale - places) := by
  rw [magnitude, pow_sub_eq_mul short placesLe, Nat.mul_assoc]

theorem mantissa_le_of_magnitude_le {value : Decimal} {whole : Nat}
    (bound : value.magnitude ≤ whole * 10 ^ maxScale) :
    value.mantissa ≤ whole * 10 ^ value.scale := by
  rw [magnitude, ← pow_mul_pow_sub 10 value.scale_le, ← Nat.mul_assoc] at bound
  exact Nat.le_of_mul_le_mul_right bound (Nat.pow_pos (by decide))

/-- A decimal is what `± mantissa / 10 ^ scale` rounds to at the decimal's own scale. -/
structure IsFit (negative : Bool) (mantissa scale : Nat) (value : Decimal) : Prop where
  negative_eq : value.negative = negative
  scale_le_min : value.scale ≤ min scale maxScale
  mantissa_eq : value.mantissa = halfEven mantissa (10 ^ (scale - value.scale))

variable {negative : Bool} {mantissa scale places low whole : Nat}

theorem fitBelow_eq_some (placesLe : places ≤ maxScale)
    (fits : halfEven mantissa (10 ^ (scale - places)) < mantissaBound) :
    fitBelow negative mantissa scale places =
      some ⟨negative, halfEven mantissa (10 ^ (scale - places)), places, fits, placesLe⟩ := by
  cases places with
  | zero => exact ofParts?_eq_some fits placesLe
  | succ places =>
      unfold fitBelow
      rw [ofParts?_eq_some fits placesLe]

theorem fitBelow_succ_of_le
    (outgrows : mantissaBound ≤ halfEven mantissa (10 ^ (scale - (places + 1)))) :
    fitBelow negative mantissa scale (places + 1) = fitBelow negative mantissa scale places := by
  have none : ofParts? negative (halfEven mantissa (10 ^ (scale - (places + 1)))) (places + 1) =
      none := by
    apply dif_neg
    omega
  rw [fitBelow, none]

theorem fitBelow_zero_of_le (outgrows : mantissaBound ≤ halfEven mantissa (10 ^ (scale - 0))) :
    fitBelow negative mantissa scale 0 = none := by
  apply dif_neg
  intro inRange
  exact Nat.not_le_of_lt inRange.1 outgrows

theorem exists_fitBelow (lowLe : low ≤ places) (placesLe : places ≤ maxScale)
    (fits : halfEven mantissa (10 ^ (scale - low)) < mantissaBound) :
    ∃ value, fitBelow negative mantissa scale places = some value ∧
      low ≤ value.scale ∧ value.scale ≤ places ∧ value.negative = negative ∧
      value.mantissa = halfEven mantissa (10 ^ (scale - value.scale)) := by
  induction places with
  | zero =>
      have same : low = 0 := Nat.le_zero.mp lowLe
      subst same
      exact ⟨_, fitBelow_eq_some placesLe fits, Nat.le_refl _, Nat.le_refl _, rfl, rfl⟩
  | succ places ih =>
      by_cases fitsHere : halfEven mantissa (10 ^ (scale - (places + 1))) < mantissaBound
      · exact ⟨_, fitBelow_eq_some placesLe fitsHere, lowLe, Nat.le_refl _, rfl, rfl⟩
      · have below : low ≤ places := by
          by_contra above
          have same : low = places + 1 := by omega
          exact fitsHere (same ▸ fits)
        obtain ⟨value, found, atLeast, atMost, parts⟩ := ih below (by omega)
        rw [fitBelow_succ_of_le (Nat.le_of_not_lt fitsHere)]
        exact ⟨value, found, atLeast, by omega, parts⟩

/-- What fits with some places is fitted with at least as many. -/
theorem exists_fit? (lowLe : low ≤ min scale maxScale)
    (fits : halfEven mantissa (10 ^ (scale - low)) < mantissaBound) :
    ∃ value, fit? negative mantissa scale = some value ∧ low ≤ value.scale ∧
      IsFit negative mantissa scale value := by
  obtain ⟨value, found, atLeast, atMost, sign, digits⟩ :=
    @exists_fitBelow negative _ _ _ _ lowLe (Nat.min_le_right _ _) fits
  exact ⟨value, found, atLeast, sign, atMost, digits⟩

theorem parts_of_fitBelow {value : Decimal} (placesLe : places ≤ maxScale)
    (found : fitBelow negative mantissa scale places = some value) :
    value.negative = negative ∧ value.scale ≤ places ∧
      value.mantissa = halfEven mantissa (10 ^ (scale - value.scale)) := by
  induction places with
  | zero =>
      by_cases fits : halfEven mantissa (10 ^ (scale - 0)) < mantissaBound
      · rw [fitBelow_eq_some placesLe fits] at found
        cases found
        exact ⟨rfl, Nat.le_refl _, rfl⟩
      · rw [fitBelow_zero_of_le (Nat.le_of_not_lt fits)] at found
        cases found
  | succ places ih =>
      by_cases fits : halfEven mantissa (10 ^ (scale - (places + 1))) < mantissaBound
      · rw [fitBelow_eq_some placesLe fits] at found
        cases found
        exact ⟨rfl, Nat.le_refl _, rfl⟩
      · rw [fitBelow_succ_of_le (Nat.le_of_not_lt fits)] at found
        obtain ⟨sign, atMost, digits⟩ := ih (by omega) found
        exact ⟨sign, by omega, digits⟩

theorem isFit_of_fit? {value : Decimal} (found : fit? negative mantissa scale = some value) :
    IsFit negative mantissa scale value := by
  obtain ⟨sign, atMost, digits⟩ := parts_of_fitBelow (Nat.min_le_right _ _) found
  exact ⟨sign, atMost, digits⟩

/-- What is written with few enough digits and places is kept. -/
theorem fit?_eq_some (mantissa_lt : mantissa < mantissaBound) (scale_le : scale ≤ maxScale) :
    fit? negative mantissa scale = some ⟨negative, mantissa, scale, mantissa_lt, scale_le⟩ := by
  have same : halfEven mantissa (10 ^ (scale - scale)) = mantissa := by
    rw [Nat.sub_self, Nat.pow_zero, halfEven_one]
  have fits : halfEven mantissa (10 ^ (scale - scale)) < mantissaBound := by
    rw [same]
    exact mantissa_lt
  rw [fit?, Nat.min_eq_left scale_le, fitBelow_eq_some scale_le fits]
  simp only [same]

/-- A number between decimals of some scale stays between them when it is fitted. -/
theorem exists_fit?_of_le_mul (lowLe : low ≤ min scale maxScale) (whole_lt : whole < mantissaBound)
    (bound : mantissa ≤ whole * 10 ^ (scale - low)) :
    ∃ value, fit? negative mantissa scale = some value ∧ low ≤ value.scale ∧
      IsFit negative mantissa scale value ∧ value.magnitude ≤ whole * 10 ^ (maxScale - low) := by
  have positive (exponent : Nat) : 0 < 10 ^ exponent := Nat.pow_pos (by decide)
  have fits : halfEven mantissa (10 ^ (scale - low)) < mantissaBound :=
    Nat.lt_of_le_of_lt (halfEven_le_of_le_mul (positive _) bound) whole_lt
  obtain ⟨value, found, atLeast, isFit⟩ := @exists_fit? negative _ _ _ lowLe fits
  have atMost := isFit.scale_le_min
  refine ⟨value, found, atLeast, isFit, ?_⟩
  have digits : value.mantissa ≤ whole * 10 ^ (value.scale - low) := by
    rw [isFit.mantissa_eq]
    apply halfEven_le_of_le_mul (positive _)
    rwa [Nat.mul_assoc, ← pow_sub_eq_mul atLeast (by omega)]
  calc
    value.magnitude ≤ whole * 10 ^ (value.scale - low) * 10 ^ (maxScale - value.scale) :=
      Nat.mul_le_mul_right _ digits
    _ = whole * 10 ^ (maxScale - low) := by
      rw [pow_sub_eq_mul atLeast value.scale_le, Nat.mul_assoc]

theorem IsFit.mul_le_magnitude {value : Decimal} (isFit : IsFit negative mantissa scale value)
    (atLeast : low ≤ value.scale) (bound : whole * 10 ^ (scale - low) ≤ mantissa) :
    whole * 10 ^ (maxScale - low) ≤ value.magnitude := by
  have atMost := isFit.scale_le_min
  have digits : whole * 10 ^ (value.scale - low) ≤ value.mantissa := by
    rw [isFit.mantissa_eq]
    apply le_halfEven_of_mul_le (Nat.pow_pos (by decide))
    rwa [Nat.mul_assoc, ← pow_sub_eq_mul atLeast (by omega)]
  calc
    whole * 10 ^ (maxScale - low) =
        whole * 10 ^ (value.scale - low) * 10 ^ (maxScale - value.scale) := by
      rw [pow_sub_eq_mul atLeast value.scale_le, Nat.mul_assoc]
    _ ≤ value.magnitude := Nat.mul_le_mul_right _ digits

/-- Fitting a number with at least as many places as it has, or as are asked for, misses it by half
a unit of the last place asked for at most.  The distance is in units of the square of the last
place that a decimal can have. -/
theorem IsFit.near {value : Decimal} (isFit : IsFit negative mantissa scale value)
    (scaleLe : scale ≤ maxScale + maxScale) (atLeast : min scale low ≤ value.scale) :
    2 * ((value.magnitude * 10 ^ maxScale : Nat) -
        (mantissa * 10 ^ (maxScale + maxScale - scale) : Nat) : Int).natAbs ≤
      10 ^ (maxScale + maxScale - low) := by
  have atMost := isFit.scale_le_min
  have raised : value.mantissa * 10 ^ (scale - value.scale) * 10 ^ (maxScale + maxScale - scale) =
      value.magnitude * 10 ^ maxScale := by
    rw [magnitude, Nat.mul_assoc, ← Nat.pow_add, Nat.mul_assoc, ← Nat.pow_add]
    congr 2
    omega
  by_cases kept : value.scale = scale
  · have same : value.mantissa = mantissa := by
      rw [isFit.mantissa_eq, kept, Nat.sub_self, Nat.pow_zero, halfEven_one]
    rw [kept, Nat.sub_self, Nat.pow_zero, Nat.mul_one, same] at raised
    rw [← raised, Int.sub_self]
    exact Nat.zero_le _
  · have powerPos : 0 < 10 ^ (scale - value.scale) := Nat.pow_pos (by decide)
    have above := Nat.mul_le_mul_right (10 ^ (maxScale + maxScale - scale))
      (@two_mul_halfEven_mul_le mantissa _ powerPos)
    have below := Nat.mul_le_mul_right (10 ^ (maxScale + maxScale - scale))
      (@le_two_mul_halfEven_mul mantissa _ powerPos)
    rw [← isFit.mantissa_eq, Nat.add_mul, Nat.mul_assoc 2, Nat.mul_assoc 2, raised,
      ← Nat.pow_add] at above below
    refine Nat.le_trans (two_mul_natAbs_sub_le above below) ?_
    apply Nat.pow_le_pow_right (by decide)
    omega

/-- Below the places that a number is written with, more of them make no difference. -/
theorem fitBelow_mul_pow (more : Nat) (placesLe : places ≤ scale) :
    fitBelow negative (mantissa * 10 ^ more) (scale + more) places =
      fitBelow negative mantissa scale places := by
  have positive : 0 < 10 ^ more := Nat.pow_pos (by decide)
  have rounds (count : Nat) (countLe : count ≤ scale) :
      halfEven (mantissa * 10 ^ more) (10 ^ (scale + more - count)) =
        halfEven mantissa (10 ^ (scale - count)) := by
    have exponent : scale + more - count = scale - count + more := by omega
    rw [exponent, Nat.pow_add, halfEven_mul_mul positive]
  induction places with
  | zero =>
      have same := rounds 0 placesLe
      rw [Nat.sub_zero, Nat.sub_zero] at same
      rw [fitBelow, fitBelow, same]
  | succ places ih =>
      rw [fitBelow, fitBelow, rounds _ placesLe, ih (by omega)]

/-- What a number is fitted to does not depend on how many places it is written with. -/
theorem fit?_mul_pow (more : Nat) :
    (fit? negative (mantissa * 10 ^ more) (scale + more)).map units =
      (fit? negative mantissa scale).map units := by
  by_cases exact : mantissa < mantissaBound ∧ scale ≤ maxScale
  · obtain ⟨mantissa_lt, scale_le⟩ := exact
    have upper : mantissa * 10 ^ more ≤ mantissa * 10 ^ (scale + more - scale) := by
      rw [Nat.add_sub_cancel_left]
    have lower : mantissa * 10 ^ (scale + more - scale) ≤ mantissa * 10 ^ more := by
      rw [Nat.add_sub_cancel_left]
    obtain ⟨value, found, atLeast, isFit, atMost⟩ :=
      @exists_fit?_of_le_mul negative _ (scale + more) _ _ (by omega) mantissa_lt upper
    have same : value.magnitude = mantissa * 10 ^ (maxScale - scale) :=
      Nat.le_antisymm atMost (isFit.mul_le_magnitude atLeast lower)
    rw [found, fit?_eq_some mantissa_lt scale_le, Option.map_some, Option.map_some,
      units_eq_magnitude, units_eq_magnitude, same, isFit.negative_eq]
    rfl
  · have descends (count : Nat) (countLe : count ≤ min (scale + more) maxScale)
        (above : min scale maxScale ≤ count) :
        fitBelow negative (mantissa * 10 ^ more) (scale + more) count =
          fitBelow negative (mantissa * 10 ^ more) (scale + more) (min scale maxScale) := by
      induction count with
      | zero => rw [Nat.le_zero.mp above]
      | succ count ih =>
          by_cases here : min scale maxScale = count + 1
          · rw [here]
          · rw [fitBelow_succ_of_le, ih (by omega) (by omega)]
            -- past its own places a number that is too long only gets longer
            have long : mantissaBound ≤ mantissa := by omega
            have exponent : 10 ^ more =
                10 ^ (count + 1 - scale) * 10 ^ (scale + more - (count + 1)) := by
              rw [← Nat.pow_add]
              congr 1
              omega
            rw [exponent, ← Nat.mul_assoc, halfEven_mul_right (Nat.pow_pos (by decide))]
            exact Nat.le_trans long (Nat.le_mul_of_pos_right _ (Nat.pow_pos (by decide)))
    rw [fit?, descends _ (Nat.le_refl _) (by omega),
      fitBelow_mul_pow more (Nat.min_le_left _ _), fit?]

/-- A mantissa that outgrows 96 bits is, with one place less, above a tenth of their bound. -/
theorem tenth_lt_halfEven_of_outgrown (placesLt : places < scale)
    (outgrows : mantissaBound ≤ halfEven mantissa (10 ^ (scale - (places + 1)))) :
    mantissaBound < 10 * halfEven mantissa (10 ^ (scale - places)) := by
  have exponent : scale - places = scale - (places + 1) + 1 := by omega
  have power : 10 ^ (scale - places) = 10 * 10 ^ (scale - (places + 1)) := by
    rw [exponent, Nat.pow_succ, Nat.mul_comm]
  have positive : 0 < 10 ^ (scale - (places + 1)) := Nat.pow_pos (by decide)
  have fine := @two_mul_halfEven_mul_le mantissa _ positive
  have coarse := @le_two_mul_halfEven_mul mantissa (10 ^ (scale - places)) (by omega)
  rw [power] at coarse ⊢
  generalize 10 ^ (scale - (places + 1)) = unit at positive fine coarse outgrows ⊢
  generalize halfEven mantissa (10 * unit) = rounded at coarse ⊢
  have large := Nat.mul_le_mul_right unit outgrows
  simp only [mantissaBound] at large ⊢
  -- the bound ends in a digit above five, so a tenth of it is rounded up
  by_contra small
  have few : rounded ≤ 2 ^ 96 / 10 := by omega
  have product := Nat.mul_le_mul_right (10 * unit) few
  omega

theorem mantissa_pos_of_fitBelow {value : Decimal} (placesLe : places ≤ scale)
    (scale_le : scale ≤ maxScale) (large : 0 < halfEven mantissa (10 ^ (scale - places)))
    (found : fitBelow negative mantissa scale places = some value) : 0 < value.mantissa := by
  induction places with
  | zero =>
      by_cases fits : halfEven mantissa (10 ^ (scale - 0)) < mantissaBound
      · rw [fitBelow_eq_some (Nat.zero_le _) fits] at found
        cases found
        exact large
      · rw [fitBelow_zero_of_le (Nat.le_of_not_lt fits)] at found
        cases found
  | succ places ih =>
      by_cases fits : halfEven mantissa (10 ^ (scale - (places + 1))) < mantissaBound
      · rw [fitBelow_eq_some (Nat.le_trans placesLe scale_le) fits] at found
        cases found
        exact large
      · have outgrows := Nat.le_of_not_lt fits
        rw [fitBelow_succ_of_le outgrows] at found
        have tenth := tenth_lt_halfEven_of_outgrown placesLe outgrows
        exact ih (by omega) (by omega) found

/-- A number above zero with at most 28 places is fitted to a decimal above zero. -/
theorem mantissa_pos_of_fit? {value : Decimal} (positive : 0 < mantissa)
    (scale_le : scale ≤ maxScale) (found : fit? negative mantissa scale = some value) :
    0 < value.mantissa := by
  rw [fit?, Nat.min_eq_left scale_le] at found
  apply mantissa_pos_of_fitBelow (Nat.le_refl scale) scale_le _ found
  rw [Nat.sub_self, Nat.pow_zero, halfEven_one]
  exact positive

end LoanBook.Decimal
