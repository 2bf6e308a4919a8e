import LoanBook.Decimal.Quotient
import LoanBook.Proofs.Decimal.Products

/-!
# Quotients of at most one

The quotient of a number above zero by one at least as large always has room for all 28 places, so
it is computed, lies between nothing and one, and misses the exact quotient by half a unit of the
last place at most.
-/

namespace LoanBook.Decimal

open Rounding

/-- What a long division has found so far, over the divisor and in units of `10 ^ -28`. -/
def scaled (divisor quotient remainder : Nat) (scale : Int) : Nat :=
  (quotient * divisor + remainder) * 10 ^ (maxScale - scale).toNat

/-- A mantissa and a scale denote the quotient of a scaled number by a divisor, rounded to 28
places, and at most one. -/
structure IsQuotient (divisor number : Nat) (found : Nat × Nat) : Prop where
  scale_le : found.2 ≤ maxScale
  le_one : found.1 * 10 ^ (maxScale - found.2) ≤ 10 ^ maxScale
  above : 2 * (found.1 * 10 ^ (maxScale - found.2) * divisor) ≤ 2 * number + divisor
  below : 2 * number ≤ 2 * (found.1 * 10 ^ (maxScale - found.2) * divisor) + divisor

theorem room_eq_of_lt {quotient limit : Nat} (fits : quotient * 10 ^ limit < mantissaBound) :
    room quotient limit = limit := by
  cases limit with
  | zero => rfl
  | succ limit => rw [room, if_pos fits]

section LongDivision

variable {divisor quotient remainder : Nat} {scale : Int}

theorem quotient_mul_pow_le (divisorPos : 0 < divisor)
    (atMostOne : scaled divisor quotient remainder scale ≤ divisor * 10 ^ maxScale) :
    quotient * 10 ^ (maxScale - scale).toNat ≤ 10 ^ maxScale := by
  have bound : quotient * 10 ^ (maxScale - scale).toNat * divisor ≤ 10 ^ maxScale * divisor :=
    calc
      quotient * 10 ^ (maxScale - scale).toNat * divisor =
          quotient * divisor * 10 ^ (maxScale - scale).toNat := by ring
      _ ≤ (quotient * divisor + remainder) * 10 ^ (maxScale - scale).toNat :=
        Nat.mul_le_mul_right _ (Nat.le_add_right _ _)
      _ ≤ divisor * 10 ^ maxScale := atMostOne
      _ = 10 ^ maxScale * divisor := Nat.mul_comm _ _
  exact Nat.le_of_mul_le_mul_right bound divisorPos

/-- A step of long division keeps the number divided. -/
theorem scaled_extended {places : Nat} (placesLe : places ≤ (maxScale - scale).toNat) :
    scaled divisor (quotient * 10 ^ places + remainder * 10 ^ places / divisor)
        (remainder * 10 ^ places % divisor) (scale + places) =
      scaled divisor quotient remainder scale := by
  have expand := Nat.div_add_mod (remainder * 10 ^ places) divisor
  have exponent : (maxScale - scale).toNat = places + (maxScale - (scale + places)).toNat := by
    omega
  unfold scaled
  rw [exponent, Nat.pow_add, ← Nat.mul_assoc]
  congr 1
  calc
    (quotient * 10 ^ places + remainder * 10 ^ places / divisor) * divisor +
          remainder * 10 ^ places % divisor =
        quotient * divisor * 10 ^ places + (divisor * (remainder * 10 ^ places / divisor) +
          remainder * 10 ^ places % divisor) := by ring
    _ = (quotient * divisor + remainder) * 10 ^ places := by rw [expand]; ring

theorem settle?_isQuotient (divisorPos : 0 < divisor)
    (atMostOne : scaled divisor quotient remainder maxScale ≤ divisor * 10 ^ maxScale) :
    ∃ found, settle? divisor quotient remainder maxScale = some found ∧
      IsQuotient divisor (scaled divisor quotient remainder maxScale) found := by
  have number : scaled divisor quotient remainder maxScale = quotient * divisor + remainder := by
    rw [scaled, Int.sub_self]
    exact Nat.mul_one _
  have le_one : halfEven (quotient * divisor + remainder) divisor ≤ 10 ^ maxScale := by
    apply halfEven_le_of_le_mul divisorPos
    rw [number, Nat.mul_comm divisor] at atMostOne
    exact atMostOne
  have fits : halfEven (quotient * divisor + remainder) divisor < mantissaBound :=
    Nat.lt_of_le_of_lt le_one (by decide)
  refine ⟨(halfEven (quotient * divisor + remainder) divisor, maxScale), ?_, ?_⟩
  · simp only [settle?]
    rw [if_pos fits]
    rfl
  · rw [number]
    constructor
    · exact Nat.le_refl _
    · simpa using le_one
    · simpa using two_mul_halfEven_mul_le divisorPos
    · simpa using le_two_mul_halfEven_mul divisorPos

/-- A quotient of at most one that leaves nothing over has not gone past the point. -/
theorem scale_nonneg_of_exact (divisorPos : 0 < divisor)
    (positive : 0 < scaled divisor quotient 0 scale)
    (atMostOne : scaled divisor quotient 0 scale ≤ divisor * 10 ^ maxScale) : 0 ≤ scale := by
  by_contra below
  have one : 1 ≤ quotient := by
    apply Nat.pos_of_ne_zero
    intro none
    simp [scaled, none] at positive
  have large : 10 ^ (maxScale + 1) ≤ quotient * 10 ^ (maxScale - scale).toNat := by
    calc
      10 ^ (maxScale + 1) ≤ 10 ^ (maxScale - scale).toNat :=
        Nat.pow_le_pow_right (by decide) (by omega)
      _ ≤ quotient * 10 ^ (maxScale - scale).toNat := Nat.le_mul_of_pos_left _ one
  exact absurd (Nat.le_trans large (quotient_mul_pow_le divisorPos atMostOne)) (by decide)

theorem isQuotient_of_exact (divisorPos : 0 < divisor) (nonneg : 0 ≤ scale)
    (scaleLe : scale ≤ maxScale)
    (atMostOne : scaled divisor quotient 0 scale ≤ divisor * 10 ^ maxScale) :
    IsQuotient divisor (scaled divisor quotient 0 scale) (quotient, scale.toNat) := by
  have exponent : maxScale - scale.toNat = (maxScale - scale).toNat := by omega
  have number : scaled divisor quotient 0 scale =
      quotient * 10 ^ (maxScale - scale.toNat) * divisor := by
    rw [exponent, scaled]
    ring
  constructor
  · show scale.toNat ≤ maxScale
    omega
  · rw [exponent]
    exact quotient_mul_pow_le divisorPos atMostOne
  · rw [number]
    exact Nat.le_add_right _ _
  · rw [number]
    exact Nat.le_add_right _ _

/-- Long division finds the quotient of a number by a divisor that is not smaller. -/
theorem extend?_isQuotient (divisorPos : 0 < divisor) (inexact : Bool)
    (small : remainder < divisor) (scaleLe : scale ≤ maxScale)
    (positive : 0 < scaled divisor quotient remainder scale)
    (atMostOne : scaled divisor quotient remainder scale ≤ divisor * 10 ^ maxScale) :
    ∃ mantissa places met, extend? divisor quotient remainder scale inexact =
        some (mantissa, places, met) ∧
      IsQuotient divisor (scaled divisor quotient remainder scale) (mantissa, places) := by
  -- the places still to come bound the steps of the division
  induction fuel : (maxScale - scale).toNat using Nat.strong_induction_on
    generalizing quotient remainder scale inexact with
  | _ left ih =>
      unfold extend?
      by_cases exact : remainder = 0
      · subst exact
        have nonneg := scale_nonneg_of_exact divisorPos positive atMostOne
        rw [if_pos rfl, if_pos nonneg]
        exact ⟨quotient, scale.toNat, inexact, rfl,
          isQuotient_of_exact divisorPos nonneg scaleLe atMostOne⟩
      · rw [if_neg exact]
        have roomEq : room quotient (min 9 (maxScale - scale).toNat) =
            min 9 (maxScale - scale).toNat := by
          apply room_eq_of_lt
          have less : quotient * 10 ^ min 9 (maxScale - scale).toNat ≤
              quotient * 10 ^ (maxScale - scale).toNat :=
            Nat.mul_le_mul_left _ (Nat.pow_le_pow_right (by decide) (Nat.min_le_right _ _))
          exact Nat.lt_of_le_of_lt
            (Nat.le_trans less (quotient_mul_pow_le divisorPos atMostOne)) (by decide)
        simp only [roomEq]
        rw [if_neg (by omega)]
        by_cases done : min 9 (maxScale - scale).toNat = 0
        · have full : scale = maxScale := by omega
          subst full
          obtain ⟨found, settled, isQuotient⟩ := settle?_isQuotient divisorPos atMostOne
          rw [if_pos done, settled]
          exact ⟨found.1, found.2, true, rfl, isQuotient⟩
        · rw [if_neg done]
          have same := @scaled_extended divisor quotient remainder scale
            (min 9 (maxScale - scale).toNat) (Nat.min_le_right _ _)
          rw [← same] at positive atMostOne ⊢
          have bound := quotient_mul_pow_le divisorPos atMostOne
          have extendedLt : quotient * 10 ^ min 9 (maxScale - scale).toNat +
              remainder * 10 ^ min 9 (maxScale - scale).toNat / divisor < mantissaBound :=
            Nat.lt_of_le_of_lt
              (Nat.le_trans (Nat.le_mul_of_pos_right _ (Nat.pow_pos (by decide))) bound) (by decide)
          rw [if_pos extendedLt]
          exact ih _ (by omega) true (Nat.mod_lt _ divisorPos) (by omega) positive atMostOne rfl

end LongDivision

/-- Dropping zeros after the point does not change a quotient. -/
theorem IsQuotient.dropZeroBlock {divisor number places : Nat} {found : Nat × Nat}
    (isQuotient : IsQuotient divisor number found) :
    IsQuotient divisor number (dropZeroBlock places found) := by
  unfold Decimal.dropZeroBlock
  split
  · rename_i zeros
    obtain ⟨enough, divides⟩ := zeros
    have scaleLe := isQuotient.scale_le
    have same : found.1 / 10 ^ places * 10 ^ (maxScale - (found.2 - places)) =
        found.1 * 10 ^ (maxScale - found.2) := by
      have exponent : maxScale - (found.2 - places) = places + (maxScale - found.2) := by omega
      rw [exponent, Nat.pow_add, ← Nat.mul_assoc,
        Nat.div_mul_cancel (Nat.dvd_of_mod_eq_zero divides)]
    constructor
    · show found.2 - places ≤ maxScale
      omega
    · rw [same]
      exact isQuotient.le_one
    · rw [same]
      exact isQuotient.above
    · rw [same]
      exact isQuotient.below
  · exact isQuotient

theorem IsQuotient.tidy {divisor number : Nat} {found : Nat × Nat}
    (isQuotient : IsQuotient divisor number found) :
    IsQuotient divisor number (tidy found) := by
  have dropEight {found : Nat × Nat} (isQuotient : IsQuotient divisor number found) :
      IsQuotient divisor number (dropEightZeros found) := by
    unfold dropEightZeros
    split
    · exact isQuotient.dropZeroBlock
    · exact isQuotient
  exact (dropEight (dropEight (dropEight isQuotient))).dropZeroBlock.dropZeroBlock.dropZeroBlock

theorem IsQuotient.mantissa_lt {divisor number : Nat} {found : Nat × Nat}
    (isQuotient : IsQuotient divisor number found) : found.1 < mantissaBound := by
  have atMost : found.1 ≤ 10 ^ maxScale :=
    Nat.le_trans (Nat.le_mul_of_pos_right _ (Nat.pow_pos (by decide))) isQuotient.le_one
  exact Nat.lt_of_le_of_lt atMost (by decide)

section Mantissas

variable {left right : Decimal}

/-- The number that a division of mantissas divides, with the missing places of the divisor. -/
theorem dividend_mul_pow (left right : Decimal) :
    left.mantissa * 10 ^ ((maxScale : Int) - ((left.scale : Int) - right.scale)).toNat *
      10 ^ (maxScale - right.scale) = left.magnitude * 10 ^ maxScale := by
  have leftLe := left.scale_le
  have rightLe := right.scale_le
  rw [magnitude, Nat.mul_assoc, ← Nat.pow_add, Nat.mul_assoc, ← Nat.pow_add]
  congr 2
  omega

/-- Mantissas of a number and one at least as large are divided to a quotient of the two. -/
theorem exists_isQuotient (leftPos : 0 < left.mantissa) (rightPos : 0 < right.mantissa)
    (atMostOne : left.magnitude ≤ right.magnitude) :
    ∃ mantissa places met, extend? right.mantissa (left.mantissa / right.mantissa)
        (left.mantissa % right.mantissa) ((left.scale : Int) - right.scale) false =
          some (mantissa, places, met) ∧
      IsQuotient right.mantissa
        (left.mantissa * 10 ^ ((maxScale : Int) - ((left.scale : Int) - right.scale)).toNat)
        (if met then tidy (mantissa, places) else (mantissa, places)) := by
  have leftLe := left.scale_le
  have number : scaled right.mantissa (left.mantissa / right.mantissa)
      (left.mantissa % right.mantissa) ((left.scale : Int) - right.scale) =
        left.mantissa * 10 ^ ((maxScale : Int) - ((left.scale : Int) - right.scale)).toNat := by
    rw [scaled, Nat.mul_comm (left.mantissa / right.mantissa), Nat.div_add_mod]
  have numberPos := Nat.mul_pos leftPos (@Nat.pow_pos 10
    ((maxScale : Int) - ((left.scale : Int) - right.scale)).toNat (by decide))
  have bound : left.mantissa * 10 ^ ((maxScale : Int) - ((left.scale : Int) - right.scale)).toNat ≤
      right.mantissa * 10 ^ maxScale := by
    apply Nat.le_of_mul_le_mul_right _
      (show 0 < 10 ^ (maxScale - right.scale) from Nat.pow_pos (by decide))
    rw [dividend_mul_pow, Nat.mul_right_comm]
    exact Nat.mul_le_mul_right _ atMostOne
  rw [← number] at numberPos bound ⊢
  obtain ⟨mantissa, places, met, extended, isQuotient⟩ :=
    extend?_isQuotient rightPos false (Nat.mod_lt _ rightPos) (by omega) numberPos bound
  refine ⟨mantissa, places, met, extended, ?_⟩
  cases met with
  | true => exact isQuotient.tidy
  | false => exact isQuotient

theorem IsQuotient.near {found : Nat × Nat} (isQuotient : IsQuotient right.mantissa
      (left.mantissa * 10 ^ ((maxScale : Int) - ((left.scale : Int) - right.scale)).toNat) found) :
    2 * ((found.1 * 10 ^ (maxScale - found.2) * right.magnitude : Nat) -
      (left.magnitude * 10 ^ maxScale : Nat) : Int).natAbs ≤ right.magnitude := by
  have above := Nat.mul_le_mul_right (10 ^ (maxScale - right.scale)) isQuotient.above
  have below := Nat.mul_le_mul_right (10 ^ (maxScale - right.scale)) isQuotient.below
  rw [Nat.add_mul, Nat.mul_assoc 2, Nat.mul_assoc 2, dividend_mul_pow,
    Nat.mul_assoc _ right.mantissa] at above below
  exact two_mul_natAbs_sub_le above below

/-- The quotient of a number above zero by one at least as large is a portion that misses the exact
quotient by half a unit of the last place at most. -/
theorem exists_div? (positive : 0 < left.units) (atMostOne : left.units ≤ right.units) :
    ∃ quotient, left.div? right = some quotient ∧ 0 ≤ quotient.units ∧
      quotient.units ≤ 10 ^ maxScale ∧
      2 * (quotient.units * right.units - left.units * 10 ^ maxScale).natAbs ≤
        right.units.natAbs := by
  have leftSign := not_negative_of_pos positive
  have rightSign := not_negative_of_pos (Int.lt_of_lt_of_le positive atMostOne)
  have leftUnits := units_of_not_negative leftSign
  have rightUnits := units_of_not_negative rightSign
  have leftPos : 0 < left.mantissa := by
    apply Nat.pos_of_ne_zero
    rw [Ne, ← magnitude_eq_zero_iff]
    omega
  have rightPos : 0 < right.mantissa := by
    apply Nat.pos_of_ne_zero
    rw [Ne, ← magnitude_eq_zero_iff]
    omega
  obtain ⟨mantissa, places, met, extended, isQuotient⟩ :=
    exists_isQuotient leftPos rightPos (by omega)
  let settled := if met then tidy (mantissa, places) else (mantissa, places)
  let quotient : Decimal :=
    ⟨false, settled.1, settled.2, isQuotient.mantissa_lt, isQuotient.scale_le⟩
  have divided : left.div? right = some quotient := by
    rw [div?, if_neg (by simpa [isZero] using rightPos.ne'),
      if_neg (by simpa [isZero] using leftPos.ne'), extended, leftSign, rightSign]
    exact ofParts?_eq_some isQuotient.mantissa_lt isQuotient.scale_le
  have quotientUnits : quotient.units = quotient.magnitude := units_of_not_negative rfl
  refine ⟨quotient, divided, by omega, ?_, ?_⟩
  · rw [quotientUnits]
    exact_mod_cast isQuotient.le_one
  · rw [quotientUnits, leftUnits, rightUnits, Int.natAbs_natCast]
    exact_mod_cast isQuotient.near

end Mantissas

end LoanBook.Decimal
