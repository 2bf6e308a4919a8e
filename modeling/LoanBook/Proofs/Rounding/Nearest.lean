import LoanBook.Rounding
import Mathlib.Algebra.Order.Ring.Nat
import Mathlib.Tactic.Linarith
import Mathlib.Tactic.Ring

/-!
# Laws of rounding a quotient

Both ways of rounding a quotient of naturals land within half a denominator of the numerator, keep
whole quotients, preserve the order of numerators, and do not depend on how the fraction is
written.
-/

namespace LoanBook.Rounding

variable {numerator larger denominator whole factor : Nat}

theorem two_mul_natAbs_sub_le {found exact missed : Nat} (above : 2 * found ≤ 2 * exact + missed)
    (below : 2 * exact ≤ 2 * found + missed) : 2 * ((found : Int) - exact).natAbs ≤ missed := by
  omega

section HalfEven

theorem two_mul_halfEven_mul_le (positive : 0 < denominator) :
    2 * (halfEven numerator denominator * denominator) ≤ 2 * numerator + denominator := by
  have expand := Nat.div_add_mod numerator denominator
  have small := Nat.mod_lt numerator positive
  have even := Nat.mod_lt (numerator / denominator) (show 0 < 2 by decide)
  rw [Nat.mul_comm] at expand
  simp only [halfEven]
  split
  · omega
  · split
    · rw [Nat.add_mul]
      omega
    · rw [Nat.add_mul]
      have bound := Nat.mul_le_mul_right denominator (Nat.le_of_lt_succ even)
      omega

theorem le_two_mul_halfEven_mul (positive : 0 < denominator) :
    2 * numerator ≤ 2 * (halfEven numerator denominator * denominator) + denominator := by
  have expand := Nat.div_add_mod numerator denominator
  have small := Nat.mod_lt numerator positive
  rw [Nat.mul_comm] at expand
  simp only [halfEven]
  split
  · omega
  · split
    · rw [Nat.add_mul]
      omega
    · rw [Nat.add_mul]
      omega

theorem halfEven_mul_right (positive : 0 < denominator) :
    halfEven (whole * denominator) denominator = whole := by
  simp [halfEven, Nat.mul_div_cancel whole positive, positive]

theorem halfEven_mono (less : numerator ≤ larger) :
    halfEven numerator denominator ≤ halfEven larger denominator := by
  have quotientLe : numerator / denominator ≤ larger / denominator := Nat.div_le_div_right less
  rcases Nat.lt_or_ge (numerator / denominator) (larger / denominator) with below | above
  · calc
      halfEven numerator denominator ≤ numerator / denominator + 1 := halfEven_le _ _
      _ ≤ larger / denominator := below
      _ ≤ halfEven larger denominator := le_halfEven _ _
  · have same : numerator / denominator = larger / denominator := Nat.le_antisymm quotientLe above
    have remainderLe : numerator % denominator ≤ larger % denominator := by
      have expand := Nat.div_add_mod numerator denominator
      have expandLarger := Nat.div_add_mod larger denominator
      rw [same] at expand
      omega
    simp only [halfEven, same]
    split_ifs <;> omega

/-- A numerator up to a multiple of the denominator is rounded up to the factor at most. -/
theorem halfEven_le_of_le_mul (positive : 0 < denominator)
    (bound : numerator ≤ whole * denominator) : halfEven numerator denominator ≤ whole := by
  have rounded := @halfEven_mono _ _ denominator bound
  rwa [halfEven_mul_right positive] at rounded

theorem le_halfEven_of_mul_le (positive : 0 < denominator)
    (bound : whole * denominator ≤ numerator) : whole ≤ halfEven numerator denominator := by
  have rounded := @halfEven_mono _ _ denominator bound
  rwa [halfEven_mul_right positive] at rounded

theorem halfEven_mul_mul (positive : 0 < factor) :
    halfEven (numerator * factor) (denominator * factor) = halfEven numerator denominator := by
  have quotient : numerator * factor / (denominator * factor) = numerator / denominator :=
    Nat.mul_div_mul_right numerator denominator positive
  have remainder : numerator * factor % (denominator * factor) = numerator % denominator * factor :=
    Nat.mul_mod_mul_right factor numerator denominator
  have below : 2 * (numerator % denominator * factor) < denominator * factor ↔
      2 * (numerator % denominator) < denominator := by
    rw [← Nat.mul_assoc]
    exact Nat.mul_lt_mul_right positive
  have above : denominator * factor < 2 * (numerator % denominator * factor) ↔
      denominator < 2 * (numerator % denominator) := by
    rw [← Nat.mul_assoc]
    exact Nat.mul_lt_mul_right positive
  simp only [halfEven, quotient, remainder, below, above]

/-- An even natural is not missed from below at a distance of half. -/
theorem le_halfEven_of_even (positive : 0 < denominator) (even : whole % 2 = 0)
    (close : 2 * (whole * denominator) ≤ 2 * numerator + denominator) :
    whole ≤ halfEven numerator denominator := by
  have expand := Nat.div_add_mod numerator denominator
  have small := Nat.mod_lt numerator positive
  rw [Nat.mul_comm] at expand
  rcases Nat.lt_or_ge (numerator / denominator) whole with above | atMost
  · have next : whole = numerator / denominator + 1 := by
      have scaled : whole * denominator < (numerator / denominator + 2) * denominator := by
        rw [Nat.add_mul]
        omega
      exact Nat.le_antisymm (Nat.lt_succ_iff.mp (Nat.lt_of_mul_lt_mul_right scaled)) above
    rw [next, Nat.add_mul, Nat.one_mul] at close
    simp only [halfEven]
    split_ifs <;> omega
  · exact Nat.le_trans atMost (le_halfEven _ _)

end HalfEven

section HalfUp

theorem halfUp_mul_right (positive : 0 < denominator) :
    halfUp (whole * denominator) denominator = whole := by
  rw [halfUp_eq_iff positive]
  constructor
  · nlinarith
  · nlinarith

theorem halfUp_mono (less : numerator ≤ larger) :
    halfUp numerator denominator ≤ halfUp larger denominator := by
  unfold halfUp
  apply Nat.div_le_div_right
  omega

theorem halfUp_le_of_le_mul (positive : 0 < denominator) (bound : numerator ≤ whole * denominator) :
    halfUp numerator denominator ≤ whole := by
  have rounded := @halfUp_mono _ _ denominator bound
  rwa [halfUp_mul_right positive] at rounded

theorem halfUp_mul_mul (positive : 0 < factor) :
    halfUp (numerator * factor) (denominator * factor) = halfUp numerator denominator := by
  unfold halfUp
  have top : 2 * (numerator * factor) + denominator * factor =
      (2 * numerator + denominator) * factor := by ring
  have bottom : 2 * (denominator * factor) = 2 * denominator * factor := by ring
  rw [top, bottom, Nat.mul_div_mul_right _ _ positive]

theorem le_halfUp_iff (positive : 0 < denominator) :
    whole ≤ halfUp numerator denominator ↔ 2 * (whole * denominator) ≤ 2 * numerator + denominator := by
  rw [halfUp, Nat.le_div_iff_mul_le (by omega), Nat.mul_left_comm]

theorem halfUp_le_iff (positive : 0 < denominator) :
    halfUp numerator denominator ≤ whole ↔ 2 * numerator < 2 * (whole * denominator) + denominator := by
  rw [← Nat.lt_succ_iff, halfUp, Nat.div_lt_iff_lt_mul (by omega), Nat.mul_left_comm,
    Nat.succ_mul whole]
  omega

/-- A quotient is rounded past a natural from the half above it on. -/
theorem succ_le_halfUp_iff (positive : 0 < denominator) :
    whole + 1 ≤ halfUp numerator denominator ↔ (2 * whole + 1) * denominator ≤ 2 * numerator := by
  rw [le_halfUp_iff positive, Nat.add_mul, Nat.add_mul, Nat.one_mul, Nat.mul_assoc]
  omega

theorem div_le_halfUp (positive : 0 < denominator) :
    numerator / denominator ≤ halfUp numerator denominator := by
  rw [le_halfUp_iff positive]
  have below := Nat.div_mul_le_self numerator denominator
  omega

/-- One of the two naturals next to a quotient is the nearest one if it is on the right side of the
half between them. -/
theorem eq_halfUp_iff {found : Nat} (positive : 0 < denominator) (low : numerator / denominator ≤ found)
    (high : found ≤ numerator / denominator + 1) :
    found = halfUp numerator denominator ↔ (numerator / denominator + 1 ≤ found ↔
      (2 * (numerator / denominator) + 1) * denominator ≤ 2 * numerator) := by
  rw [← succ_le_halfUp_iff positive]
  have nearLow := @div_le_halfUp numerator denominator positive
  have nearHigh := halfUp_le numerator denominator positive
  omega

/-- How far twice a quotient is from the odd number between twice the two naturals next to it. -/
theorem two_mul_sub_half (numerator denominator : Nat) :
    (2 * numerator - (2 * (numerator / denominator : Nat) + 1) * denominator : Int) =
      2 * (numerator % denominator : Nat) - denominator := by
  have split := Nat.div_add_mod numerator denominator
  zify at split ⊢
  linarith

theorem two_mul_eq_of_half (tie : 2 * (numerator % denominator) = denominator) :
    (2 * (numerator / denominator) + 1) * denominator = 2 * numerator := by
  have split := Nat.div_add_mod numerator denominator
  rw [Nat.add_mul, Nat.one_mul, Nat.mul_assoc, Nat.mul_comm (numerator / denominator)]
  omega

/-- A product that misses a quotient by less than the quotient is away from a half is on the same
side of the half. -/
theorem half_le_iff_of_close {product unit amount count missed : Nat}
    (close : ((product * count : Nat) - (amount * unit : Nat) : Int).natAbs ≤ missed)
    (apart : 2 * missed < (2 * amount - (2 * whole + 1) * count : Int).natAbs * unit) :
    (2 * whole + 1) * unit ≤ 2 * product ↔ (2 * whole + 1) * count ≤ 2 * amount := by
  zify at close apart ⊢
  obtain ⟨below, above⟩ := abs_le.mp close
  have countNonneg : (0 : Int) ≤ count := Int.natCast_nonneg count
  rcases Int.lt_or_le (2 * amount - (2 * whole + 1) * count : Int) 0 with short | enough
  · rw [abs_of_neg short] at apart
    refine iff_of_false (fun reached => ?_) (by omega)
    have scaled := Int.mul_le_mul_of_nonneg_right reached countNonneg
    linarith
  · rw [abs_of_nonneg enough] at apart
    refine iff_of_true (not_lt.mp fun missing => ?_) (by omega)
    have scaled := Int.mul_le_mul_of_nonneg_right (Int.le_of_lt missing) countNonneg
    linarith

/-- A quotient below half of a natural is rounded to at most half of it. -/
theorem two_mul_halfUp_le (positive : 0 < denominator) (below : 2 * numerator < whole * denominator) :
    2 * halfUp numerator denominator ≤ whole := by
  have near := (le_halfUp_iff positive).mp (Nat.le_refl (halfUp numerator denominator))
  have scaled : 2 * halfUp numerator denominator * denominator < (whole + 1) * denominator := by
    rw [Nat.mul_assoc, Nat.add_mul, Nat.one_mul]
    omega
  exact Nat.lt_succ_iff.mp (Nat.lt_of_mul_lt_mul_right scaled)

theorem le_two_mul_halfUp (positive : 0 < denominator) (above : whole * denominator ≤ 2 * numerator) :
    whole ≤ 2 * halfUp numerator denominator := by
  have near := (halfUp_le_iff positive).mp (Nat.le_refl (halfUp numerator denominator))
  have scaled : whole * denominator < (2 * halfUp numerator denominator + 1) * denominator := by
    rw [Nat.add_mul, Nat.one_mul, Nat.mul_assoc]
    omega
  exact Nat.lt_succ_iff.mp (Nat.lt_of_mul_lt_mul_right scaled)

/-- A numerator less than half a denominator away from a multiple is rounded to it. -/
theorem halfUp_eq_of_near (positive : 0 < denominator)
    (above : 2 * (whole * denominator) ≤ 2 * numerator + denominator)
    (below : 2 * numerator < 2 * (whole * denominator) + denominator) :
    halfUp numerator denominator = whole := by
  rw [halfUp_eq_iff positive]
  constructor
  · nlinarith
  · nlinarith

end HalfUp

end LoanBook.Rounding
