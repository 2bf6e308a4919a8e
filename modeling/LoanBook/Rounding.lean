import LoanBook.Power

/-!
# Rounding a quotient of naturals

Two ways to round `numerator / denominator` to the nearest natural. They differ on exact halves
only: `halfEven` goes to the even neighbour, `halfUp` to the larger one.
-/

namespace LoanBook.Rounding

/-- The nearest natural to a quotient; an exact half goes to the even neighbour. -/
def halfEven (numerator denominator : Nat) : Nat :=
  let quotient := numerator / denominator
  let doubled := 2 * (numerator % denominator)
  if doubled < denominator then quotient
  else if denominator < doubled then quotient + 1
  else quotient + quotient % 2

/-- The nearest natural to a quotient; an exact half goes up. -/
def halfUp (numerator denominator : Nat) : Nat :=
  (2 * numerator + denominator) / (2 * denominator)

/-- Rounding never passes the next natural above the floor of the quotient. -/
theorem halfEven_le (numerator denominator : Nat) :
    halfEven numerator denominator ≤ numerator / denominator + 1 := by
  simp only [halfEven]
  split
  · omega
  · split <;> omega

/-- Rounding never falls below the floor of the quotient. -/
theorem le_halfEven (numerator denominator : Nat) :
    numerator / denominator ≤ halfEven numerator denominator := by
  simp only [halfEven]
  split
  · omega
  · split <;> omega

@[simp] theorem halfEven_one (numerator : Nat) : halfEven numerator 1 = numerator := by
  simp [halfEven, Nat.mod_one]

/-- The floor characterisation of rounding halves up, free of division. -/
theorem halfUp_eq_iff {numerator denominator quotient : Nat} (positive : 0 < denominator) :
    halfUp numerator denominator = quotient ↔
      2 * quotient * denominator ≤ 2 * numerator + denominator ∧
        2 * numerator + denominator < 2 * (quotient + 1) * denominator := by
  unfold halfUp
  rw [Nat.div_eq_iff (by omega)]
  have left : quotient * (2 * denominator) = 2 * quotient * denominator := by
    rw [Nat.mul_left_comm, Nat.mul_assoc]
  have right : (quotient + 1) * (2 * denominator) = 2 * (quotient + 1) * denominator := by
    rw [Nat.mul_left_comm, Nat.mul_assoc]
  have expand : (quotient + 1) * (2 * denominator) = quotient * (2 * denominator) + 2 * denominator := by
    rw [Nat.add_mul, Nat.one_mul]
  omega

/-- Rounding halves up lands on the floor or one above it. -/
theorem halfUp_le (numerator denominator : Nat) (positive : 0 < denominator) :
    halfUp numerator denominator ≤ numerator / denominator + 1 := by
  have bounds := (@halfUp_eq_iff numerator denominator (halfUp numerator denominator) positive).1 rfl
  have split := Nat.div_add_mod numerator denominator
  have small := Nat.mod_lt numerator positive
  by_cases beyond : numerator / denominator + 2 ≤ halfUp numerator denominator
  · have scaled := Nat.mul_le_mul_right denominator (Nat.mul_le_mul_left 2 beyond)
    have expand : 2 * (numerator / denominator + 2) * denominator =
        2 * (denominator * (numerator / denominator)) + 4 * denominator := by
      rw [Nat.mul_add, Nat.add_mul, Nat.mul_assoc, Nat.mul_comm (numerator / denominator)]
    omega
  · omega

end LoanBook.Rounding
