import LoanBook.Proofs.Decimal.Order
import LoanBook.Proofs.Money.Remainder

/-!
# What a portion takes

A larger portion of an amount takes at least as much of it, although the two products may be rounded
to different numbers of places.  Of an amount in minor units no portion takes more than all, so what
it leaves is never below zero.
-/

namespace LoanBook.Money

variable {money : Money} {less more portion : Rate} {split small large : Split} {places : Nat}

theorem taken_units_mono (known : money.precision = .ok places) (nonneg : 0 ≤ money.units)
    (atMost : less.decimal ≤ more.decimal) (splits : money.split less = .ok small)
    (moreSplits : money.split more = .ok large) : small.taken.units ≤ large.taken.units := by
  obtain ⟨lessPortion, raw, multiplied, takenEq⟩ := taken_of_split known splits
  obtain ⟨morePortion, moreRaw, moreMultiplied, moreTakenEq⟩ := taken_of_split known moreSplits
  have lessNonneg := (Rate.isPortion_iff.mp lessPortion).1
  have moreNonneg := (Rate.isPortion_iff.mp morePortion).1
  have products : raw.units ≤ moreRaw.units :=
    Decimal.units_le_of_mul? nonneg lessNonneg nonneg moreNonneg
      (Int.mul_le_mul_of_nonneg_left atMost nonneg) multiplied moreMultiplied
  have rawNonneg := Decimal.units_nonneg_of_mul? nonneg lessNonneg multiplied
  rw [takenEq, moreTakenEq]
  exact Decimal.units_round_mono rawNonneg products (places_le_maxScale known)

theorem taken_units_of_zero (known : money.precision = .ok places)
    (nothing : portion.decimal ≈ Decimal.zero) (splits : money.split portion = .ok split) :
    split.taken.units = 0 := by
  rw [Decimal.equiv_def, Decimal.units_zero, ← Decimal.isZero_iff] at nothing
  obtain ⟨_, raw, multiplied, takenEq⟩ := taken_of_split known splits
  rw [Decimal.mul?_of_isZero (Or.inr nothing)] at multiplied
  cases multiplied
  rw [takenEq]
  show (Decimal.zero.round places).units = 0
  rw [Decimal.round_of_scale_le (show Decimal.zero.scale ≤ places from Nat.zero_le _),
    Decimal.units_zero]

/-- What a portion takes of an amount in minor units lies between nothing and the amount, whatever
the size of the amount. -/
theorem exists_bounded_split (minor : money.IsMinor places) (nonneg : 0 ≤ money.units)
    (isPortion : portion.IsPortion) :
    ∃ split, money.split portion = .ok split ∧ 0 ≤ split.taken.units ∧
      split.taken.units ≤ money.units ∧ 0 ≤ split.remainder.units ∧
      (portion.decimal ≈ Decimal.one → split.taken.units = money.units) := by
  obtain ⟨split, splits, parted, _⟩ := exists_isParted minor nonneg isPortion
  obtain ⟨_, raw, multiplied, takenEq⟩ := taken_of_split minor.precision_eq splits
  obtain ⟨_, rawEq, _, takenLe, whole⟩ := exists_taken minor nonneg isPortion
  cases multiplied.symm.trans rawEq
  refine ⟨split, splits, parted.taken_nonneg, ?_, parted.remainder_nonneg, ?_⟩
  · rw [takenEq]
    exact takenLe
  · rw [takenEq]
    exact whole

/-- Of a rounded amount that is not below zero, of any size, a larger portion takes at least as much
as a smaller one, neither takes more than all, and neither leaves less than nothing.  A portion of
zero takes nothing and a portion of one takes all. -/
theorem split_mono {rounded : Rounded} (rounds : money.rounded = .ok rounded)
    (nonneg : 0 ≤ rounded.value.units) (lessPortion : less.IsPortion)
    (morePortion : more.IsPortion) (atMost : less.decimal ≤ more.decimal) :
    ∃ small large, rounded.value.split less = .ok small ∧ rounded.value.split more = .ok large ∧
      0 ≤ small.taken.units ∧ small.taken.units ≤ large.taken.units ∧
      large.taken.units ≤ rounded.value.units ∧
      0 ≤ small.remainder.units ∧ 0 ≤ large.remainder.units ∧
      (less.decimal ≈ Decimal.zero → small.taken.units = 0) ∧
      (more.decimal ≈ Decimal.one → large.taken.units = rounded.value.units) := by
  obtain ⟨places, minor, _, _⟩ := isMinor_of_rounded rounds
  have known := minor.precision_eq
  obtain ⟨small, splits, takenNonneg, _, leftNonneg, _⟩ :=
    exists_bounded_split minor nonneg lessPortion
  obtain ⟨large, moreSplits, _, takenLe, moreLeftNonneg, whole⟩ :=
    exists_bounded_split minor nonneg morePortion
  exact ⟨small, large, splits, moreSplits, takenNonneg,
    taken_units_mono known nonneg atMost splits moreSplits, takenLe, leftNonneg, moreLeftNonneg,
    fun nothing => taken_units_of_zero known nothing splits, whole⟩

/-- A ninth of the hoard is a product with one place less than a tenth of it has. -/
theorem split_mono_hoard :
    ∃ rounded, hoard.rounded = .ok rounded ∧ 0 ≤ rounded.value.units ∧
      (Rate.oneOver 10).IsPortion ∧ (Rate.oneOver 9).IsPortion ∧
      (Rate.oneOver 10).decimal ≤ (Rate.oneOver 9).decimal ∧
      ∃ small large, rounded.value.split (.oneOver 10) = .ok small ∧
        rounded.value.split (.oneOver 9) = .ok large ∧
        0 ≤ small.taken.units ∧ small.taken.units ≤ large.taken.units ∧
        large.taken.units ≤ rounded.value.units ∧
        0 ≤ small.remainder.units ∧ 0 ≤ large.remainder.units := by
  have known : hoard.precision = .ok 2 := by decide +kernel
  have rounds := rounded_eq_ok_iff.mpr ⟨2, known, rfl⟩
  have nonneg : 0 ≤ (hoard.amount.round 2).units := by decide +kernel
  have lessPortion : (Rate.oneOver 10).IsPortion := by decide +kernel
  have morePortion : (Rate.oneOver 9).IsPortion := by decide +kernel
  have atMost : (Rate.oneOver 10).decimal ≤ (Rate.oneOver 9).decimal := by decide +kernel
  obtain ⟨small, large, splits, moreSplits, takenNonneg, ordered, takenLe, leftNonneg,
    moreLeftNonneg, _⟩ := split_mono rounds nonneg lessPortion morePortion atMost
  exact ⟨_, rounds, nonneg, lessPortion, morePortion, atMost, small, large, splits, moreSplits,
    takenNonneg, ordered, takenLe, leftNonneg, moreLeftNonneg⟩

end LoanBook.Money
