import LoanBook.Proofs.Decimal.Signs
import LoanBook.Proofs.Money.Exact

/-!
# Money of either sign

A portion is split off a debt as off a credit: both parts are on the side of the whole, and make it
up exactly as long as the amount fits into 96 bits of minor units.
-/

namespace LoanBook.Money

variable {money : Money} {places : Nat}

/-- Money of either sign divided in two: both parts are in minor units of the currency and on the
side of the whole, which they make up. -/
structure IsDivided (places : Nat) (money : Money) (split : Split) : Prop where
  taken_minor : split.taken.IsMinor places
  remainder_minor : split.remainder.IsMinor places
  taken_eq : split.taken = { money with amount := split.taken.amount }
  remainder_eq : split.remainder = { money with amount := split.remainder.amount }
  remainder_units : split.remainder.units = money.units - split.taken.units
  sides : split.taken.units.natAbs + split.remainder.units.natAbs = money.units.natAbs

theorem IsSplit.isDivided {split : Split} (isSplit : money.IsSplit places split) :
    money.IsDivided places split where
  taken_minor := isSplit.taken_minor
  remainder_minor := isSplit.remainder_minor
  taken_eq := isSplit.taken_eq
  remainder_eq := isSplit.remainder_eq
  remainder_units := isSplit.remainder_units
  sides := by
    have nonneg := isSplit.taken_nonneg
    have atMost := isSplit.taken_le
    have rest := isSplit.remainder_units
    omega

/-- The part that a portion takes from a debt is the part taken from the credit, mirrored. -/
theorem exists_taken_of_nonpos {portion : Rate} (minor : money.IsMinor places)
    (nonpos : money.units ≤ 0) (isPortion : portion.IsPortion) :
    ∃ raw, money.amount.mul? portion.decimal = some raw ∧ (raw.round places).units ≤ 0 ∧
      money.units ≤ (raw.round places).units ∧
      (portion.decimal ≈ Decimal.one → (raw.round places).units = money.units) := by
  have mirroredMinor : money.negate.IsMinor places := ⟨minor.precision_eq, minor.scale_le⟩
  have mirroredUnits : money.negate.units = -money.units := Decimal.units_negate money.amount
  obtain ⟨mirrored, multiplied, takenNonneg, takenLe, whole⟩ :=
    exists_taken mirroredMinor (by omega) isPortion
  have mapped := Decimal.mul?_negate_map_units money.negate.amount portion.decimal
  rw [multiplied] at mapped
  obtain ⟨raw, rawMultiplied, rawUnits⟩ := Option.map_eq_some_iff.mp mapped
  have same : raw.negate ≈ mirrored := by
    rw [Decimal.equiv_def, Decimal.units_negate, rawUnits, Int.neg_neg]
  have rounded := Decimal.round_equiv_round same (places_le_maxScale minor.precision_eq)
  rw [Decimal.equiv_def, Decimal.round_negate] at rounded
  refine ⟨raw, ?_, by omega, by omega, fun isOne => ?_⟩
  · rwa [negate, Decimal.negate_negate] at rawMultiplied
  · have all := whole isOne
    omega

theorem exists_isDivided {portion : Rate} (minor : money.IsMinor places)
    (fits : Decimal.FitsMinor places money.units) (isPortion : portion.IsPortion) :
    ∃ split, money.split portion = .ok split ∧ money.IsDivided places split ∧
      (portion.decimal ≈ Decimal.one → split.taken.units = money.units) := by
  rcases Int.le_total 0 money.units with nonneg | nonpos
  · obtain ⟨split, splits, isSplit, whole⟩ := exists_split minor nonneg fits isPortion
    exact ⟨split, splits, isSplit.isDivided, whole⟩
  · have placesLe := places_le_maxScale minor.precision_eq
    obtain ⟨raw, multiplied, takenNonpos, leTaken, whole⟩ :=
      exists_taken_of_nonpos minor nonpos isPortion
    have bound : Decimal.FitsMinor places (money.amount.units - (raw.round places).units) := by
      unfold Decimal.FitsMinor units at *
      omega
    obtain ⟨difference, leaves, short, differenceUnits⟩ := Decimal.exists_sub? minor.scale_le
      (Decimal.round_scale_le raw places) placesLe bound
    refine ⟨_, split_of_portion isPortion minor.precision_eq multiplied leaves, ?_, whole⟩
    exact
      { taken_minor := ⟨minor.precision_eq, Decimal.round_scale_le raw places⟩
        remainder_minor := ⟨minor.precision_eq, short⟩
        taken_eq := rfl
        remainder_eq := rfl
        remainder_units := differenceUnits
        sides := by
          show (raw.round places).units.natAbs + difference.units.natAbs = money.units.natAbs
          unfold units at *
          omega }

/-- The whole portion of money in minor units leaves nothing, however large the money is. -/
theorem remainder_of_whole {portion : Rate} {split : Split} (minor : money.IsMinor places)
    (isOne : portion.decimal ≈ Decimal.one) (splits : money.split portion = .ok split) :
    split.remainder.units = 0 := by
  obtain ⟨isPortion, raw, difference, multiplied, subtracts, rfl⟩ :=
    parts_of_split minor.precision_eq splits
  have taken : (raw.round places).units = money.amount.units := by
    rcases Int.le_total 0 money.units with nonneg | nonpos
    · obtain ⟨_, rawEq, _, _, whole⟩ := exists_taken minor nonneg isPortion
      cases multiplied.symm.trans rawEq
      exact whole isOne
    · obtain ⟨_, rawEq, _, _, whole⟩ := exists_taken_of_nonpos minor nonpos isPortion
      cases multiplied.symm.trans rawEq
      exact whole isOne
  exact Decimal.units_of_sub?_of_equiv (Decimal.equiv_def.mpr taken.symm) subtracts

end LoanBook.Money
