import LoanBook.Proofs.Decimal.Bracketing
import LoanBook.Proofs.Decimal.Signs
import LoanBook.Proofs.Money.MinorUnits

/-!
# What a split leaves

A portion is split off money of every sign, size and number of places.  The part taken is a whole
number of minor units.  The remainder is a difference of decimals, which is rounded when 96 bits do
not hold it: the two parts make up the whole exactly when a decimal denotes that difference, and
always do when the money has the places of its minor unit, or fits with them.
-/

namespace LoanBook

namespace Decimal

open Rounding

variable {amount raw : Decimal} {portion : Rate} {places : Nat}

/-- What is left of an amount when a share is taken is no larger than the amount, unless the share
was rounded up past it. -/
def LeavesShare (places : Nat) (amount share : Decimal) : Prop :=
  (amount.units - share.units).natAbs ≤ amount.units.natAbs ∨
    2 * (amount.units - share.units).natAbs ≤ 10 ^ (maxScale - places)

theorem leavesShare_of_nonneg (placesLe : places ≤ maxScale) (nonneg : 0 ≤ raw.units)
    (atMost : raw.units ≤ amount.units) : LeavesShare places amount (raw.round places) := by
  have shareNonneg : 0 ≤ (raw.round places).units := units_round_nonneg nonneg
  have positive : 0 < 10 ^ (maxScale - places) := Nat.pow_pos (by decide)
  have near := (le_halfUp_iff positive).mp
    (Nat.le_refl (halfUp raw.magnitude (10 ^ (maxScale - places))))
  have shareUnits := units_round_of_nonneg nonneg placesLe
  have rawUnits := units_of_nonneg nonneg
  unfold LeavesShare
  omega

/-- A share is taken of every amount, of a debt as of the credit of its size. -/
theorem exists_share (placesLe : places ≤ maxScale) (isPortion : portion.IsPortion) :
    ∃ raw, amount.mul? portion.decimal = some raw ∧
      LeavesShare places amount (raw.round places) := by
  obtain ⟨portionNonneg, portionLe⟩ := Rate.isPortion_iff.mp isPortion
  rcases Int.le_total 0 amount.units with nonneg | nonpos
  · obtain ⟨raw, multiplied, rawNonneg, rawLe, _⟩ :=
      exists_mul?_portion nonneg portionNonneg portionLe
    exact ⟨raw, multiplied, leavesShare_of_nonneg placesLe rawNonneg rawLe⟩
  · have creditNonneg : 0 ≤ amount.negate.units := by
      rw [units_negate]
      omega
    obtain ⟨credit, multiplied, creditRawNonneg, creditRawLe, _⟩ :=
      exists_mul?_portion creditNonneg portionNonneg portionLe
    have leaves := leavesShare_of_nonneg placesLe creditRawNonneg creditRawLe
    have mapped := mul?_negate_map_units amount.negate portion.decimal
    rw [negate_negate, multiplied] at mapped
    obtain ⟨raw, rawMultiplied, rawUnits⟩ := Option.map_eq_some_iff.mp mapped
    have mirrored : raw.negate ≈ credit := by
      rw [equiv_def, units_negate, rawUnits, Int.neg_neg]
    have rounded := round_equiv_round mirrored placesLe
    rw [equiv_def, round_negate] at rounded
    refine ⟨raw, rawMultiplied, ?_⟩
    unfold LeavesShare at leaves ⊢
    rw [units_negate] at leaves
    omega

/-- A share that was rounded up past its amount exceeds it by little. -/
theorem lt_of_past {units : Nat} (past : 2 * units ≤ 10 ^ (maxScale - places)) (scale : Nat) :
    units < mantissaBound * 10 ^ (maxScale - scale) := by
  have placesPower : 10 ^ (maxScale - places) ≤ 10 ^ maxScale :=
    Nat.pow_le_pow_right (by decide) (Nat.sub_le _ _)
  have power : 1 ≤ 10 ^ (maxScale - scale) := Nat.pow_pos (by decide)
  have less : 10 ^ maxScale < mantissaBound := by decide
  exact Nat.lt_of_lt_of_le (by omega) (Nat.le_mul_of_pos_right mantissaBound power)

section Leaves

variable {share : Decimal} (leaves : LeavesShare places amount share)
  (short : share.scale ≤ places) (placesLe : places ≤ maxScale)
include leaves short placesLe

/-- A share leaves a remainder, which misses the exact one by at most half a unit of the last place
that the amount is written with. -/
theorem LeavesShare.exists_sub? :
    ∃ remainder, amount.sub? share = some remainder ∧
      2 * (remainder.units - (amount.units - share.units)).natAbs ≤
        10 ^ (maxScale - amount.scale) := by
  rcases leaves with atMost | past
  · exact exists_sub?_near atMost
  · obtain ⟨remainder, subtracts, _, exactly⟩ := Decimal.exists_sub?
      (Nat.le_max_left amount.scale places) (Nat.le_trans short (Nat.le_max_right _ _))
      (Nat.max_le.mpr ⟨amount.scale_le, placesLe⟩) (lt_of_past past _)
    exact ⟨remainder, subtracts, by simp [exactly]⟩

/-- The remainder is exact if the amount has at least so many places, or fits with them. -/
theorem LeavesShare.sub?_exact {remainder : Decimal}
    (roomy : places ≤ amount.scale ∨ FitsMinor places amount.units)
    (subtracts : amount.sub? share = some remainder) :
    remainder.units = amount.units - share.units := by
  have bound : (amount.units - share.units).natAbs <
      mantissaBound * 10 ^ (maxScale - max amount.scale places) := by
    rcases leaves with atMost | past
    · apply Nat.lt_of_le_of_lt atMost
      rcases Nat.le_total places amount.scale with written | fewer
      · rw [Nat.max_eq_left written, natAbs_units]
        exact Nat.mul_lt_mul_of_pos_right amount.mantissa_lt (Nat.pow_pos (by decide))
      · rw [Nat.max_eq_right fewer]
        rcases roomy with written | fits
        · rw [Nat.le_antisymm written fewer, natAbs_units]
          exact Nat.mul_lt_mul_of_pos_right amount.mantissa_lt (Nat.pow_pos (by decide))
        · exact fits
    · exact lt_of_past past _
  obtain ⟨exact, exactSubtracts, _, exactly⟩ := Decimal.exists_sub?
    (Nat.le_max_left amount.scale places) (Nat.le_trans short (Nat.le_max_right _ _))
    (Nat.max_le.mpr ⟨amount.scale_le, placesLe⟩) bound
  cases subtracts.symm.trans exactSubtracts
  exact exactly

end Leaves

end Decimal

namespace Money

variable {money : Money} {currency : Currency} {portion : Rate}

/-- Money of every kind is split in two.  The parts make up the whole exactly when a decimal denotes
what the part taken leaves, as it does if the money has all the places of its minor unit or fits
with them; otherwise they miss it by at most half a unit of the last place it is written with. -/
theorem split_conserves_iff (found : Currency.lookup? money.currency = some currency)
    (isPortion : portion.IsPortion) :
    ∃ split, money.split portion = .ok split ∧ split.taken.IsMultipleOf currency ∧
      (split.taken.units + split.remainder.units = money.units ↔
        ∃ exact : Decimal, exact.units = money.units - split.taken.units) ∧
      (currency.precision ≤ money.amount.scale ∨
          Decimal.FitsMinor currency.precision money.units →
        split.taken.units + split.remainder.units = money.units) ∧
      2 * (split.taken.units + split.remainder.units - money.units).natAbs ≤
        10 ^ (Decimal.maxScale - money.amount.scale) := by
  have known := precision_of_found found
  have placesLe := places_le_maxScale known
  obtain ⟨raw, multiplied, leaves⟩ := @Decimal.exists_share money.amount _ _ placesLe isPortion
  have short := Decimal.round_scale_le raw currency.precision
  obtain ⟨remainder, subtracts, near⟩ := leaves.exists_sub? short placesLe
  refine ⟨_, split_of_portion isPortion known multiplied subtracts,
    ⟨found, Decimal.exists_units_eq_mul short placesLe⟩, ?_, ?_, ?_⟩
  · show (raw.round currency.precision).units + remainder.units = money.amount.units ↔
      ∃ exact : Decimal, exact.units = money.amount.units - (raw.round currency.precision).units
    rw [← Decimal.sub?_exact_iff subtracts]
    omega
  · intro roomy
    have exactly := leaves.sub?_exact short placesLe roomy subtracts
    show (raw.round currency.precision).units + remainder.units = money.amount.units
    omega
  · show 2 * ((raw.round currency.precision).units + remainder.units -
      money.amount.units).natAbs ≤ _
    omega

/-- A debt of dinars, with as many digits as there can be. -/
def dinarDebt : Money :=
  { dollars ⟨true, 2 ^ 96 - 1, 28, by decide, by decide⟩ with currency := "KWD" }

theorem split_conserves_iff_dinarDebt :
    Currency.lookup? dinarDebt.currency = some ⟨"KWD", 3⟩ ∧ (Rate.oneOver 3).IsPortion ∧
      ∃ split, dinarDebt.split (Rate.oneOver 3) = .ok split ∧
        split.taken.IsMultipleOf ⟨"KWD", 3⟩ ∧
        split.taken.units + split.remainder.units = dinarDebt.units := by
  have found : Currency.lookup? dinarDebt.currency = some ⟨"KWD", 3⟩ := by decide +kernel
  have isPortion : (Rate.oneOver 3).IsPortion := by decide +kernel
  obtain ⟨split, splits, taken, _, conserves, _⟩ := split_conserves_iff found isPortion
  exact ⟨found, isPortion, split, splits, taken, conserves (Or.inl (by decide))⟩

/-- The largest whole number of dollars that there can be. -/
def hoard : Money :=
  dollars ⟨false, 2 ^ 96 - 1, 0, by decide, Nat.zero_le _⟩

/-- One per cent of the hoard leaves a remainder in cents, which 96 bits do not hold.  It is rounded
up, and thirty-five cents are made out of nothing. -/
theorem split_of_hoard_gains :
    Currency.lookup? hoard.currency = some ⟨"USD", 2⟩ ∧ (Rate.ofPercentage 1).IsPortion ∧
      ∃ split, hoard.split (Rate.ofPercentage 1) = .ok split ∧
        split.taken.units + split.remainder.units = hoard.units + 35 * 10 ^ 26 := by
  refine ⟨by decide +kernel, by decide +kernel,
    ⟨{ hoard with amount := ⟨false, 2 ^ 96 - 1, 2, by decide, by decide⟩ },
      { hoard with amount := ⟨false, 78435880889121694217608510832, 0, by decide, by decide⟩ }⟩,
    by decide +kernel, by decide +kernel⟩

end Money

end LoanBook
