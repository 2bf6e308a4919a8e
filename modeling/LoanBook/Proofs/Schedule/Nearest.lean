import LoanBook.Proofs.Decimal.Closeness
import LoanBook.Proofs.Schedule.Evenness

/-!
# Installments and the nearest minor unit

One `k`-th of what remains should be the exact quotient rounded to a minor unit, with an exact half
going up.  But the reciprocal of `k` ends after 28 places, and where it is too small, a product that
should be a half may be rounded to less.  This file says for which balances that is so; all other
installments are the nearest ones, as long as no more than `10 ^ 27 / k` minor units remain.
-/

namespace LoanBook

open Calendar (Instant)

namespace Money

/-- A quotient of minor units ends in a half, and the product with the reciprocal falls short of it by
more than half a unit of `10 ^ -28`. -/
def LosesHalf (places amount count : Nat) : Prop :=
  2 * (amount % count) = count ∧ (count * 10 ^ places : Int) <
    2 * amount * (10 ^ Decimal.maxScale - (Rate.oneOver (.ofNat count)).decimal.units * count)

/-- A quotient does not end in a half but is at most a tenth away from one, and the amount is too
large for the places of the reciprocal to tell on which side of the half the quotient is. -/
def IsUnclear (amount count : Nat) : Prop :=
  10 ^ 27 < amount * count ∧ 2 * (amount % count) ≠ count ∧
    5 * (2 * (amount % count : Nat) - count : Int).natAbs ≤ count

instance (places amount count : Nat) : Decidable (LosesHalf places amount count) :=
  inferInstanceAs (Decidable (_ ∧ _))

instance (amount count : Nat) : Decidable (IsUnclear amount count) :=
  inferInstanceAs (Decidable (_ ∧ _ ∧ _))

/-- A share is the nearest whole number of minor units to the quotient, with an exact half going up,
or one less where a half is lost. -/
structure IsNearest (places amount count share : Nat) : Prop where
  of_losesHalf : LosesHalf places amount count → share + 1 = Rounding.halfUp amount count
  eq_halfUp : ¬LosesHalf places amount count → ¬IsUnclear amount count →
    share = Rounding.halfUp amount count

/-- A half is lost when the product falls short of it by more than half a unit of `10 ^ -28`. -/
theorem losesHalf_iff {places amount count : Nat} (placesLe : places ≤ Decimal.maxScale)
    (positive : 0 < count) (tie : 2 * (amount % count) = count) :
    LosesHalf places amount count ↔ (10 ^ Decimal.maxScale : Int) <
      (2 * (amount / count : Nat) + 1) * 10 ^ (Decimal.maxScale - places) *
        (10 ^ Decimal.maxScale - (Rate.oneOver (.ofNat count)).decimal.units * count) := by
  have twice : ((2 * (amount / count : Nat) + 1) * count : Int) = 2 * amount := by
    exact_mod_cast Rounding.two_mul_eq_of_half tie
  have power : (10 ^ Decimal.maxScale : Int) =
      10 ^ (Decimal.maxScale - places) * 10 ^ places := by
    rw [← Int.pow_add, Nat.sub_add_cancel placesLe]
  rw [LosesHalf, and_iff_right tie, ← twice]
  generalize 10 ^ Decimal.maxScale - (Rate.oneOver (.ofNat count)).decimal.units * count = gap
  -- one side has the count as a factor and the other one the minor unit
  have overCount : (count * 10 ^ places : Int) <
      (2 * (amount / count : Nat) + 1) * count * gap ↔
        (10 ^ places : Int) < (2 * (amount / count : Nat) + 1) * gap := by
    rw [Int.mul_comm _ (count : Int), Int.mul_assoc]
    exact Int.mul_lt_mul_left (by exact_mod_cast positive)
  have overUnit : (10 ^ Decimal.maxScale : Int) <
      (2 * (amount / count : Nat) + 1) * 10 ^ (Decimal.maxScale - places) * gap ↔
        (10 ^ places : Int) < (2 * (amount / count : Nat) + 1) * gap := by
    rw [power, Int.mul_comm _ (10 ^ (Decimal.maxScale - places)), Int.mul_assoc]
    exact Int.mul_lt_mul_left (by positivity)
  rw [overCount, overUnit]

/-- Together the reciprocal and the product miss the exact quotient of a small amount by less than
half of what a whole minor unit would be shared into. -/
theorem share_near_of_small {amount product count unit : Nat} {reciprocal : Int}
    (small : amount * count ≤ unit * 10 ^ 27) (few : count < 2 ^ 32) (large : 10 ^ 24 ≤ unit)
    (atMost : product ≤ amount)
    (reciprocalGap : 2 * (reciprocal * count - 10 ^ Decimal.maxScale).natAbs ≤ count)
    (productGap : 2 * (product * 10 ^ Decimal.maxScale - amount * reciprocal).natAbs ≤
        10 ^ Decimal.maxScale ∨
      2 * (product * 10 ^ Decimal.maxScale - amount * reciprocal).natAbs * Decimal.mantissaBound ≤
        10 * product * 10 ^ Decimal.maxScale) :
    2 * ((product * count : Nat) - (amount : Nat) : Int).natAbs < unit := by
  simp only [Decimal.maxScale, Decimal.mantissaBound] at reciprocalGap productGap
  have together : ((10 ^ 28 : Nat) * ((product * count : Nat) - (amount : Nat)) : Int) =
      (product * 10 ^ 28 - amount * reciprocal) * count +
        amount * (reciprocal * count - 10 ^ 28) := by
    push_cast
    ring
  have missed := Int.natAbs_add_le ((product * 10 ^ 28 - amount * reciprocal) * count)
    (amount * (reciprocal * count - 10 ^ 28))
  rw [← together, Int.natAbs_mul, Int.natAbs_mul, Int.natAbs_mul, Int.natAbs_natCast,
    Int.natAbs_natCast, Int.natAbs_natCast] at missed
  generalize (reciprocal * count - 10 ^ 28).natAbs = reciprocalMissed at *
  generalize (product * 10 ^ 28 - amount * reciprocal).natAbs = productMissed at *
  have byReciprocal : 2 * (amount * reciprocalMissed) ≤ unit * 10 ^ 27 := by
    rw [Nat.mul_left_comm]
    exact Nat.le_trans (Nat.mul_le_mul_left amount reciprocalGap) small
  have byProduct : 2 * (productMissed * count) ≤ unit * 10 ^ 27 * 2 := by
    rw [← Nat.mul_assoc]
    rcases productGap with absolute | relative
    · have scaled := Nat.mul_le_mul_right count absolute
      omega
    · have scaled : 2 * productMissed * count * 2 ^ 96 ≤ 10 * 10 ^ 28 * (unit * 10 ^ 27) := calc
        2 * productMissed * count * 2 ^ 96 = 2 * productMissed * 2 ^ 96 * count :=
          Nat.mul_right_comm _ _ _
        _ ≤ 10 * product * 10 ^ 28 * count := Nat.mul_le_mul_right count relative
        _ = 10 * 10 ^ 28 * (product * count) := by ring
        _ ≤ 10 * 10 ^ 28 * (unit * 10 ^ 27) :=
          Nat.mul_le_mul_left _ (Nat.le_trans (Nat.mul_le_mul_right count atMost) small)
      omega
  omega

section Product

variable {money : Money} {places amount : Nat} {count : UInt32} {product : Decimal}
  (minor : money.IsMinor places)
  (counted : money.units = amount * 10 ^ (Decimal.maxScale - places)) (some : count ≠ 0)
  (multiplied : money.amount.mul? (Rate.oneOver count).decimal = Option.some product)
include minor counted some multiplied

theorem product_near_of_small (small : amount * count.toNat ≤ 10 ^ 27) :
    2 * ((product.magnitude * count.toNat : Nat) -
      (amount * 10 ^ (Decimal.maxScale - places) : Nat) : Int).natAbs <
        10 ^ (Decimal.maxScale - places) := by
  have placesFew := places_le minor.precision_eq
  have natural : money.amount.units = (amount * 10 ^ (Decimal.maxScale - places) : Nat) := by
    rw [← units, counted]
    push_cast
    rfl
  have nonneg : 0 ≤ money.amount.units := by
    rw [natural]
    exact Int.natCast_nonneg _
  obtain ⟨portionNonneg, portionLe⟩ := Rate.isPortion_iff.mp (Rate.oneOver_isPortion count)
  obtain ⟨_, again, productNonneg, productLe, _⟩ :=
    Decimal.exists_mul?_portion nonneg portionNonneg portionLe
  cases multiplied.symm.trans again
  have near := Decimal.near_of_mul? nonneg portionNonneg multiplied
  rw [natural, Decimal.units_of_nonneg productNonneg] at near productLe
  refine share_near_of_small ?_ count.toNat_lt ?_ (by exact_mod_cast productLe)
    (Rate.oneOver_near some) (by simpa using near)
  · rw [Nat.mul_right_comm, Nat.mul_comm (10 ^ _)]
    exact Nat.mul_le_mul_right _ small
  · apply Nat.pow_le_pow_right (by decide)
    simp only [Decimal.maxScale]
    omega

/-- A product that should end in half a minor unit is below it exactly when the half is lost. -/
theorem half_le_product_iff (bound : amount ≤ 10 ^ 27)
    (tie : 2 * (amount % count.toNat) = count.toNat) :
    (2 * (amount / count.toNat) + 1) * 10 ^ (Decimal.maxScale - places) ≤ 2 * product.magnitude ↔
      ¬LosesHalf places amount count.toNat := by
  have placesFew := places_le minor.precision_eq
  have placesLe := places_le_maxScale minor.precision_eq
  have nonneg : 0 ≤ money.amount.units := by
    rw [← units, counted]
    positivity
  have portionNonneg := (Rate.isPortion_iff.mp (Rate.oneOver_isPortion count)).1
  have productUnits := Decimal.units_of_nonneg
    (Decimal.units_nonneg_of_mul? nonneg portionNonneg multiplied)
  have wholeLe := Nat.div_le_self amount count.toNat
  obtain ⟨half, halfPos, isEven, halfUnits⟩ :=
    @Decimal.exists_half places (amount / count.toNat) (by simp only [Decimal.maxScale]; omega)
      (by simp only [Decimal.mantissaBound]; omega)
  have twice : ((2 * (amount / count.toNat : Nat) + 1) * count.toNat : Int) = 2 * amount := by
    exact_mod_cast Rounding.two_mul_eq_of_half tie
  have exact : money.amount.units * (Rate.oneOver count).decimal.units = half.units *
      (10 ^ Decimal.maxScale -
        (10 ^ Decimal.maxScale - (Rate.oneOver count).decimal.units * count.toNat)) := by
    apply Int.eq_of_mul_eq_mul_left (show (2 : Int) ≠ 0 by decide)
    rw [← units, counted, sub_sub_cancel]
    calc
      2 * (amount * 10 ^ (Decimal.maxScale - places) * (Rate.oneOver count).decimal.units) =
          2 * amount * 10 ^ (Decimal.maxScale - places) * (Rate.oneOver count).decimal.units := by
        ring
      _ = 2 * half.units * ((Rate.oneOver count).decimal.units * count.toNat) := by
        rw [← twice, halfUnits]
        ring
      _ = _ := Int.mul_assoc _ _ _
  have below := Decimal.units_lt_of_mul?_iff nonneg portionNonneg halfPos isEven exact multiplied
  rw [halfUnits, productUnits] at below
  rw [losesHalf_iff placesLe (toNat_pos_of_ne_zero some) tie, UInt32.ofNat_toNat, ← below, not_lt]
  have doubled : ((2 * (amount / count.toNat) + 1) * 10 ^ (Decimal.maxScale - places) : Nat) =
      2 * half.units := by
    rw [halfUnits]
    push_cast
    rfl
  omega

/-- A product that should not end in half a minor unit is on the same side of the half as the exact
quotient, unless it is too close to tell. -/
theorem half_le_product_iff_of_clear
    (near : ((product.magnitude * count.toNat : Nat) -
      (amount * 10 ^ (Decimal.maxScale - places) : Nat) : Int).natAbs ≤
        10 ^ (27 - places) * count.toNat)
    (noTie : 2 * (amount % count.toNat) ≠ count.toNat) (clear : ¬IsUnclear amount count.toNat) :
    (2 * (amount / count.toNat) + 1) * 10 ^ (Decimal.maxScale - places) ≤ 2 * product.magnitude ↔
      (2 * (amount / count.toNat) + 1) * count.toNat ≤ 2 * amount := by
  have apart := Rounding.two_mul_sub_half amount count.toNat
  by_cases small : amount * count.toNat ≤ 10 ^ 27
  · refine Rounding.half_le_iff_of_close (Nat.le_refl _) ?_
    have missed := product_near_of_small minor counted some multiplied small
    rw [apart]
    apply Nat.lt_of_lt_of_le missed
    exact Nat.le_mul_of_pos_left _ (by omega)
  · refine Rounding.half_le_iff_of_close near ?_
    have far : count.toNat < 5 * (2 * (amount % count.toNat : Nat) - count.toNat : Int).natAbs := by
      by_contra close
      exact clear ⟨Nat.lt_of_not_le small, noTie, Nat.le_of_not_lt close⟩
    have placesFew := places_le minor.precision_eq
    have exponent : Decimal.maxScale - places = 27 - places + 1 := by
      simp only [Decimal.maxScale]
      omega
    have tenthPos : 0 < 10 ^ (27 - places) := Nat.pow_pos (by decide)
    have scaled := Nat.mul_lt_mul_of_pos_left far tenthPos
    rw [apart, exponent, Nat.pow_succ]
    linarith

end Product

/-- One `k`-th is taken as the nearest whole number of minor units, or as one less. -/
theorem exists_nearest_share {money : Money} {places amount : Nat} {count : UInt32} {split : Split}
    (minor : money.IsMinor places)
    (counted : money.units = amount * 10 ^ (Decimal.maxScale - places))
    (bound : amount ≤ 10 ^ 27) (some : count ≠ 0)
    (splits : money.split (.oneOver count) = .ok split) :
    ∃ share : Nat, split.taken.units = share * 10 ^ (Decimal.maxScale - places) ∧
      IsNearest places amount count.toNat share := by
  have countPos := toNat_pos_of_ne_zero some
  have unitPos : 0 < 10 ^ (Decimal.maxScale - places) := Nat.pow_pos (by decide)
  obtain ⟨share, shareUnits, sides⟩ := exists_share minor counted bound some splits
  obtain ⟨product, multiplied, _, near, takenUnits⟩ :=
    exists_product_of_split minor counted bound some splits
  have rounded : share = Rounding.halfUp product.magnitude (10 ^ (Decimal.maxScale - places)) := by
    rw [takenUnits] at shareUnits
    apply Nat.eq_of_mul_eq_mul_right unitPos
    exact_mod_cast shareUnits.symm
  have low := (sides (amount / count.toNat)).1 (Nat.div_mul_le_self _ _)
  have high := (sides (amount / count.toNat + 1)).2
    (Nat.le_of_lt (Nat.lt_mul_of_div_lt (Nat.lt_succ_self _) countPos))
  have half : amount / count.toNat + 1 ≤ share ↔
      (2 * (amount / count.toNat) + 1) * 10 ^ (Decimal.maxScale - places) ≤
        2 * product.magnitude := by
    rw [rounded, Rounding.succ_le_halfUp_iff unitPos]
  refine ⟨share, shareUnits, ?_, ?_⟩
  · intro loses
    have below := mt (half_le_product_iff minor counted some multiplied bound loses.1).mp
      (not_not_intro loses)
    rw [← half] at below
    have nearLow := (Rounding.succ_le_halfUp_iff countPos).mpr
      (Nat.le_of_eq (Rounding.two_mul_eq_of_half loses.1))
    have nearHigh := Rounding.halfUp_le amount count.toNat countPos
    omega
  · intro keeps clear
    rw [Rounding.eq_halfUp_iff countPos low high, half]
    by_cases tie : 2 * (amount % count.toNat) = count.toNat
    · exact iff_of_true
        ((half_le_product_iff minor counted some multiplied bound tie).mpr keeps)
        (Nat.le_of_eq (Rounding.two_mul_eq_of_half tie))
    · exact half_le_product_iff_of_clear minor counted some multiplied near tie clear

example : LosesHalf 2 11502 12 ∧ ¬LosesHalf 2 11502 6 := by
  decide +kernel

end Money

namespace RepaymentTerms

/-- Each installment made from what remains is the nearest share of what the installments before it
leave, or one less. -/
theorem installmentsFrom_isNearest {count : UInt32} {start : Instant}
    {places left number amount : Nat} {remaining : Money} {made : List Installment}
    {result : List Installment × Money} (minor : remaining.IsMinor places)
    (counted : remaining.units = amount * 10 ^ (Decimal.maxScale - places))
    (bound : amount ≤ 10 ^ 27) (few : left < 2 ^ 32)
    (makes : installmentsFrom count start left number remaining made = .ok result) :
    ∃ new, result.1 = made.reverse ++ new ∧ new.length = left ∧
      ∀ (index : Nat) (installment : Installment), new[index]? = some installment →
        ∃ rest share : Nat,
          remaining.units - installmentUnits (new.take index) =
            rest * 10 ^ (Decimal.maxScale - places) ∧
          installment.amount.units = share * 10 ^ (Decimal.maxScale - places) ∧
          Money.IsNearest places rest (left - index) share := by
  induction left generalizing number remaining made amount with
  | zero =>
      cases makes
      exact ⟨[], by simp, rfl, by simp⟩
  | succ left ih =>
      obtain ⟨split, splits, makes⟩ := bind_eq_ok_iff.mp makes
      obtain ⟨due, _, makes⟩ := bind_eq_ok_iff.mp makes
      have countEq : (UInt32.ofNat (left + 1)).toNat = left + 1 := UInt32.toNat_ofNat_of_lt' few
      obtain ⟨share, shareUnits, nearest⟩ :=
        Money.exists_nearest_share minor counted bound (ofNat_succ_ne_zero few) splits
      rw [countEq] at nearest
      obtain ⟨restMinor, restUnits, restCounted⟩ := Money.remainder_of_count minor counted bound
        (Rate.oneOver_isPortion _) splits shareUnits
      obtain ⟨later, resultEq, length, laterNearest⟩ := ih restMinor restCounted
        (Nat.le_trans (Nat.sub_le _ _) bound) (by omega) makes
      let next : Installment := ⟨.ofNat number, count, { split.taken with time := due }⟩
      refine ⟨next :: later, ?_, ?_, ?_⟩
      · rw [resultEq, List.reverse_cons, List.append_assoc]
        rfl
      · rw [List.length_cons, length]
      · intro index installment found
        cases index with
        | zero =>
            cases found
            exact ⟨amount, share, by simpa [installmentUnits] using counted, shareUnits, nearest⟩
        | succ index =>
            obtain ⟨rest, laterShare, stillUnits, laterUnits, isNearest⟩ :=
              laterNearest index installment found
            refine ⟨rest, laterShare, ?_, laterUnits, ?_⟩
            · have nextUnits : next.amount.units = split.taken.units := rfl
              rw [List.take_succ_cons, installmentUnits, List.map_cons, List.sum_cons,
                ← installmentUnits, nextUnits, ← stillUnits, restUnits]
              omega
            · rwa [Nat.succ_sub_succ]

/-- Installments are the nearest shares, or one minor unit less where a half is lost.  When the total
is at most `10 ^ 27` minor units, each installment is what remains over the number of installments
still to come, rounded to a minor unit with an exact half going up; but it is one less exactly where
the product with the reciprocal loses the half.  Nothing is said of large balances that are close to
a half without being one. -/
theorem installments_nearest {terms : RepaymentTerms} {principal : Money} {start : Instant}
    {schedule : RepaymentSchedule} {places : Nat} (nonneg : 0 ≤ principal.units)
    (known : principal.precision = .ok places)
    (schedules : terms.schedule principal start = .ok schedule)
    (bound : schedule.total.units ≤ 10 ^ 27 * 10 ^ (Decimal.maxScale - places)) :
    schedule.installments.length = terms.installmentCount.toNat ∧
      ∀ (index : Nat) (installment : Installment),
        schedule.installments[index]? = some installment → ∃ rest share : Nat,
          schedule.total.units - installmentUnits (schedule.installments.take index) =
            rest * 10 ^ (Decimal.maxScale - places) ∧
          installment.amount.units = share * 10 ^ (Decimal.maxScale - places) ∧
          Money.IsNearest places rest (terms.installmentCount.toNat - index) share := by
  obtain ⟨_, amount, made, minor, counted, amountLe, makes, madeEq⟩ :=
    exists_counted_total nonneg known schedules bound
  obtain ⟨new, newEq, length, nearest⟩ := installmentsFrom_isNearest minor counted amountLe
    terms.installmentCount.toNat_lt makes
  have allMade : schedule.installments = new := by
    rw [madeEq, newEq]
    rfl
  rw [allMade]
  exact ⟨length, nearest⟩

/-- A hundred dollars and two cents, for which 115.02 are owed under the standard terms. -/
def loanOfHalfCent : Money :=
  .dollars (.ofDigits false 10002 2)

theorem installments_nearest_loanOfHalfCent :
    let terms := ofConfig .standard
    let unit : Int := 10 ^ (Decimal.maxScale - 2)
    ∃ schedule, terms.schedule loanOfHalfCent loanOfHalfCent.time = .ok schedule ∧
      0 ≤ loanOfHalfCent.units ∧ loanOfHalfCent.precision = .ok 2 ∧
      schedule.total.units ≤ 10 ^ 27 * unit ∧
      schedule.installments.length = terms.installmentCount.toNat ∧
      ∀ (index : Nat) (installment : Installment),
        schedule.installments[index]? = some installment → ∃ rest share : Nat,
          schedule.total.units - installmentUnits (schedule.installments.take index) =
            rest * unit ∧
          installment.amount.units = share * unit ∧
          Money.IsNearest 2 rest (terms.installmentCount.toNat - index) share := by
  have total : ((ofConfig .standard).schedule loanOfHalfCent loanOfHalfCent.time).map
      (fun schedule => schedule.total.units) = .ok (11502 * 10 ^ 26) := by decide +kernel
  obtain ⟨schedule, schedules, totalUnits⟩ := map_eq_ok_iff.mp total
  have nonneg : 0 ≤ loanOfHalfCent.units := by decide
  have known : loanOfHalfCent.precision = .ok 2 := by decide +kernel
  have bound : schedule.total.units ≤ 10 ^ 27 * 10 ^ (Decimal.maxScale - 2) := by
    rw [totalUnits]
    decide
  exact ⟨schedule, schedules, nonneg, known, bound,
    installments_nearest nonneg known schedules bound⟩

/-- A twelfth of 115.02 dollars is 9.585 of them, but the first installment is 9.58 and not 9.59: the
reciprocal of twelve ends in a three and the product falls short of the half. -/
theorem first_installment_loses_half :
    let terms := ofConfig .standard
    let unit : Int := 10 ^ (Decimal.maxScale - 2)
    terms.interestRate.IsPortion ∧ terms.serviceFeeRate.IsPortion ∧ 0 ≤ loanOfHalfCent.units ∧
      loanOfHalfCent.precision = .ok 2 ∧ ∃ schedule first,
        terms.schedule loanOfHalfCent loanOfHalfCent.time = .ok schedule ∧
        schedule.total.units = 11502 * unit ∧ schedule.installments[0]? = some first ∧
        first.amount.units = 958 * unit ∧
        Rounding.halfUp 11502 terms.installmentCount.toNat = 959 := by
  have made : ((ofConfig .standard).schedule loanOfHalfCent loanOfHalfCent.time).map
      (fun schedule => (schedule.total.units, schedule.installments[0]?.map (·.amount.units))) =
        .ok (11502 * 10 ^ 26, some (958 * 10 ^ 26)) := by decide +kernel
  obtain ⟨schedule, schedules, parts⟩ := map_eq_ok_iff.mp made
  obtain ⟨totalUnits, firstUnits⟩ := Prod.mk.inj parts
  obtain ⟨first, found, units⟩ := Option.map_eq_some_iff.mp firstUnits
  exact ⟨by decide +kernel, by decide +kernel, by decide, by decide +kernel, schedule, first,
    schedules, totalUnits, found, units, by decide⟩

end RepaymentTerms

end LoanBook
