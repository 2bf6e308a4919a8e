import LoanBook.Proofs.Allocation.Conservation
import LoanBook.Proofs.Allocation.Failures
import LoanBook.Proofs.Rate.Ratios

/-!
# Splitting by ratio is subtraction

An offer larger than what is outstanding is split by the ratio of the two, in decimals of limited
length and with two roundings.  For offers of at most `10 ^ 27` minor units the part taken is
nevertheless exactly what is outstanding, so an allocation is the one that plain subtraction makes,
and no split is ever missed.
-/

namespace LoanBook

/-- Two offers agree when they differ in nothing but the way their amounts are written. -/
def LenderOffer.Agrees (left right : LenderOffer) : Prop :=
  left.lender = right.lender ∧ left.contract = right.contract ∧ left.payment ≈ right.payment

/-- Two investments agree when they differ in nothing but the way their amounts are written. -/
def UsedInvestment.Agrees (left right : UsedInvestment) : Prop :=
  left.lender = right.lender ∧ left.contract = right.contract ∧
    left.investment ≈ right.investment ∧ left.repayment ≈ right.repayment

/-- Two allocations agree when they use, and do not use, the same in the same order. -/
structure Allocation.Agrees (left right : Allocation) : Prop where
  used : List.Forall₂ UsedInvestment.Agrees left.used right.used
  unused : List.Forall₂ LenderOffer.Agrees left.unused right.unused

/-- Two answers are the same when they are failures for the same cause or allocations that agree. -/
inductive SameAnswer : Except Failure Allocation → Except Failure Allocation → Prop where
  | error (failure : Failure) : SameAnswer (.error failure) (.error failure)
  | ok {left right : Allocation} (agrees : left.Agrees right) : SameAnswer (.ok left) (.ok right)

theorem Money.equiv_refl (money : Money) : money ≈ money :=
  ⟨rfl, rfl, rfl, rfl⟩

theorem LenderOffer.Agrees.refl (offer : LenderOffer) : offer.Agrees offer :=
  ⟨rfl, rfl, offer.payment.equiv_refl⟩

theorem UsedInvestment.Agrees.refl (used : UsedInvestment) : used.Agrees used :=
  ⟨rfl, rfl, used.investment.equiv_refl, used.repayment.equiv_refl⟩

theorem Allocation.Agrees.refl (allocation : Allocation) : allocation.Agrees allocation where
  used := List.forall₂_same.mpr fun used _ => .refl used
  unused := List.forall₂_same.mpr fun offer _ => .refl offer

namespace SameAnswer

theorem refl (answer : Except Failure Allocation) : SameAnswer answer answer := by
  cases answer with
  | error failure => exact .error failure
  | ok allocation => exact .ok (.refl allocation)

/-- Computations that begin alike give the same answer if their ends do. -/
theorem bind {α : Type} {step : Except Failure α} {left right : α → Except Failure Allocation}
    (same : ∀ value, step = .ok value → SameAnswer (left value) (right value)) :
    SameAnswer (step >>= left) (step >>= right) := by
  cases ended : step with
  | error failure => exact .error failure
  | ok value => exact same value ended

end SameAnswer

/-- An offer of at most `10 ^ 27` minor units after rounding. -/
def LenderOffer.IsBounded (offer : LenderOffer) : Prop :=
  ∀ rounded places, offer.payment.rounded = .ok rounded → offer.payment.precision = .ok places →
    rounded.value.units * 10 ^ places ≤ 10 ^ 27 * 10 ^ 28

namespace AllocationTerms

/-- Splits an offer larger than what is outstanding by taking exactly that away. -/
def subtract (offer : LenderOffer) (outstanding : Decimal) : Except Failure Split := do
  let difference ← granted (offer.payment.amount.sub? outstanding)
  return ⟨{ offer.payment with amount := outstanding },
    { offer.payment with amount := difference }⟩

theorem subtract_failsOnMoney (offer : LenderOffer) (outstanding : Decimal) :
    FailsOnMoney (subtract offer outstanding) :=
  .bind (.granted _ trivial) fun _ => .ok _

variable {places : Nat}

/-- A bound in minor units leaves room for one place more in 96 bits. -/
theorem units_le_of_bounded {units : Int} (placesLe : places ≤ 4)
    (bound : units * 10 ^ places ≤ 10 ^ 27 * 10 ^ 28) :
    units ≤ 10 ^ (27 - places) * 10 ^ Decimal.maxScale := by
  have power : (10 : Int) ^ 27 = 10 ^ (27 - places) * 10 ^ places := by
    rw [← pow_add, Nat.sub_add_cancel (by omega)]
  rw [power, Int.mul_right_comm] at bound
  exact Int.le_of_mul_le_mul_right bound (by positivity)

theorem fitsMinor_of_le {units : Int} (placesLe : places ≤ 4) (nonneg : 0 ≤ units)
    (bound : units ≤ 10 ^ (27 - places) * 10 ^ Decimal.maxScale) :
    Decimal.FitsMinor places (2 * units) := by
  have power : (10 : Int) ^ (27 - places) * 10 ^ Decimal.maxScale =
      10 ^ 27 * 10 ^ (Decimal.maxScale - places) := by
    rw [← pow_add, ← pow_add]
    congr 1
    simp only [Decimal.maxScale]
    omega
  rw [power] at bound
  have positive : (0 : Int) < 10 ^ (Decimal.maxScale - places) := by positivity
  unfold Decimal.FitsMinor
  zify
  rw [abs_of_nonneg (by omega)]
  simp only [Decimal.mantissaBound]
  push_cast
  nlinarith

/-- A ratio that misses by half a unit of the last place and a product that misses by half a
twentieth miss by a twentieth together. -/
theorem near_of_gaps {offer ratio product outstanding : Int} {twentieth : Nat}
    (nonneg : 0 ≤ offer) (bound : offer ≤ twentieth * 10 ^ Decimal.maxScale)
    (ratioGap : 2 * (ratio * offer - outstanding * 10 ^ Decimal.maxScale).natAbs ≤ offer.natAbs)
    (productGap : 2 * (product * 10 ^ Decimal.maxScale - offer * ratio).natAbs ≤
      twentieth * 10 ^ Decimal.maxScale) :
    (product - outstanding).natAbs ≤ twentieth := by
  rw [Int.mul_comm ratio] at ratioGap
  simp only [Decimal.maxScale] at bound productGap ratioGap
  generalize offer * ratio = exact at productGap ratioGap
  omega

section Overfill

variable {offer : LenderOffer} {outstanding : Decimal}
  (minor : offer.payment.IsMinor places) (short : outstanding.scale ≤ places)
  (positive : 0 < outstanding.units) (exceeds : outstanding.units < offer.payment.units)
  (bound : offer.payment.units ≤ 10 ^ (27 - places) * 10 ^ Decimal.maxScale)
include minor short positive exceeds bound

/-- The ratio of the outstanding amount to the offer takes the outstanding amount from it: the ratio
and the product each miss by a twentieth of a minor unit at most. -/
theorem exists_overfill :
    ∃ raw difference, overfill offer outstanding =
        .ok ⟨{ offer.payment with amount := raw }, { offer.payment with amount := difference }⟩ ∧
      raw.scale ≤ places ∧ raw ≈ outstanding ∧
      difference.units = offer.payment.units - outstanding.units := by
  have placesLe := Money.places_le minor.precision_eq
  have placesMax := Money.places_le_maxScale minor.precision_eq
  have offerNonneg : 0 ≤ offer.payment.units := by omega
  obtain ⟨ratio, ratioEq, isPortion, ratioNear⟩ := Rate.exists_ratio? (Int.le_of_lt positive)
    (Int.le_of_lt exceeds) (Int.lt_trans positive exceeds)
  obtain ⟨ratioNonneg, ratioLe⟩ := Rate.isPortion_iff.mp isPortion
  obtain ⟨product, multiplied, productNonneg, productNear⟩ := Decimal.exists_mul?_near offerNonneg
    ratioNonneg ratioLe (show places < Decimal.maxScale by simp only [Decimal.maxScale]; omega)
    bound
  have near : (product.units - outstanding.units).natAbs ≤ 10 ^ (27 - places) :=
    near_of_gaps offerNonneg (by exact_mod_cast bound) ratioNear productNear
  have taken : product.round places ≈ outstanding := by
    apply Decimal.round_equiv_of_near productNonneg (Int.le_of_lt positive) short placesMax
    have power : 10 ^ (Decimal.maxScale - places) = 10 ^ (27 - places) * 10 := by
      rw [← Nat.pow_succ]
      congr 1
      simp only [Decimal.maxScale]
      omega
    have powerPos : 0 < 10 ^ (27 - places) := Nat.pow_pos (by decide)
    rw [power]
    omega
  have takenUnits : (product.round places).units = outstanding.units := taken
  have fits : Decimal.FitsMinor places
      (offer.payment.amount.units - (product.round places).units) := by
    have twice := fitsMinor_of_le placesLe offerNonneg bound
    have offerUnits : offer.payment.amount.units = offer.payment.units := rfl
    exact twice.of_le (by omega) (by omega)
  obtain ⟨difference, leaves, _, differenceUnits⟩ := Decimal.exists_sub? minor.scale_le
    (Decimal.round_scale_le product places) placesMax fits
  refine ⟨product.round places, difference, ?_, Decimal.round_scale_le product places, taken, ?_⟩
  · have splits := Money.split_of_portion isPortion minor.precision_eq multiplied leaves
    rw [overfill, ratioEq]
    dsimp only
    rw [splits, ok_bind, if_pos taken]
    rfl
  · rw [differenceUnits, takenUnits]
    rfl

theorem exists_subtract :
    ∃ difference, subtract offer outstanding =
        .ok ⟨{ offer.payment with amount := outstanding },
          { offer.payment with amount := difference }⟩ ∧
      difference.units = offer.payment.units - outstanding.units := by
  have placesLe := Money.places_le minor.precision_eq
  have twice := fitsMinor_of_le placesLe (show 0 ≤ offer.payment.units by omega) bound
  have offerUnits : offer.payment.amount.units = offer.payment.units := rfl
  obtain ⟨difference, leaves, _, differenceUnits⟩ := Decimal.exists_sub? minor.scale_le short
    (Money.places_le_maxScale minor.precision_eq) (twice.of_le (by omega) (by omega))
  refine ⟨difference, ?_, differenceUnits⟩
  rw [subtract, leaves]
  rfl

end Overfill

variable {terms : AllocationTerms} {bounds : AllocationBounds}

theorem use_agrees {offer : LenderOffer} {investment other : Money}
    (portion : terms.lenderInterestRate.IsPortion) (minor : investment.IsMinor places)
    (otherMinor : other.IsMinor places) (nonneg : 0 ≤ investment.units)
    (fits : Decimal.FitsMinor places (2 * investment.units)) (same : investment ≈ other) :
    ∃ used otherUsed, terms.use bounds offer investment = .ok used ∧
      terms.use bounds offer other = .ok otherUsed ∧ used.Agrees otherUsed := by
  obtain ⟨currencyEq, amountEq, _, _⟩ := id same
  have unitsEq : investment.units = other.units := amountEq
  obtain ⟨interest, owed, splits, uses, owedUnits⟩ :=
    @exists_use terms bounds places offer investment minor nonneg fits portion
  obtain ⟨otherInterest, otherOwed, otherSplits, otherUses, otherOwedUnits⟩ :=
    @exists_use terms bounds places offer other otherMinor (unitsEq ▸ nonneg) (unitsEq ▸ fits)
      portion
  have takenEq := Money.taken_units_congr minor.precision_eq otherMinor.precision_eq nonneg amountEq
    splits otherSplits
  refine ⟨_, _, uses, otherUses, rfl, rfl, same, currencyEq, ?_, rfl, rfl⟩
  show owed.negate.units = otherOwed.negate.units
  rw [Decimal.units_negate, Decimal.units_negate, owedUnits, otherOwedUnits, takenEq, unitsEq]

/-- How an allocation ends with the split of an offer larger than what is outstanding. -/
def closeWith (terms : AllocationTerms) (bounds : AllocationBounds) (progress : AllocationProgress)
    (offer : LenderOffer) (rest : List LenderOffer) (split : Split) :
    Except Failure Allocation := do
  let remaining ← progress.remaining.minus split.taken
  let used ← terms.use bounds offer split.taken
  return AllocationProgress.close
    ⟨used :: progress.used, { offer with payment := split.remainder } :: progress.unused, remaining⟩
    terms.policy rest

/-- An allocation under way that is closed with agreeing ends agrees. -/
theorem close_agrees {progress : AllocationProgress} {used otherUsed : UsedInvestment}
    {unused otherUnused : LenderOffer} (remaining otherRemaining : Money)
    (policy : CoveredOfferPolicy) (rest : List LenderOffer) (usedAgrees : used.Agrees otherUsed)
    (unusedAgrees : unused.Agrees otherUnused) :
    (AllocationProgress.close ⟨used :: progress.used, unused :: progress.unused, remaining⟩ policy
      rest).Agrees
    (AllocationProgress.close ⟨otherUsed :: progress.used, otherUnused :: progress.unused,
      otherRemaining⟩ policy rest) := by
  constructor
  · apply List.forall₂_reverse_iff.mpr
    exact .cons usedAgrees (List.forall₂_same.mpr fun used _ => .refl used)
  · apply List.rel_append
    · apply List.forall₂_reverse_iff.mpr
      exact .cons unusedAgrees (List.forall₂_same.mpr fun offer _ => .refl offer)
    · exact List.forall₂_same.mpr fun offer _ => .refl offer

/-- Both rules close an allocation with an offer larger than what is outstanding, and alike. -/
theorem closeWith_agrees {progress : AllocationProgress} {offer : LenderOffer}
    (rest : List LenderOffer) (portion : terms.lenderInterestRate.IsPortion)
    (minor : offer.payment.IsMinor places) (remainingMinor : progress.remaining.IsMinor places)
    (currencyEq : offer.payment.currency = progress.remaining.currency)
    (positive : 0 < progress.remaining.units)
    (exceeds : progress.remaining.units < offer.payment.units)
    (bound : offer.payment.units ≤ 10 ^ (27 - places) * 10 ^ Decimal.maxScale) :
    SameAnswer
      (overfill offer progress.remaining.amount >>=
        closeWith terms bounds progress offer rest)
      (subtract offer progress.remaining.amount >>=
        closeWith terms bounds progress offer rest) := by
  have placesLe := Money.places_le minor.precision_eq
  have offerTwice := fitsMinor_of_le placesLe (show 0 ≤ offer.payment.units by omega) bound
  have twice : Decimal.FitsMinor places (2 * progress.remaining.units) :=
    offerTwice.of_le (by omega) (by omega)
  have once : Decimal.FitsMinor places progress.remaining.units :=
    twice.of_le (by omega) (by omega)
  obtain ⟨raw, left, overfills, rawShort, rawSame, leftUnits⟩ :=
    exists_overfill minor remainingMinor.scale_le positive exceeds bound
  obtain ⟨difference, subtracts, differenceUnits⟩ :=
    exists_subtract minor remainingMinor.scale_le positive exceeds bound
  have rawUnits : raw.units = progress.remaining.units := rawSame
  have taken : Money.IsMinor places { offer.payment with amount := raw } :=
    ⟨minor.precision_eq, rawShort⟩
  have plainTaken : Money.IsMinor places
      { offer.payment with amount := progress.remaining.amount } :=
    ⟨minor.precision_eq, remainingMinor.scale_le⟩
  have rawTwice : Decimal.FitsMinor places (2 * raw.units) := rawUnits ▸ twice
  obtain ⟨used, otherUsed, uses, otherUses, usedAgrees⟩ := @use_agrees places terms bounds offer _ _
    portion taken plainTaken (show 0 ≤ raw.units by omega) rawTwice ⟨rfl, rawSame, rfl, rfl⟩
  obtain ⟨amount, leaves, _, _⟩ := @Money.exists_minus _ { offer.payment with amount := raw } _
    remainingMinor currencyEq rawShort (show 0 ≤ raw.units by omega) (Int.le_of_eq rawUnits) once
  obtain ⟨otherAmount, otherLeaves, _, _⟩ :=
    @Money.exists_minus _ { offer.payment with amount := progress.remaining.amount } _
      remainingMinor currencyEq remainingMinor.scale_le (Int.le_of_lt positive) (Int.le_refl _) once
  rw [overfills, subtracts, ok_bind, ok_bind, closeWith, closeWith]
  dsimp only
  rw [leaves, otherLeaves, ok_bind, ok_bind, uses, otherUses]
  apply SameAnswer.ok
  apply close_agrees _ _ _ _ usedAgrees
  exact ⟨rfl, rfl, rfl, leftUnits.trans differenceUnits.symm, rfl, rfl⟩

/-- The two rules give the same answer for the rest of an allocation. -/
theorem fillBy_agrees {progress : AllocationProgress} {offers : List LenderOffer}
    (portion : terms.lenderInterestRate.IsPortion)
    (known : ∀ money : Money, money.currency = bounds.currency → money.precision = .ok places)
    (bounded : ∀ offer ∈ offers, offer.IsBounded)
    (currencyEq : progress.remaining.currency = bounds.currency)
    (short : progress.remaining.amount.scale ≤ places) (positive : 0 < progress.remaining.units) :
    SameAnswer (terms.fillBy overfill bounds progress offers)
      (terms.fillBy subtract bounds progress offers) := by
  induction offers generalizing progress with
  | nil => exact .refl _
  | cons listed rest ih =>
      have boundedRest := fun offer member => bounded offer (List.mem_cons_of_mem listed member)
      unfold fillBy
      by_cases foreign : listed.payment.currency ≠ bounds.currency
      · rw [if_pos foreign, if_pos foreign]
        exact .refl _
      · rw [if_neg foreign, if_neg foreign]
        apply SameAnswer.bind
        intro rounded rounds
        dsimp only
        by_cases meets : rounded.value.amount ≈ progress.remaining.amount
        · rw [if_pos meets, if_pos meets]
          exact .refl _
        · rw [if_neg meets, if_neg meets]
          by_cases exceeds : progress.remaining.amount < rounded.value.amount
          · rw [if_pos exceeds, if_pos exceeds]
            have own : listed.payment.currency = bounds.currency := not_not.mp foreign
            obtain ⟨ownPlaces, minor, ownKnown, valueEq⟩ := Money.isMinor_of_rounded rounds
            cases (known _ own).symm.trans ownKnown
            have bound := bounded listed List.mem_cons_self rounded places rounds (known _ own)
            have valueCurrency : rounded.value.currency = progress.remaining.currency := by
              rw [valueEq, currencyEq]
              exact own
            exact closeWith_agrees rest portion minor ⟨known _ currencyEq, short⟩ valueCurrency
              positive exceeds (units_le_of_bounded (Money.places_le (known _ own)) bound)
          · rw [if_neg exceeds, if_neg exceeds]
            by_cases accepted : bounds.least ≤ rounded.value.amount ∧
                rounded.value.amount ≤ bounds.most
            · rw [if_pos accepted, if_pos accepted]
              apply SameAnswer.bind
              intro used _
              apply SameAnswer.bind
              intro remaining leaves
              cases covered : remaining.amount.isZero with
              | true => exact .refl _
              | false =>
                  obtain ⟨_, amount, added, rfl⟩ := Money.minus_eq_ok_iff.mp leaves
                  have less : rounded.value.amount.units < progress.remaining.amount.units := by
                    rw [Decimal.equiv_def] at meets
                    rw [Decimal.lt_def] at exceeds
                    omega
                  obtain ⟨ownPlaces, minor, ownKnown, _⟩ := Money.isMinor_of_rounded rounds
                  cases (known _ (not_not.mp foreign)).symm.trans ownKnown
                  have negatedShort : rounded.value.amount.negate.scale ≤ places := minor.scale_le
                  rw [if_neg Bool.false_ne_true, if_neg Bool.false_ne_true]
                  apply ih boundedRest
                  · exact currencyEq
                  · exact Decimal.scale_le_of_add? short negatedShort added
                  · refine Decimal.units_pos_of_add? ?_ added
                    rw [Decimal.units_negate]
                    omega
            · rw [if_neg accepted, if_neg accepted]
              exact ih boundedRest currencyEq short positive

/-- The allocation by ratio is the allocation by subtraction: for a principal above zero and offers
of at most `10 ^ 27` minor units the two use the same, leave the same unused or fail for the same
cause, and no split by ratio misses the outstanding amount. -/
theorem allocate_agrees_subtract {terms : AllocationTerms} {principal : Money}
    {offers : List LenderOffer} (portion : terms.lenderInterestRate.IsPortion)
    (positive : ∀ rounded, principal.rounded = .ok rounded →
      rounded.value.amount.isPositive = true)
    (bounded : ∀ offer ∈ offers, offer.IsBounded) (loan : LoanId) (now : Calendar.Instant) :
    SameAnswer (terms.allocate loan principal offers now)
        (terms.allocateBy subtract loan principal offers now) ∧
      ∀ failure, terms.allocate loan principal offers now = .error failure →
        ¬ failure.IsMissedSplit := by
  have agrees : SameAnswer (terms.allocate loan principal offers now)
      (terms.allocateBy subtract loan principal offers now) := by
    apply SameAnswer.bind
    intro rounded rounds
    apply SameAnswer.bind
    intro share _
    apply SameAnswer.bind
    intro due _
    obtain ⟨places, minor, _, _⟩ := Money.isMinor_of_rounded rounds
    have units := positive rounded rounds
    rw [Decimal.isPositive, decide_eq_true_eq, Decimal.lt_def, Decimal.units_zero] at units
    exact fillBy_agrees portion
      (fun money same => (Money.precision_congr same).trans minor.precision_eq) bounded rfl
      minor.scale_le units
  refine ⟨agrees, ?_⟩
  rintro failure failed ⟨offer, lender, taken, outstanding, rfl⟩
  have plainFails := allocateBy_failsWithin (fun _ => id) subtract_failsOnMoney terms loan principal
    offers now
  rw [failed] at agrees
  cases plain : terms.allocateBy subtract loan principal offers now with
  | error cause =>
      rw [plain] at agrees
      cases agrees
      exact plainFails _ plain
  | ok allocation =>
      rw [plain] at agrees
      cases agrees

/-- An offer of a hundred dollars. -/
def hundredDollars : LenderOffer :=
  ⟨⟨"lender"⟩, none, .dollars .hundred⟩

theorem allocate_agrees_subtract_hundredDollars :
    let terms := AllocationTerms.ofConfig .standard
    let principal : Money := { hundredDollars.payment with amount := .ofUInt32 3 }
    let loan : LoanId := .ofClock 0 1
    let now := hundredDollars.payment.time
    terms.lenderInterestRate.IsPortion ∧
      (∀ rounded, principal.rounded = .ok rounded → rounded.value.amount.isPositive = true) ∧
      (∀ offer ∈ [hundredDollars], offer.IsBounded) ∧
      SameAnswer (terms.allocate loan principal [hundredDollars] now)
        (terms.allocateBy subtract loan principal [hundredDollars] now) ∧
      ∀ failure, terms.allocate loan principal [hundredDollars] now = .error failure →
        ¬ failure.IsMissedSplit := by
  intro terms principal loan now
  have portion : terms.lenderInterestRate.IsPortion := by decide +kernel
  have known : hundredDollars.payment.precision = .ok 2 := by decide +kernel
  have positive : ∀ rounded, principal.rounded = .ok rounded →
      rounded.value.amount.isPositive = true := by
    intro rounded rounds
    obtain ⟨places, principalKnown, rfl⟩ := Money.rounded_eq_ok_iff.mp rounds
    cases known.symm.trans principalKnown
    decide +kernel
  have bounded : ∀ offer ∈ [hundredDollars], offer.IsBounded := by
    intro offer member rounded places rounds offerKnown
    cases List.mem_singleton.mp member
    cases known.symm.trans offerKnown
    obtain ⟨_, roundedKnown, rfl⟩ := Money.rounded_eq_ok_iff.mp rounds
    cases known.symm.trans roundedKnown
    decide +kernel
  exact ⟨portion, positive, bounded, allocate_agrees_subtract portion positive bounded loan now⟩

end AllocationTerms

end LoanBook
