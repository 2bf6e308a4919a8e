import LoanBook.Proofs.Allocation.Filling
import LoanBook.Proofs.Money.Exact

/-!
# An allocation covers the principal exactly

What is used of the offers adds up to the principal, whether the last of them meets what is
outstanding, exceeds it or falls short of it, and every lender is owed what was used with interest.
-/

namespace LoanBook

/-- What is used of an offer is above zero, and the lender is owed it with interest. -/
structure UsedInvestment.IsOwed (rate : Rate) (currency : String) (used : UsedInvestment) :
    Prop where
  positive : 0 < used.investment.units
  currency_eq : used.investment.currency = currency
  repayment_currency : used.repayment.currency = currency
  repayment_units : ∃ interest, used.investment.split rate = .ok interest ∧
    used.repayment.units = -(used.investment.units + interest.taken.units)

/-- The sum of what is used, in units of `10 ^ -28`. -/
def usedUnits (used : List UsedInvestment) : Int :=
  (used.map fun used => used.investment.units).sum

theorem usedUnits_nonneg {used : List UsedInvestment}
    (nonneg : ∀ investment ∈ used, 0 ≤ investment.investment.units) : 0 ≤ usedUnits used := by
  apply List.sum_nonneg
  intro amount member
  obtain ⟨investment, investmentMem, rfl⟩ := List.mem_map.mp member
  exact nonneg investment investmentMem

namespace AllocationProgress

/-- What is used so far and what is outstanding make up the principal. -/
structure Conserves (places : Nat) (currency : String) (rate : Rate)
    (principal : Int) (progress : AllocationProgress) : Prop where
  minor : progress.remaining.IsMinor places
  currency_eq : progress.remaining.currency = currency
  nonneg : 0 ≤ progress.remaining.units
  owed : ∀ used ∈ progress.used, used.IsOwed rate currency
  total : usedUnits progress.used + progress.remaining.units = principal

/-- Closing an allocation changes nothing about what is used. -/
theorem usedUnits_close (progress : AllocationProgress) (policy : CoveredOfferPolicy)
    (rest : List LenderOffer) :
    usedUnits (progress.close policy rest).used = usedUnits progress.used := by
  show usedUnits progress.used.reverse = usedUnits progress.used
  rw [usedUnits, List.map_reverse, List.sum_reverse, ← usedUnits]

/-- An allocation that is closed when nothing is outstanding uses the principal. -/
theorem Conserves.close {places : Nat} {currency : String} {rate : Rate} {principal : Int}
    {progress : AllocationProgress} (conserves : progress.Conserves places currency rate principal)
    (covered : progress.remaining.units = 0) (policy : CoveredOfferPolicy)
    (rest : List LenderOffer) :
    (∀ used ∈ (progress.close policy rest).used, used.IsOwed rate currency) ∧
      usedUnits (progress.close policy rest).used = principal := by
  constructor
  · intro used member
    exact conserves.owed used (List.mem_reverse.mp member)
  · rw [usedUnits_close, ← conserves.total, covered, Int.add_zero]

/-- Something is outstanding, in minor units. -/
structure IsOpen (places : Nat) (progress : AllocationProgress) : Prop where
  minor : progress.remaining.IsMinor places
  positive : 0 < progress.remaining.units

end AllocationProgress

/-- An offer that is listed rounded is not changed by rounding it again. -/
theorem LenderOffer.rounded_of_isMinor {offer : LenderOffer} {rounded : Rounded} {places : Nat}
    {currency : String}
    (known : ∀ money : Money, money.currency = currency → money.precision = .ok places)
    (minor : ∃ own, offer.payment.IsMinor own) (same : offer.payment.currency = currency)
    (rounds : offer.payment.rounded = .ok rounded) :
    rounded.value = offer.payment ∧ rounded.value.IsMinor places := by
  obtain ⟨own, minor⟩ := minor
  have ownEq : own = places :=
    Except.ok.inj (minor.precision_eq.symm.trans (known _ same))
  rw [minor.value_of_rounded rounds]
  exact ⟨rfl, ownEq ▸ minor⟩

namespace AllocationTerms

variable {terms : AllocationTerms} {bounds : AllocationBounds} {places : Nat}

/-- Rounding an offer puts it in minor units of the currency, whatever it was before. -/
theorem isMinor_of_listed {listed : LenderOffer} {rounded : Rounded}
    (known : ∀ money : Money, money.currency = bounds.currency → money.precision = .ok places)
    (currency : listed.payment.currency = bounds.currency)
    (rounds : listed.payment.rounded = .ok rounded) :
    rounded.value.IsMinor places ∧ rounded.value.currency = bounds.currency := by
  obtain ⟨own, minor, ownKnown, valueEq⟩ := Money.isMinor_of_rounded rounds
  have same : rounded.value.currency = bounds.currency := by rw [valueEq, currency]
  cases ownKnown.symm.trans (known _ currency)
  exact ⟨minor, same⟩

/-- An offer that does not cover what is outstanding leaves some of it. -/
theorem isOpen_of_step {divide : LenderOffer → Decimal → Except Failure Split}
    {progress : AllocationProgress} {listed : LenderOffer} {next : AllocationStep}
    (known : ∀ money : Money, money.currency = bounds.currency → money.precision = .ok places)
    (isOpen : progress.IsOpen places)
    (steps : terms.step divide bounds progress listed = .ok next)
    (uncovered : next.covered = false) : next.progress.IsOpen places := by
  obtain ⟨currency, rounded, rounds, considers⟩ := considers_of_step steps
  obtain ⟨minor, _⟩ := isMinor_of_listed known currency rounds
  cases considers with
  | exact meets uses leaves => cases uncovered
  | larger exceeds divides leaves uses => cases uncovered
  | part short accepted uses leaves =>
      obtain ⟨remainingMinor, positive⟩ :=
        Money.isMinor_of_minus isOpen.minor minor.scale_le (Decimal.lt_def.mp short) leaves
      exact ⟨remainingMinor, positive⟩
  | skip short refused => exact ⟨isOpen.minor, isOpen.positive⟩

/-- An investment that fits twice can be used, and its lender is owed it with interest. -/
theorem exists_use {offer : LenderOffer} {investment : Money}
    (minor : investment.IsMinor places) (nonneg : 0 ≤ investment.units)
    (fits : Decimal.FitsMinor places (2 * investment.units))
    (portion : terms.lenderInterestRate.IsPortion) :
    ∃ (interest : Split) (owed : Decimal),
      investment.split terms.lenderInterestRate = .ok interest ∧
      terms.use bounds offer investment = .ok ⟨offer.lender, offer.contract, investment,
        ⟨investment.currency, owed.negate, bounds.repaymentDue, bounds.repaymentDetails⟩⟩ ∧
      owed.units = investment.units + interest.taken.units := by
  obtain ⟨interest, splits, isSplit, _⟩ :=
    Money.exists_split minor nonneg (fits.of_le nonneg (by omega)) portion
  have takenNonneg := isSplit.taken_nonneg
  have takenLe := isSplit.taken_le
  have fitsTotal : Decimal.FitsMinor places (investment.units + interest.taken.units) :=
    fits.of_le (by omega) (by omega)
  obtain ⟨amount, summed, _, total⟩ := @Money.exists_sum_taken _ _ [interest] minor nonneg
    (List.forall_mem_singleton.mpr isSplit) (by simpa using fitsTotal)
  refine ⟨interest, amount, splits, ?_, by simpa using total⟩
  rw [List.map_singleton] at summed
  rw [use, splits, ok_bind, summed]
  rfl

/-- An offer that is split by ratio has exactly the outstanding amount taken from it. -/
theorem taken_of_overfill {offer : LenderOffer} {outstanding : Decimal} {split : Split}
    (known : offer.payment.precision = .ok places)
    (divides : overfill offer outstanding = .ok split) :
    split.taken.IsMinor places ∧ split.taken.currency = offer.payment.currency ∧
      split.taken.units = outstanding.units := by
  obtain ⟨portion, splits, meets⟩ := exists_split_of_overfill divides
  obtain ⟨_, raw, _, takenEq⟩ := Money.taken_of_split known splits
  refine ⟨?_, ?_, meets⟩
  · rw [takenEq]
    exact ⟨known, Decimal.round_scale_le raw places⟩
  · rw [takenEq]

section Conserves

variable {progress : AllocationProgress} {principal : Int}
  (portion : terms.lenderInterestRate.IsPortion)
  (fits : Decimal.FitsMinor places (2 * principal))
include portion fits

/-- Using an investment of at most what is outstanding conserves the principal. -/
theorem conserves_use {offer : LenderOffer} {investment remaining : Money} {used : UsedInvestment}
    {unused : List LenderOffer}
    (conserves : progress.Conserves places bounds.currency terms.lenderInterestRate principal)
    (minor : investment.IsMinor places) (currencyEq : investment.currency = bounds.currency)
    (positive : 0 < investment.units) (atMost : investment.units ≤ progress.remaining.units)
    (uses : terms.use bounds offer investment = .ok used)
    (leaves : progress.remaining.minus investment = .ok remaining) :
    AllocationProgress.Conserves places bounds.currency terms.lenderInterestRate principal
        ⟨used :: progress.used, unused, remaining⟩ ∧
      remaining.units = progress.remaining.units - investment.units := by
  have usedNonneg := usedUnits_nonneg fun investment member =>
    Int.le_of_lt (conserves.owed investment member).positive
  have total := conserves.total
  have fitsTwice : Decimal.FitsMinor places (2 * investment.units) :=
    fits.of_le (by omega) (by omega)
  have fitsRemaining : Decimal.FitsMinor places progress.remaining.units :=
    fits.of_le conserves.nonneg (by omega)
  obtain ⟨interest, owed, splits, useEq, owedUnits⟩ :=
    @exists_use terms bounds places offer investment minor (Int.le_of_lt positive) fitsTwice portion
  cases uses.symm.trans useEq
  obtain ⟨amount, minusEq, short, difference⟩ := Money.exists_minus conserves.minor
    (currencyEq.trans conserves.currency_eq.symm) minor.scale_le (Int.le_of_lt positive) atMost
    fitsRemaining
  cases leaves.symm.trans minusEq
  have remainingUnits : Money.units { progress.remaining with amount := amount } =
      progress.remaining.units - investment.units := difference
  refine ⟨?_, remainingUnits⟩
  constructor
  · exact ⟨conserves.minor.precision_eq, short⟩
  · exact conserves.currency_eq
  · rw [remainingUnits]
    omega
  · intro used member
    rcases List.mem_cons.mp member with rfl | before
    · constructor
      · exact positive
      · exact currencyEq
      · exact currencyEq
      · refine ⟨interest, splits, ?_⟩
        show owed.negate.units = _
        rw [Decimal.units_negate, owedUnits]
    · exact conserves.owed used before
  · rw [remainingUnits, usedUnits, List.map_cons, List.sum_cons, ← usedUnits]
    show investment.units + usedUnits progress.used + _ = principal
    omega

/-- The investments used by a successful filling make up the principal. -/
theorem Fills.conserves {offers : List LenderOffer} {allocation : Allocation}
    (filled : Fills overfill terms bounds progress offers allocation)
    (known : ∀ money : Money, money.currency = bounds.currency → money.precision = .ok places)
    (positive : ∀ offer ∈ offers, (∃ own, offer.payment.IsMinor own) ∧ 0 < offer.payment.units)
    (conserves : progress.Conserves places bounds.currency terms.lenderInterestRate principal)
    (outstanding : 0 < progress.remaining.units) :
    (∀ used ∈ allocation.used, used.IsOwed terms.lenderInterestRate bounds.currency) ∧
      usedUnits allocation.used = principal := by
  -- an offer is listed rounded already, so its amount is the one that was positive
  have listedMinor {listed : LenderOffer} {rest : List LenderOffer} {rounded : Rounded}
      (good : ∀ offer ∈ listed :: rest,
        (∃ own, offer.payment.IsMinor own) ∧ 0 < offer.payment.units)
      (currency : listed.payment.currency = bounds.currency)
      (rounds : listed.payment.rounded = .ok rounded) :
      rounded.value.IsMinor places ∧ rounded.value.currency = bounds.currency ∧
        0 < rounded.value.units := by
    obtain ⟨own, units⟩ := good listed List.mem_cons_self
    obtain ⟨valueEq, minor⟩ := LenderOffer.rounded_of_isMinor known own currency rounds
    rw [valueEq] at minor ⊢
    exact ⟨minor, currency, units⟩
  induction filled with
  | exact currency rounds meets uses leaves =>
      obtain ⟨minor, currencyEq, units⟩ := listedMinor positive currency rounds
      have meets : Money.units _ = Money.units _ := meets
      obtain ⟨next, difference⟩ := conserves_use portion fits conserves minor currencyEq units
        (Int.le_of_eq meets) uses leaves
      exact next.close (by rw [difference, meets, Int.sub_self]) terms.policy _
  | larger currency rounds exceeds divides leaves uses =>
      obtain ⟨minor, currencyEq, _⟩ := listedMinor positive currency rounds
      obtain ⟨takenMinor, takenCurrency, takenUnits⟩ :=
        taken_of_overfill minor.precision_eq divides
      have taken : Money.units _ = Money.units _ := takenUnits
      obtain ⟨next, difference⟩ := conserves_use portion fits conserves takenMinor
        (takenCurrency.trans currencyEq) (by rw [taken]; exact outstanding) (Int.le_of_eq taken)
        uses leaves
      exact next.close (by rw [difference, taken, Int.sub_self]) terms.policy _
  | last currency rounds short accepted uses leaves covered =>
      obtain ⟨minor, currencyEq, units⟩ := listedMinor positive currency rounds
      obtain ⟨next, _⟩ := conserves_use portion fits conserves minor currencyEq units
        (Int.le_of_lt short) uses leaves
      exact next.close (Decimal.isZero_iff.mp covered) terms.policy _
  | part currency rounds short accepted uses leaves uncovered filled ih =>
      obtain ⟨minor, currencyEq, units⟩ := listedMinor positive currency rounds
      obtain ⟨next, difference⟩ := conserves_use portion fits conserves minor currencyEq units
        (Int.le_of_lt short) uses leaves
      apply ih (fun offer member => positive offer (List.mem_cons_of_mem _ member)) next
      have below : Money.units _ < Money.units _ := short
      rw [difference]
      omega
  | skip currency rounds short refused filled ih =>
      exact ih (fun offer member => positive offer (List.mem_cons_of_mem _ member))
        { conserves with } outstanding

end Conserves

end AllocationTerms

end LoanBook
