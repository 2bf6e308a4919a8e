import LoanBook.Proofs.Allocation.Filling
import LoanBook.Proofs.Money.MinorUnits

/-!
# Allocations in minor units

Offers are rounded before they are allocated, so all that an allocation uses of them, owes for them
and gives back of them is in minor units of one currency.  Offers that come after the closing one
are given back as they were listed.
-/

namespace LoanBook

/-- Something holds of everything that an allocation uses, owes and gives back. -/
structure Allocation.EachMoney (holds : Money → Prop) (allocation : Allocation) : Prop where
  investments : ∀ used ∈ allocation.used, holds used.investment
  repayments : ∀ used ∈ allocation.used, holds used.repayment
  unused : ∀ offer ∈ allocation.unused, holds offer.payment

theorem Allocation.EachMoney.mono {holds weaker : Money → Prop} {allocation : Allocation}
    (each : allocation.EachMoney holds) (weakens : ∀ money, holds money → weaker money) :
    allocation.EachMoney weaker where
  investments used member := weakens _ (each.investments used member)
  repayments used member := weakens _ (each.repayments used member)
  unused offer member := weakens _ (each.unused offer member)

/-- An allocation under way, in minor units of a currency. -/
structure AllocationProgress.IsMinorOf (currency : Currency) (progress : AllocationProgress) :
    Prop where
  investments : ∀ used ∈ progress.used, used.investment.IsMinorOf currency
  repayments : ∀ used ∈ progress.used, used.repayment.IsMinorOf currency
  unused : ∀ offer ∈ progress.unused, offer.payment.IsMinorOf currency
  remaining : progress.remaining.IsMinorOf currency

variable {currency : Currency}

theorem AllocationProgress.IsMinorOf.close {progress : AllocationProgress}
    (minor : progress.IsMinorOf currency) (policy : CoveredOfferPolicy) {rest : List LenderOffer}
    (restMinor : ∀ offer ∈ rest, offer.payment.IsMinorOf currency) :
    (progress.close policy rest).EachMoney (Money.IsMinorOf currency) where
  investments used member := minor.investments used (List.mem_reverse.mp member)
  repayments used member := minor.repayments used (List.mem_reverse.mp member)
  unused offer member := by
    rcases List.mem_append.mp member with before | after
    · exact minor.unused offer (List.mem_reverse.mp before)
    · cases policy with
      | drop => cases after
      | markUnused => exact restMinor offer after

theorem AllocationProgress.IsMinorOf.giveBack {progress : AllocationProgress} {offer : LenderOffer}
    (minor : progress.IsMinorOf currency) (offerMinor : offer.payment.IsMinorOf currency) :
    IsMinorOf currency { progress with unused := offer :: progress.unused } where
  investments := minor.investments
  repayments := minor.repayments
  unused := by
    intro other member
    rcases List.mem_cons.mp member with rfl | before
    · exact offerMinor
    · exact minor.unused other before
  remaining := minor.remaining

namespace AllocationTerms

variable {terms : AllocationTerms} {bounds : AllocationBounds}

theorem use_isMinorOf {offer : LenderOffer} {investment : Money} {used : UsedInvestment}
    (minor : investment.IsMinorOf currency)
    (uses : terms.use bounds offer investment = .ok used) :
    used.investment.IsMinorOf currency ∧ used.repayment.IsMinorOf currency := by
  obtain ⟨interest, splits, uses⟩ := bind_eq_ok_iff.mp uses
  obtain ⟨owed, sums, uses⟩ := bind_eq_ok_iff.mp uses
  cases uses
  have interestMinor := (minor.split splits).1
  have owedMinor := minor.sum (List.forall_mem_singleton.mpr interestMinor.scale_le) sums
  exact ⟨minor, owedMinor.of_eq rfl owedMinor.scale_le⟩

theorem overfill_isMinorOf {offer : LenderOffer} {outstanding : Decimal} {split : Split}
    (minor : offer.payment.IsMinorOf currency)
    (divides : overfill offer outstanding = .ok split) :
    split.taken.IsMinorOf currency ∧ split.remainder.IsMinorOf currency := by
  obtain ⟨portion, splits, _⟩ := exists_split_of_overfill divides
  exact minor.split splits

/-- Using some money of an offer keeps an allocation under way in minor units. -/
theorem isMinorOf_step {progress : AllocationProgress} {offer : LenderOffer} {investment : Money}
    {used : UsedInvestment} {remaining : Money} (minor : progress.IsMinorOf currency)
    (investmentMinor : investment.IsMinorOf currency)
    (uses : terms.use bounds offer investment = .ok used)
    (leaves : progress.remaining.minus investment = .ok remaining) :
    AllocationProgress.IsMinorOf currency ⟨used :: progress.used, progress.unused, remaining⟩ := by
  obtain ⟨usedMinor, repaymentMinor⟩ := use_isMinorOf investmentMinor uses
  exact
    { investments := List.forall_mem_cons.mpr ⟨usedMinor, minor.investments⟩
      repayments := List.forall_mem_cons.mpr ⟨repaymentMinor, minor.repayments⟩
      unused := minor.unused
      remaining := minor.remaining.minus investmentMinor leaves }

/-- Filling with offers in minor units of one currency leads to an allocation in them. -/
theorem Fills.isMinorOf {progress : AllocationProgress} {offers : List LenderOffer}
    {allocation : Allocation} (filled : Fills overfill terms bounds progress offers allocation)
    (offersMinor : ∀ offer ∈ offers, offer.payment.IsMinorOf currency)
    (minor : progress.IsMinorOf currency) : allocation.EachMoney (Money.IsMinorOf currency) := by
  induction filled with
  | exact _ rounds _ uses leaves =>
      obtain ⟨listedMinor, restMinor⟩ := List.forall_mem_cons.mp offersMinor
      have roundedMinor := Money.IsMinorOf.of_rounded listedMinor.found rounds
      exact (isMinorOf_step minor roundedMinor uses leaves).close _ restMinor
  | larger _ rounds _ divides leaves uses =>
      obtain ⟨listedMinor, restMinor⟩ := List.forall_mem_cons.mp offersMinor
      have roundedMinor := Money.IsMinorOf.of_rounded listedMinor.found rounds
      obtain ⟨takenMinor, remainderMinor⟩ := overfill_isMinorOf roundedMinor divides
      have next := isMinorOf_step minor takenMinor uses leaves
      refine AllocationProgress.IsMinorOf.close (next.giveBack ?_) _ restMinor
      exact remainderMinor
  | last _ rounds _ _ uses leaves _ =>
      obtain ⟨listedMinor, restMinor⟩ := List.forall_mem_cons.mp offersMinor
      have roundedMinor := Money.IsMinorOf.of_rounded listedMinor.found rounds
      exact (isMinorOf_step minor roundedMinor uses leaves).close _ restMinor
  | part _ rounds _ _ uses leaves _ _ ih =>
      obtain ⟨listedMinor, restMinor⟩ := List.forall_mem_cons.mp offersMinor
      have roundedMinor := Money.IsMinorOf.of_rounded listedMinor.found rounds
      exact ih restMinor (isMinorOf_step minor roundedMinor uses leaves)
  | skip _ rounds _ _ _ ih =>
      obtain ⟨listedMinor, restMinor⟩ := List.forall_mem_cons.mp offersMinor
      have roundedMinor := Money.IsMinorOf.of_rounded listedMinor.found rounds
      exact ih restMinor (minor.giveBack roundedMinor)

/-- A filling that succeeds has offers in the currency that it goes by. -/
theorem Fills.exists_offer {progress : AllocationProgress} {offers : List LenderOffer}
    {allocation : Allocation} (filled : Fills overfill terms bounds progress offers allocation) :
    ∃ offer ∈ offers, offer.payment.currency = bounds.currency := by
  cases filled with
  | exact listed => exact ⟨_, List.mem_cons_self, listed⟩
  | larger listed => exact ⟨_, List.mem_cons_self, listed⟩
  | last listed => exact ⟨_, List.mem_cons_self, listed⟩
  | part listed => exact ⟨_, List.mem_cons_self, listed⟩
  | skip listed => exact ⟨_, List.mem_cons_self, listed⟩

/-- Allocating offers of one currency gives an allocation in minor units of the principal's
currency. -/
theorem allocate_isMinorOf {principal : Money} {offers : List LenderOffer} {loan : LoanId}
    {now : Calendar.Instant} {allocation : Allocation} {offered : Currency}
    (minor : principal.IsMinorOf currency)
    (offersMinor : ∀ offer ∈ offers, offer.payment.IsMinorOf offered)
    (allocates : terms.allocate loan principal offers now = .ok allocation) :
    allocation.EachMoney (Money.IsMinorOf currency) := by
  obtain ⟨rounded, bounds, rounds, boundsEq, _, filled⟩ := fills_of_allocateBy allocates
  rw [minor.isMinor.value_of_rounded rounds] at boundsEq filled
  obtain ⟨offer, offerMem, offerEq⟩ := filled.exists_offer
  have found := (offersMinor offer offerMem).found
  rw [offerEq, boundsEq, minor.found] at found
  cases found
  exact filled.isMinorOf offersMinor ⟨by simp, by simp, by simp, minor⟩

end AllocationTerms

end LoanBook
