import LoanBook.Schedule

/-!
# Allocation of lender offers

Offers are taken in order until they cover a principal. An offer that meets what is outstanding
closes the allocation, a larger one closes it too and gets its excess back, and a smaller one is
used when it lies within the bounds set by the smallest share of the principal. What comes after
the closing offer is dropped or reported back. Offers that do not cover the principal are refused
as a whole.
-/

namespace LoanBook

open Calendar (Instant)

/-- Money offered by a lender. -/
structure LenderOffer where
  lender : UserId
  contract : Option String
  payment : Money
deriving DecidableEq

/-- The part of an offer that is used, with the repayment owed to the lender as an outflow. -/
structure UsedInvestment where
  lender : UserId
  contract : Option String
  investment : Money
  repayment : Money
deriving DecidableEq

/-- What is used of some offers, and what is not. -/
structure Allocation where
  used : List UsedInvestment
  unused : List LenderOffer
deriving DecidableEq

namespace Allocation

/-- The parties that lend, one for each offer used, with identifiers handed out in order. -/
def lenderParties (allocation : Allocation) (identifiers : Nat → PartyId) : List LoanParty :=
  allocation.used.mapIdx fun index used =>
    ⟨identifiers index, used.lender, .lender, [.ofMoney used.investment, .ofMoney used.repayment],
      none⟩

def usedTotal (allocation : Allocation) (currency : String) (time : Instant) :
    Except Failure Money :=
  (Money.zero currency time).sum (allocation.used.map UsedInvestment.investment)

end Allocation

/-- The rules that an allocation is made by. -/
structure AllocationTerms where
  minInvestmentRate : Rate
  lenderInterestRate : Rate
  installmentCount : UInt32
  policy : CoveredOfferPolicy
deriving DecidableEq

/-- What every step of an allocation goes by: the currency, the bounds on the amount of a partial
offer, and the details and due date of repayments. -/
structure AllocationBounds where
  currency : String
  least : Decimal
  most : Decimal
  repaymentDue : Instant
  repaymentDetails : String
deriving DecidableEq

/-- An allocation under way: what is used and not used so far, latest first, and what is
outstanding. -/
structure AllocationProgress where
  used : List UsedInvestment
  unused : List LenderOffer
  remaining : Money
deriving DecidableEq

namespace AllocationProgress

/-- The allocation when the principal is covered and the given offers come after. -/
def close (progress : AllocationProgress) (policy : CoveredOfferPolicy) (rest : List LenderOffer) :
    Allocation where
  used := progress.used.reverse
  unused := progress.unused.reverse ++ match policy with
    | .drop => []
    | .markUnused => rest

end AllocationProgress

namespace AllocationTerms

def ofConfig (config : LoanConfig) : AllocationTerms :=
  ⟨config.investment.minInvestmentRate, config.pricing.lenderInterestRate, config.installmentCount,
    config.investment.coveredOfferPolicy⟩

/-- Uses a part of an offer: the lender is owed the part with interest. -/
def use (terms : AllocationTerms) (bounds : AllocationBounds) (offer : LenderOffer)
    (investment : Money) : Except Failure UsedInvestment := do
  let interest ← investment.split terms.lenderInterestRate
  let owed ← investment.sum [interest.taken]
  return ⟨offer.lender, offer.contract, investment,
    { owed.negate with time := bounds.repaymentDue, details := bounds.repaymentDetails }⟩

/-- Splits an offer larger than what is outstanding by the ratio of the two. The part taken must
be what is outstanding. -/
def overfill (offer : LenderOffer) (outstanding : Decimal) : Except Failure Split :=
  match Rate.ratio? outstanding offer.payment.amount with
  | none => rejectIssue .noRatio
  | some portion => do
    let split ← offer.payment.split portion
    if split.taken.amount ≈ outstanding then return split
    else
      rejectIssue (.splitMissed offer.payment.amount offer.lender split.taken.amount outstanding)

/-- Goes on with an allocation through the offers still in the list. An offer larger than what is
outstanding is split by the given rule. -/
def fillBy (divide : LenderOffer → Decimal → Except Failure Split) (terms : AllocationTerms)
    (bounds : AllocationBounds) (progress : AllocationProgress) :
    List LenderOffer → Except Failure Allocation
  | [] => reject (.coverage progress.remaining)
  | listed :: rest =>
    if listed.payment.currency ≠ bounds.currency then
      reject (.currencyMismatch bounds.currency listed.payment.currency)
    else do
      let rounded ← listed.payment.rounded
      let offer := { listed with payment := rounded.value }
      let amount := offer.payment.amount
      let outstanding := progress.remaining.amount
      if amount ≈ outstanding then
        let used ← terms.use bounds offer offer.payment
        let remaining ← progress.remaining.minus offer.payment
        return { progress with used := used :: progress.used, remaining }.close terms.policy rest
      else if outstanding < amount then
        let split ← divide offer outstanding
        let remaining ← progress.remaining.minus split.taken
        let used ← terms.use bounds offer split.taken
        let unused := { offer with payment := split.remainder }
        return AllocationProgress.close ⟨used :: progress.used, unused :: progress.unused, remaining⟩
          terms.policy rest
      else if bounds.least ≤ amount ∧ amount ≤ bounds.most then
        let used ← terms.use bounds offer offer.payment
        let remaining ← progress.remaining.minus offer.payment
        let progress := { progress with used := used :: progress.used, remaining }
        if remaining.amount.isZero then return progress.close terms.policy rest
        else fillBy divide terms bounds progress rest
      else fillBy divide terms bounds { progress with unused := offer :: progress.unused } rest

/-- Allocates offers against a principal, which is first rounded to its minor unit, with a rule to
split the offer that is larger than what is outstanding. -/
def allocateBy (divide : LenderOffer → Decimal → Except Failure Split) (terms : AllocationTerms)
    (loan : LoanId) (principal : Money) (offers : List LenderOffer) (now : Instant) :
    Except Failure Allocation := do
  let principal ← principal.rounded
  let share ← principal.value.split terms.minInvestmentRate
  let repaymentDue ← dueAfter now terms.installmentCount
  let bounds : AllocationBounds :=
    { currency := principal.value.currency
      least := share.taken.amount
      most := share.remainder.amount
      repaymentDue
      repaymentDetails := "Repayment for loan [" ++ loan.toText ++ "]" }
  fillBy divide terms bounds ⟨[], [], principal.value⟩ offers

/-- Allocates offers against a principal, splitting by ratio. -/
def allocate (terms : AllocationTerms) (loan : LoanId) (principal : Money)
    (offers : List LenderOffer) (now : Instant) : Except Failure Allocation :=
  allocateBy overfill terms loan principal offers now

end AllocationTerms

end LoanBook
