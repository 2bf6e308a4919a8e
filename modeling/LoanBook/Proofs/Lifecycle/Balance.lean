import LoanBook.Lifecycle
import LoanBook.Proofs.Allocation.Conservation
import LoanBook.Proofs.Configuration.Check
import LoanBook.Proofs.Loan.Views
import LoanBook.Proofs.Request.Admission
import LoanBook.Proofs.Schedule.Conservation
import LoanBook.Proofs.Store.Writing

/-!
# Balanced loans

A loan is balanced for a principal when its borrower draws the principal and repays it with
interest and fee, and its lenders, once there are any, together give the principal and are owed
what they gave with interest.  This file shows that proposals and investments write balanced
parties, and that the stamps they are written with change nothing about it.
-/

namespace LoanBook

/-- The sum of some payments, in units of `10 ^ -28`. -/
def paymentUnits (payments : List Payment) : Int :=
  (payments.map fun payment => payment.amount.units).sum

namespace LoanParty

/-- A borrower who draws a principal first and then has the installments of a product to pay, none
of them below zero, that add up to the principal with its interest and service fee. -/
structure Repays (config : LoanConfig) (principal : Money) (party : LoanParty) : Prop where
  role_eq : party.role = .borrower
  payments_eq : ∃ draw installments interest fee, party.payments = draw :: installments ∧
    draw.currency = principal.currency ∧ draw.amount = principal.amount.negate ∧
    installments.length = config.installmentCount.toNat ∧
    (∀ payment ∈ installments, payment.currency = principal.currency ∧ 0 ≤ payment.amount.units) ∧
    principal.split config.pricing.interestRate = .ok interest ∧
    principal.split config.pricing.serviceFeeRate = .ok fee ∧
    paymentUnits installments = principal.units + interest.taken.units + fee.taken.units

/-- A lender who gives an amount above zero and is owed it with interest, and nothing else. -/
structure Lends (rate : Rate) (currency : String) (party : LoanParty) : Prop where
  role_eq : party.role = .lender
  payments_eq : ∃ given owed interest, party.payments = [given, owed] ∧
    given.currency = currency ∧ owed.currency = currency ∧ 0 < given.amount.units ∧
    given.toMoney.split rate = .ok interest ∧
    owed.amount.units = -(given.amount.units + interest.taken.units)

/-- What a lender gives. -/
def lent (party : LoanParty) : Int :=
  match party.payments with
  | [] => 0
  | given :: _ => given.amount.units

end LoanParty

/-- A loan with one borrower, who comes first and repays the principal.  There are no lenders until
it is invested; from then on there is one at least, and together they give the principal. -/
def Loan.IsBalanced (config : LoanConfig) (principal : Money) (loan : Loan) : Prop :=
  ∃ borrower lenders, loan.parties = borrower :: lenders ∧ borrower.Repays config principal ∧
    (∀ lender ∈ lenders, lender.Lends config.pricing.lenderInterestRate principal.currency) ∧
    (loan.state ≤ .approved → lenders = []) ∧
    (.invested ≤ loan.state →
      lenders ≠ [] ∧ (lenders.map LoanParty.lent).sum = principal.units)

/-- A principal above zero, in minor units, that fits three times into 96 bits of them. -/
def Money.IsFundable (principal : Money) : Prop :=
  ∃ places, principal.IsMinor places ∧ 0 < principal.units ∧
    Decimal.FitsMinor places (3 * principal.units)

theorem Money.IsFundable.congr {money other : Money} (fundable : money.IsFundable)
    (currencyEq : other.currency = money.currency) (amountEq : other.amount = money.amount) :
    other.IsFundable := by
  obtain ⟨places, minor, positive, fits⟩ := fundable
  have unitsEq : other.units = money.units := congrArg Decimal.units amountEq
  refine ⟨places, ⟨(Money.precision_congr currencyEq).trans minor.precision_eq, ?_⟩, ?_, ?_⟩
  · rw [amountEq]
    exact minor.scale_le
  · rwa [unitsEq]
  · rwa [unitsEq]

namespace LoanParty

@[simp]
theorem paymentUnits_stamped (stamp : Attestation) (payments : List Payment) :
    paymentUnits (payments.map (Payment.stamped stamp)) = paymentUnits payments := by
  simp [paymentUnits, Function.comp_def, Payment.stamped]

theorem Repays.stamped {config : LoanConfig} {principal : Money} {party : LoanParty}
    (repays : party.Repays config principal) (stamp : Attestation) :
    (party.stamped stamp).Repays config principal := by
  obtain ⟨role, draw, installments, interest, fee, payments, currency, amount, length, each,
    interestSplits, feeSplits, total⟩ := repays
  refine ⟨role, draw.stamped stamp, installments.map (Payment.stamped stamp), interest, fee, ?_,
    currency, amount, ?_, ?_, interestSplits, feeSplits, ?_⟩
  · simp [LoanParty.stamped, payments]
  · rw [List.length_map, length]
  · intro payment member
    obtain ⟨unstamped, unstampedMem, rfl⟩ := List.mem_map.mp member
    exact each unstamped unstampedMem
  · rw [paymentUnits_stamped, total]

theorem Lends.stamped {rate : Rate} {currency : String} {party : LoanParty}
    (lends : party.Lends rate currency) (stamp : Attestation) :
    (party.stamped stamp).Lends rate currency := by
  obtain ⟨role, given, owed, interest, payments, rest⟩ := lends
  refine ⟨role, given.stamped stamp, owed.stamped stamp, interest, ?_, rest⟩
  simp [LoanParty.stamped, payments]

@[simp]
theorem lent_stamped (party : LoanParty) (stamp : Attestation) :
    (party.stamped stamp).lent = party.lent := by
  unfold lent LoanParty.stamped
  cases party.payments <;> rfl

end LoanParty

/-- The borrower of a schedule repays its principal. -/
theorem borrower_repays {config : LoanConfig} {principal : Money} {start drawnAt : Calendar.Instant}
    {schedule : RepaymentSchedule} {party : LoanParty} {loan : LoanId}
    (valid : config.check = .ok ()) (fundable : principal.IsFundable)
    (schedules : (RepaymentTerms.ofConfig config).schedule principal start = .ok schedule)
    (role : party.role = .borrower)
    (payments : party.payments = schedule.borrowerPayments loan drawnAt) :
    party.Repays config principal := by
  obtain ⟨places, minor, positive, fits⟩ := fundable
  obtain ⟨interest, fee, interestSplits, feeSplits, same, length, owed, total⟩ :=
    RepaymentTerms.schedule_conserves minor (Int.le_of_lt positive) fits
      (LoanConfig.interestRate_isPortion valid) (LoanConfig.serviceFeeRate_isPortion valid)
      schedules
  refine ⟨role, _, _, interest, fee, payments, ?_, ?_, ?_, ?_, interestSplits, feeSplits, ?_⟩
  · rw [same]
    rfl
  · rw [same]
    rfl
  · rw [List.length_map, length]
    rfl
  · intro payment member
    obtain ⟨installment, installmentMem, rfl⟩ := List.mem_map.mp member
    obtain ⟨_, currency, nonneg⟩ := owed installment installmentMem
    exact ⟨currency, nonneg⟩
  · rw [← total, paymentUnits, List.map_map]
    rfl

theorem lenderParties_lend {allocation : Allocation} {rate : Rate} {currency : String}
    (identifiers : Nat → PartyId)
    (owed : ∀ used ∈ allocation.used, used.IsOwed rate currency) :
    (∀ party ∈ allocation.lenderParties identifiers, party.Lends rate currency) ∧
      ((allocation.lenderParties identifiers).map LoanParty.lent).sum =
        usedUnits allocation.used := by
  constructor
  · intro party member
    obtain ⟨index, inRange, rfl⟩ := List.mem_mapIdx.mp member
    have isOwed := owed _ (List.getElem_mem inRange)
    obtain ⟨interest, splits, repayment⟩ := isOwed.repayment_units
    exact ⟨rfl, _, _, interest, rfl, isOwed.currency_eq, isOwed.repayment_currency,
      isOwed.positive, splits, repayment⟩
  · rw [usedUnits]
    congr 1
    apply List.ext_getElem
    · simp [Allocation.lenderParties]
    · intro index before after
      simp [Allocation.lenderParties, LoanParty.lent, Payment.ofMoney, Money.units]

namespace Loan

variable {config : LoanConfig} {principal : Money} {earlier later : Loan}

/-- A loan is balanced when it is entered with a borrower who repays its principal. -/
theorem isBalanced_entered {borrower : LoanParty} (repays : borrower.Repays config principal)
    (id : LoanId) (stamp : Attestation) :
    ((Loan.proposed id borrower).entered stamp).IsBalanced config principal := by
  refine ⟨borrower.stamped stamp, [], rfl, repays.stamped stamp, by simp, fun _ => rfl, ?_⟩
  intro (come : LoanState.invested ≤ .proposed)
  exact absurd come (by decide)

/-- A balanced loan stays so in other states as long as it keeps its parties and is not moved past
an investment. -/
theorem IsBalanced.of_parties_eq (balanced : earlier.IsBalanced config principal)
    (same : later.parties = earlier.parties)
    (early : later.state ≤ .approved → earlier.state ≤ .approved)
    (late : .invested ≤ later.state → .invested ≤ earlier.state) :
    later.IsBalanced config principal := by
  obtain ⟨borrower, lenders, parties, repays, lend, none, some⟩ := balanced
  exact ⟨borrower, lenders, same.trans parties, repays, lend, fun come => none (early come),
    fun come => some (late come)⟩

/-- A balanced loan without lenders stays balanced when lenders are added who together give its
principal. -/
theorem IsBalanced.invest (balanced : earlier.IsBalanced config principal)
    (early : earlier.state ≤ .approved) {lenders : List LoanParty}
    (lend : ∀ lender ∈ lenders, lender.Lends config.pricing.lenderInterestRate principal.currency)
    (some : lenders ≠ []) (total : (lenders.map LoanParty.lent).sum = principal.units)
    (stamp : Attestation) :
    { earlier with
      state := .invested
      parties := earlier.parties ++ lenders.map (LoanParty.stamped stamp) : Loan }.IsBalanced
        config principal := by
  obtain ⟨borrower, others, parties, repays, _, none, _⟩ := balanced
  cases none early
  refine ⟨borrower, lenders.map (LoanParty.stamped stamp), ?_, repays, ?_, ?_, ?_⟩
  · simp [parties]
  · intro lender member
    obtain ⟨party, partyMem, rfl⟩ := List.mem_map.mp member
    exact (lend party partyMem).stamped stamp
  · intro (come : LoanState.invested ≤ .approved)
    exact absurd come (by decide)
  · intro _
    refine ⟨by simpa using some, ?_⟩
    rw [← total, List.map_map]
    congr 1
    apply List.map_congr_left
    intro party _
    exact party.lent_stamped stamp

end Loan

/-- The principal of a loan is what its first party draws first, if that party is the borrower. -/
theorem Loan.principal?_of_draw {loan : Loan} {borrower : LoanParty} {others : List LoanParty}
    {draw : Payment} {rest : List Payment} (parties : loan.parties = borrower :: others)
    (role : borrower.role = .borrower) (payments : borrower.payments = draw :: rest)
    (drawn : draw.amount.units < 0) : loan.principal? = some draw.toMoney.negate := by
  rw [principal?, borrower?_of_parties parties role, Option.bind_some, payments,
    List.find?_cons_of_pos (Payment.isOutflow_iff.mpr drawn)]
  rfl

/-- The principal that is read off a balanced loan. -/
theorem Loan.IsBalanced.principal?_eq {config : LoanConfig} {principal : Money} {loan : Loan}
    (balanced : loan.IsBalanced config principal) (positive : 0 < principal.units) :
    ∃ read, loan.principal? = some read ∧ read.currency = principal.currency ∧
      read.amount = principal.amount := by
  obtain ⟨borrower, lenders, parties, repays, _⟩ := balanced
  obtain ⟨role, draw, installments, _, _, payments, currency, amount, _⟩ := repays
  have drawn : draw.amount.units < 0 := by
    rw [amount, Decimal.units_negate]
    unfold Money.units at positive
    omega
  refine ⟨draw.toMoney.negate, principal?_of_draw parties role payments drawn, currency, ?_⟩
  show draw.amount.negate = principal.amount
  rw [amount, Decimal.negate_negate]

theorem roundedOffers_positive {request : InvestRequest} {offers : List LenderOffer}
    {warnings : List PrecisionMismatch} (rounds : request.roundedOffers = .ok (offers, warnings))
    {offer : LenderOffer} (member : offer ∈ offers) :
    (∃ own, offer.payment.IsMinor own) ∧ 0 < offer.payment.units := by
  obtain ⟨listed, _, currency, roundsTo⟩ := InvestRequest.exists_roundsTo_of_mem rounds member
  exact ⟨⟨_, roundsTo.minor.isMinor⟩, roundsTo.positive⟩

/-- The parties that an investment adds lend the principal of the loan. -/
theorem invested_lenders {config : LoanConfig} {principal read : Money} {loan : LoanId}
    {offers : List LenderOffer} {now : Calendar.Instant} {allocation : Allocation}
    (identifiers : Nat → PartyId) (valid : config.check = .ok ())
    (fundable : principal.IsFundable) (currencyEq : read.currency = principal.currency)
    (amountEq : read.amount = principal.amount)
    (positive : ∀ offer ∈ offers, (∃ own, offer.payment.IsMinor own) ∧ 0 < offer.payment.units)
    (allocates : (AllocationTerms.ofConfig config).allocate loan read offers now =
      .ok allocation) :
    (∀ party ∈ allocation.lenderParties identifiers,
        party.Lends config.pricing.lenderInterestRate principal.currency) ∧
      allocation.lenderParties identifiers ≠ [] ∧
      ((allocation.lenderParties identifiers).map LoanParty.lent).sum = principal.units := by
  obtain ⟨places, minor, units, fits⟩ := fundable
  have readMinor : read.IsMinor places :=
    ⟨(Money.precision_congr currencyEq).trans minor.precision_eq, amountEq ▸ minor.scale_le⟩
  obtain ⟨rounded, bounds, rounds, boundsCurrency, _, filled⟩ :=
    AllocationTerms.fills_of_allocateBy allocates
  rw [readMinor.value_of_rounded rounds] at boundsCurrency filled
  have known (money : Money) (same : money.currency = bounds.currency) :
      money.precision = .ok places :=
    (Money.precision_congr (same.trans boundsCurrency)).trans readMinor.precision_eq
  have readUnits : read.units = principal.units := congrArg Decimal.units amountEq
  have fitsTwice : Decimal.FitsMinor places (2 * principal.units) :=
    fits.of_le (by omega) (by omega)
  have start : AllocationProgress.Conserves places bounds.currency
      (AllocationTerms.ofConfig config).lenderInterestRate principal.units ⟨[], [], read⟩ :=
    { minor := readMinor
      currency_eq := boundsCurrency.symm
      nonneg := by
        show 0 ≤ read.units
        omega
      owed := by simp
      total := by
        show usedUnits [] + read.units = principal.units
        rw [readUnits, usedUnits, List.map_nil, List.sum_nil, Int.zero_add] }
  obtain ⟨owed, total⟩ := filled.conserves (LoanConfig.lenderInterestRate_isPortion valid)
    fitsTwice known positive start (readUnits ▸ units)
  obtain ⟨lend, lentSum⟩ := lenderParties_lend identifiers owed
  rw [boundsCurrency, currencyEq] at lend
  refine ⟨lend, ?_, lentSum.trans total⟩
  intro none
  rw [none, total, List.map_nil, List.sum_nil] at lentSum
  omega

end LoanBook
