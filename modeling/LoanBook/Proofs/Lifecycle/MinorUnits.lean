import LoanBook.Proofs.Allocation.MinorUnits
import LoanBook.Proofs.Lifecycle.Answers
import LoanBook.Proofs.Request.Admission
import LoanBook.Proofs.Schedule.MinorUnits

/-!
# Loans in minor units

On every desk all payments of a loan are whole numbers of minor units of one known currency, that of
the principal.  The principal is rounded when it is proposed, and every lender's offer when it is
listed; from there on nothing is written with more decimal places.
-/

namespace LoanBook

/-- Something holds of the money of every payment of a party. -/
def LoanParty.EachMoney (holds : Money → Prop) (party : LoanParty) : Prop :=
  ∀ payment ∈ party.payments, holds payment.toMoney

/-- Something holds of the money of every payment of a loan. -/
def Loan.EachMoney (holds : Money → Prop) (loan : Loan) : Prop :=
  ∀ party ∈ loan.parties, party.EachMoney holds

section EachMoney

variable {holds : Money → Prop}

theorem LoanParty.EachMoney.stamped {party : LoanParty} (each : party.EachMoney holds)
    (stamp : Attestation) : (party.stamped stamp).EachMoney holds := by
  intro payment member
  obtain ⟨unstamped, unstampedMem, rfl⟩ := List.mem_map.mp member
  exact each unstamped unstampedMem

theorem eachMoney_map_stamped {parties : List LoanParty}
    (each : ∀ party ∈ parties, party.EachMoney holds) (stamp : Attestation) :
    ∀ party ∈ parties.map (LoanParty.stamped stamp), party.EachMoney holds := by
  intro party member
  obtain ⟨unstamped, unstampedMem, rfl⟩ := List.mem_map.mp member
  exact (each unstamped unstampedMem).stamped stamp

theorem Loan.EachMoney.mono {weaker : Money → Prop} {loan : Loan} (each : loan.EachMoney holds)
    (weakens : ∀ money, holds money → weaker money) : loan.EachMoney weaker :=
  fun party partyMem payment paymentMem => weakens _ (each party partyMem payment paymentMem)

/-- The principal of a loan is one of its payments, with the other sign. -/
theorem Loan.EachMoney.exists_principal {loan : Loan} {principal : Money}
    (each : loan.EachMoney holds) (draws : loan.principal? = some principal) :
    ∃ drawn, holds drawn ∧ principal = drawn.negate := by
  obtain ⟨borrower, borrowerEq, draws⟩ := Option.bind_eq_some_iff.mp draws
  obtain ⟨draw, drawEq, rfl⟩ := Option.map_eq_some_iff.mp draws
  exact ⟨draw.toMoney, each borrower (List.mem_of_find?_eq_some borrowerEq) draw
    (List.mem_of_find?_eq_some drawEq), rfl⟩

/-- The lenders of an allocation pay and are owed its money. -/
theorem Allocation.EachMoney.lenderParties {allocation : Allocation}
    (each : allocation.EachMoney holds) (identifiers : Nat → PartyId) :
    ∀ party ∈ allocation.lenderParties identifiers, party.EachMoney holds := by
  intro party member
  obtain ⟨index, inRange, rfl⟩ := List.mem_mapIdx.mp member
  have usedMem := List.getElem_mem inRange
  intro payment paymentMem
  rcases List.mem_cons.mp paymentMem with rfl | later
  · exact each.investments _ usedMem
  · rw [List.mem_singleton.mp later]
    exact each.repayments _ usedMem

end EachMoney

namespace LoanDesk

/-- A desk whose tables are well formed and hold loans in minor units only, each in one currency. -/
structure CountsMinorUnits (desk : LoanDesk) : Prop where
  wellFormed : desk.store.tables.WellFormed
  minor : ∀ id loan, desk.store.tables.loan? id = some loan →
    ∃ currency, loan.EachMoney (Money.IsMinorOf currency)

variable {desk : LoanDesk}

/-- What a planned change makes of its loan is in minor units of one currency, and so is the
allocation that comes with it. -/
theorem CountsMinorUnits.resulting {visit : Visit} {plan : TransitionPlan} {stamp : Attestation}
    {loan : Loan} (counts : desk.CountsMinorUnits)
    (plans : desk.Plans visit.occasion visit.request plan)
    (allowed : desk.store.tables.obstacle? plan.mutation.change = none)
    (results : plan.mutation.change.resulting stamp
      (desk.store.tables.loan? visit.loanId) = some loan) :
    ∃ currency, loan.EachMoney (Money.IsMinorOf currency) ∧
      ∀ allocation, plan.allocation = some allocation →
        allocation.EachMoney (Money.IsMinorOf currency) := by
  obtain ⟨occasion, request⟩ := visit
  cases plans with
  | @propose request rounded schedule checked rounds positive schedules =>
      cases results
      obtain ⟨currency, minor⟩ := Money.IsMinorOf.exists_of_rounded rounds
      have borrower : (schedule.borrower request.borrower occasion).EachMoney
          (Money.IsMinorOf currency) :=
        RepaymentTerms.borrowerPayments_isMinorOf minor schedules occasion.loanId occasion.now
      exact ⟨currency, eachMoney_map_stamped (List.forall_mem_singleton.mpr borrower) stamp, nofun⟩
  | approve checked =>
      obtain ⟨stored, found, rfl⟩ := Option.map_eq_some_iff.mp results
      obtain ⟨currency, minor⟩ := counts.minor _ _ found
      exact ⟨currency, minor, nofun⟩
  | @invest request offers warnings read principal allocation checked rounds loads approved draws
      allocates =>
      obtain ⟨stored, found, rfl⟩ := Option.map_eq_some_iff.mp results
      -- the loan that was read before is the one that the investment is written to
      cases found.symm.trans (Store.loan?_of_load counts.wellFormed loads)
      obtain ⟨currency, minor⟩ := counts.minor _ _ found
      obtain ⟨drawn, drawnMinor, rfl⟩ := minor.exists_principal draws
      obtain ⟨offered, offersMinor⟩ := InvestRequest.roundedOffers_isMinorOf checked rounds
      have allocationMinor :=
        AllocationTerms.allocate_isMinorOf drawnMinor.negate offersMinor allocates
      refine ⟨currency, ?_, fun other same => Option.some.inj same ▸ allocationMinor⟩
      intro party member
      rcases List.mem_append.mp member with before | lender
      · exact minor party before
      · exact eachMoney_map_stamped (allocationMinor.lenderParties occasion.partyIds) stamp party
          lender
  | disburse checked =>
      obtain ⟨stored, found, rfl⟩ := Option.map_eq_some_iff.mp results
      obtain ⟨currency, minor⟩ := counts.minor _ _ found
      exact ⟨currency, minor, nofun⟩

theorem CountsMinorUnits.after {visit : Visit} (counts : desk.CountsMinorUnits)
    (received : desk.Receives visit) : (desk.after visit).CountsMinorUnits where
  wellFormed := wellFormed_after counts.wellFormed received
  minor id loan stored := by
    rcases loan?_after_cases counts.wellFormed received stored with
      before | ⟨plan, plans, allowed, rfl, results⟩
    · exact counts.minor id loan before
    · obtain ⟨currency, minor, _⟩ := counts.resulting plans allowed results
      exact ⟨currency, minor⟩

theorem countsMinorUnits_run {config : LoanConfig} {signer : AuditSigner} {start : LoanDesk}
    (opened : new config (.empty signer) = .ok start) {visits : List Visit}
    (admitted : start.Admits visits) : (start.run visits).CountsMinorUnits := by
  obtain ⟨_, rfl⟩ := new_eq_ok_iff.mp opened
  refine run_preserves ?_ admitted fun _ _ _ counts received => counts.after received
  constructor
  · exact Tables.wellFormed_empty
  · intro id loan found
    have none : Tables.empty.loan? id = none := Tables.loan?_empty id
    cases none.symm.trans found

/-- Over every run of visits at a new desk, with amounts of any size and any number of decimal
places, all payments of a loan are whole numbers of minor units of one known currency.  So is
everything that the next successful investment uses of its offers, owes for them and gives back. -/
theorem payments_in_minor_units {config : LoanConfig} {signer : AuditSigner} {start : LoanDesk}
    (opened : new config (.empty signer) = .ok start) (visits : List Visit)
    (admitted : start.Admits visits) :
    let desk := start.run visits
    let tables := desk.store.tables
    (∀ record ∈ tables.loans,
      ∃ loan, Loan.ofRows (tables.join (.byLoan record.id)) = [loan] ∧ loan.id = record.id) ∧
    (∀ filter, ∀ loan ∈ Loan.ofRows (tables.join filter),
      ∃ currency, loan.EachMoney (Money.IsMultipleOf currency)) ∧
    ∀ visit request outcome, desk.Receives visit → visit.request = .invest request →
      desk.answer visit = .ok outcome →
      ∃ currency allocation, outcome.loan.EachMoney (Money.IsMultipleOf currency) ∧
        outcome.allocation = some allocation ∧
        allocation.EachMoney (Money.IsMultipleOf currency) := by
  intro desk tables
  have counts : desk.CountsMinorUnits := countsMinorUnits_run opened admitted
  have attested := (isAttestedBy_new opened).run admitted
  have multiple {currency : Currency} (money : Money) (minor : money.IsMinorOf currency) :
      money.IsMultipleOf currency :=
    minor.isMultipleOf
  refine ⟨?_, ?_, ?_⟩
  · intro record member
    exact ⟨_, counts.wellFormed.ofRows_join_byLoan_of_mem member, rfl⟩
  · intro filter loan member
    obtain ⟨stored, _⟩ := counts.wellFormed.mem_ofRows_join.mp member
    obtain ⟨currency, minor⟩ := counts.minor _ _ stored
    exact ⟨currency, minor.mono multiple⟩
  · intro visit request outcome received invests succeeded
    obtain ⟨plan, plans, allowed, _, results, _, allocationEq⟩ :=
      attested.exists_plan_of_success received succeeded
    obtain ⟨currency, loanMinor, allocationMinor⟩ := counts.resulting plans allowed results
    rw [allocationEq]
    rw [invests] at plans
    cases plans with
    | invest checked rounds loads approved draws allocates =>
        exact ⟨currency, _, loanMinor.mono multiple, rfl,
          (allocationMinor _ rfl).mono multiple⟩

theorem payments_in_minor_units_openingRun :
    let signer := AuditSigner.restamping (.ofSeed (List.replicate 32 7))
    ∃ start, new .standard (.empty signer) = .ok start ∧ start.Admits openingRun ∧
    let desk := start.run openingRun
    let tables := desk.store.tables
    (∀ record ∈ tables.loans,
      ∃ loan, Loan.ofRows (tables.join (.byLoan record.id)) = [loan] ∧ loan.id = record.id) ∧
    (∀ filter, ∀ loan ∈ Loan.ofRows (tables.join filter),
      ∃ currency, loan.EachMoney (Money.IsMultipleOf currency)) ∧
    ∀ visit request outcome, desk.Receives visit → visit.request = .invest request →
      desk.answer visit = .ok outcome →
      ∃ currency allocation, outcome.loan.EachMoney (Money.IsMultipleOf currency) ∧
        outcome.allocation = some allocation ∧
        allocation.EachMoney (Money.IsMultipleOf currency) := by
  intro signer
  let start : LoanDesk := ⟨.standard, .empty signer⟩
  have opened : new .standard (.empty signer) = .ok start := new_standard _
  have admitted := admits_openingRun opened
  exact ⟨start, opened, admitted, payments_in_minor_units opened openingRun admitted⟩

end LoanDesk

end LoanBook
