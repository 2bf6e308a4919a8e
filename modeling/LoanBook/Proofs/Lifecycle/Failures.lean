import LoanBook.Proofs.Allocation.Foreseen
import LoanBook.Proofs.Lifecycle.Balance
import LoanBook.Proofs.Lifecycle.Answers

/-!
# Failures that requests are told about

Every failure of a request is one that it is told about: something is wrong with it, or with what it
finds stored.  Behind this stands an invariant of the desk.  Each stored loan was entered with a
borrower who draws an amount above zero, in minor units, so an investment always finds a principal
and the ratios it splits by are portions; and all attestations on it verify, so it can be read.
-/

namespace LoanBook

/-- A loan whose borrower draws an amount above zero, in minor units of its currency. -/
def Loan.DrawsPrincipal (loan : Loan) : Prop :=
  ∃ principal places, loan.principal? = some principal ∧ principal.IsMinor places ∧
    0 < principal.units

theorem Loan.principal?_of_prefix {earlier later : Loan} {principal : Money}
    (kept : earlier.parties <+: later.parties) (draws : earlier.principal? = some principal) :
    later.principal? = some principal := by
  obtain ⟨added, parties⟩ := kept
  obtain ⟨borrower, first, drawn⟩ := Option.bind_eq_some_iff.mp draws
  have found : later.borrower? = some borrower := by
    rw [borrower?] at first ⊢
    rw [← parties, List.find?_append, first]
    rfl
  rw [principal?, found]
  exact drawn

theorem Loan.DrawsPrincipal.continues {earlier later : Loan} (draws : earlier.DrawsPrincipal)
    (continues : earlier.Continues later) : later.DrawsPrincipal := by
  obtain ⟨principal, places, drawn, sound⟩ := draws
  exact ⟨principal, places, principal?_of_prefix continues.parties_prefix drawn, sound⟩

section Check

theorem requireText_foreseen (value : String) (field : RequiredField) :
    FailsWithin Failure.IsForeseen (requireText value field) := by
  unfold requireText
  split
  · exact .reject trivial
  · exact .ok _

theorem ProposeRequest.check_foreseen (request : ProposeRequest) :
    FailsWithin Failure.IsForeseen request.check := by
  refine .bind (requireText_foreseen _ _) fun _ => ?_
  refine .bind (Money.precision_refuses _).foreseen fun _ => ?_
  split
  · exact .ok _
  · exact .reject trivial

theorem LenderOffer.check_foreseen (currency : String) (offer : LenderOffer) :
    FailsWithin Failure.IsForeseen (offer.check currency) := by
  refine .bind (requireText_foreseen _ _) fun _ => ?_
  refine .bind (Money.precision_refuses _).foreseen fun _ => ?_
  split
  · split
    · exact .ok _
    · exact .reject trivial
  · exact .reject trivial

theorem InvestRequest.check_foreseen (request : InvestRequest) :
    FailsWithin Failure.IsForeseen request.check := by
  unfold check
  split
  · exact .reject trivial
  · exact .forM fun offer _ => offer.check_foreseen _

theorem TransitionRequest.check_foreseen (request : TransitionRequest) :
    FailsWithin Failure.IsForeseen request.check := by
  cases request with
  | propose request => exact request.check_foreseen
  | approve request => exact .bind (requireText_foreseen _ _) fun _ => requireText_foreseen _ _
  | invest request => exact request.check_foreseen
  | disburse request => exact .bind (requireText_foreseen _ _) fun _ => requireText_foreseen _ _

theorem InvestRequest.roundedOffers_foreseen (request : InvestRequest) :
    FailsWithin Failure.IsForeseen request.roundedOffers := by
  refine .bind (.mapM fun offer _ => ?_) fun _ => .ok _
  refine .bind offer.payment.rounded_refuses.foreseen fun rounded => ?_
  split
  · exact .ok _
  · exact .reject trivial

end Check

/-- A change that may not be written is refused for what is stored, unless it proposes a loan that
is stored already. -/
theorem Tables.obstacle?_foreseen {tables : Tables} {change : LoanChange} {error : LoanError}
    (absent : ∀ loan, change = .propose loan → tables.find? loan.id = none)
    (blocked : tables.obstacle? change = some error) : (Failure.rejected error).IsForeseen := by
  unfold obstacle? at blocked
  cases found : tables.find? change.loanId with
  | none =>
      rw [found] at blocked
      cases required : change.required? with
      | none => simp [required] at blocked
      | some before =>
          simp only [required, Option.some.injEq] at blocked
          subst blocked
          trivial
  | some stored =>
      rw [found] at blocked
      cases required : change.required? with
      | none =>
          cases change with
          | propose loan => cases found.symm.trans (absent loan rfl)
          | approve loan approvedBy document => cases required
          | invest loan lenders => cases required
          | disburse loan disbursedBy contract => cases required
      | some before =>
          simp only [required] at blocked
          split at blocked
          · cases blocked
          · cases blocked
            trivial

namespace LoanDesk

/-- A desk with a valid configuration whose stored loans all draw a principal. -/
structure StoresPrincipals (desk : LoanDesk) : Prop where
  valid : desk.config.check = .ok ()
  draws : ∀ id loan, desk.store.tables.loan? id = some loan → loan.DrawsPrincipal

variable {signer : AuditSigner} {desk : LoanDesk}

theorem storesPrincipals_new {config : LoanConfig}
    (opened : new config (.empty signer) = .ok desk) : desk.StoresPrincipals := by
  obtain ⟨valid, rfl⟩ := new_eq_ok_iff.mp opened
  constructor
  · exact valid
  · intro id loan found
    have none : Tables.empty.loan? id = none := Tables.loan?_empty id
    cases none.symm.trans found

/-- A loan that is entered with the borrower of a schedule draws the schedule's principal. -/
theorem entered_drawsPrincipal {schedule : RepaymentSchedule} {places : Nat}
    (minor : schedule.principal.IsMinor places) (positive : 0 < schedule.principal.units)
    (user : UserId) (occasion : Occasion) (stamp : Attestation) :
    ((Loan.proposed occasion.loanId (schedule.borrower user occasion)).entered
      stamp).DrawsPrincipal := by
  let drawn : Money := { schedule.principal.negate with time := occasion.now }
  have outflow : drawn.amount.units < 0 := by
    show schedule.principal.amount.negate.units < 0
    rw [Decimal.units_negate]
    unfold Money.units at positive
    omega
  have draws : ((Loan.proposed occasion.loanId (schedule.borrower user occasion)).entered
      stamp).principal? = some drawn.negate :=
    @Loan.principal?_of_draw _ _ _ ((Payment.ofMoney drawn).stamped stamp) _ rfl rfl rfl outflow
  have amountEq : drawn.negate.amount = schedule.principal.amount := Decimal.negate_negate _
  refine ⟨drawn.negate, places, draws, ⟨minor.precision_eq, ?_⟩, ?_⟩
  · rw [amountEq]
    exact minor.scale_le
  · rw [Money.units, amountEq]
    exact positive

/-- A planned change that enters a loan enters one that draws a principal. -/
theorem Plans.drawsPrincipal {occasion : Occasion} {request : TransitionRequest}
    {plan : TransitionPlan} {stamp : Attestation} {loan : Loan}
    (plans : desk.Plans occasion request plan)
    (results : plan.mutation.change.resulting stamp none = some loan) : loan.DrawsPrincipal := by
  cases plans with
  | @propose request rounded schedule checked rounds positive schedules =>
      cases results
      obtain ⟨places, minor, _⟩ := Money.isMinor_of_rounded rounds
      have same := RepaymentTerms.principal_of_schedule minor schedules
      rw [← same] at minor positive
      exact entered_drawsPrincipal minor (Decimal.isPositive_iff.mp positive) _ _ stamp
  | approve checked => cases results
  | invest checked rounds loads approved draws allocates => cases results
  | disburse checked => cases results

theorem Plans.absent_of_propose {occasion : Occasion} {request : TransitionRequest}
    {plan : TransitionPlan} {loan : Loan} (plans : desk.Plans occasion request plan)
    (received : desk.Receives ⟨occasion, request⟩)
    (proposes : plan.mutation.change = .propose loan) :
    desk.store.tables.find? loan.id = none := by
  cases plans with
  | propose checked rounds positive schedules =>
      cases proposes
      exact received.loan_fresh _ rfl
  | approve checked => cases proposes
  | invest checked rounds loads approved draws allocates => cases proposes
  | disburse checked => cases proposes

theorem StoresPrincipals.after {visit : Visit} (stores : desk.StoresPrincipals)
    (wellFormed : desk.store.tables.WellFormed) (received : desk.Receives visit) :
    (desk.after visit).StoresPrincipals := by
  constructor
  · rw [after_config]
    exact stores.valid
  · intro id loan stored
    rcases after_cases received with unchanged | ⟨plan, plans, allowed, fresh, written⟩
    · rw [unchanged] at stored
      exact stores.draws id loan stored
    · rw [written] at stored
      by_cases own : id = plan.mutation.change.loanId
      · subst own
        obtain ⟨left, leftFound, results, _, step⟩ := written_loan? wellFormed allowed fresh
        cases leftFound.symm.trans stored
        -- a loan that is entered draws what was planned; one that is changed keeps its borrower
        cases before : desk.store.tables.loan? plan.mutation.change.loanId with
        | none =>
            rw [before] at results
            exact plans.drawsPrincipal results
        | some earlier =>
            rw [before] at step
            obtain ⟨later, same, continues⟩ := step.exists_continues
            cases same
            exact (stores.draws _ earlier before).continues continues
      · rw [written_loan?_of_ne wellFormed allowed fresh own] at stored
        exact stores.draws id loan stored

theorem StoresPrincipals.run {visits : List Visit} (stores : desk.StoresPrincipals)
    (attested : desk.IsAttestedBy signer) (admitted : desk.Admits visits) :
    (desk.run visits).StoresPrincipals := by
  induction visits generalizing desk with
  | nil => exact stores
  | cons visit visits ih =>
      have next := stores.after attested.wellFormed admitted.1
      exact ih next (attested.after admitted.1) admitted.2

section IsAttestedBy

variable (attested : desk.IsAttestedBy signer) (sound : signer.IsSound)
  (stores : desk.StoresPrincipals)
include attested sound stores

theorem IsAttestedBy.planInvest_foreseen (occasion : Occasion) (request : InvestRequest) :
    FailsWithin Failure.IsForeseen (desk.planInvest occasion request) := by
  refine .bind request.check_foreseen fun _ => ?_
  refine .bind_ok request.roundedOffers_foreseen fun (offers, warnings) rounds => ?_
  cases found : desk.store.tables.loan? request.loan with
  | none =>
      dsimp only
      rw [Store.load_of_absent attested.wellFormed found]
      exact .reject trivial
  | some stored =>
      dsimp only
      rw [attested.load_eq sound found, ok_bind]
      by_cases approved : stored.state = .approved
      · rw [if_neg (not_not_intro approved)]
        obtain ⟨principal, places, draws, minor, positive⟩ := stores.draws _ stored found
        simp only [draws]
        refine .bind ?_ fun _ => .ok _
        exact AllocationTerms.allocate_foreseen
          (LoanConfig.lenderInterestRate_isPortion stores.valid)
          (LoanConfig.minInvestmentRate_isPortion stores.valid)
          (fun offer member => roundedOffers_positive rounds member) minor positive
      · rw [if_pos approved]
        exact .reject trivial

theorem IsAttestedBy.plan_foreseen (occasion : Occasion) (request : TransitionRequest) :
    FailsWithin Failure.IsForeseen (desk.plan occasion request) := by
  cases request with
  | propose request =>
      refine .bind request.check_foreseen fun _ => ?_
      refine .bind_ok request.principal.rounded_refuses.foreseen fun rounded rounds => ?_
      obtain ⟨places, minor, _⟩ := Money.isMinor_of_rounded rounds
      cases positive : rounded.value.amount.isPositive with
      | false => exact .reject trivial
      | true =>
          rw [if_pos rfl]
          refine .bind (RepaymentTerms.schedule_refuses ?_ ?_ ?_ minor ?_ _).foreseen fun _ => .ok _
          · exact LoanConfig.interestRate_isPortion stores.valid
          · exact LoanConfig.serviceFeeRate_isPortion stores.valid
          · exact LoanConfig.installmentCount_ne_zero stores.valid
          · exact Int.le_of_lt (Decimal.isPositive_iff.mp positive)
  | approve request =>
      exact .bind (TransitionRequest.check_foreseen (.approve request)) fun _ => .ok _
  | invest request => exact attested.planInvest_foreseen sound stores occasion request
  | disburse request =>
      exact .bind (TransitionRequest.check_foreseen (.disburse request)) fun _ => .ok _

theorem IsAttestedBy.answer_foreseen {visit : Visit} (received : desk.Receives visit) :
    FailsWithin Failure.IsForeseen (desk.answer visit) := by
  cases planned : desk.plan visit.occasion visit.request with
  | error other =>
      rw [answer, apply_of_unplanned planned]
      intro failure failed
      cases failed
      exact attested.plan_foreseen sound stores _ _ other planned
  | ok plan =>
      cases blocked : desk.store.tables.obstacle? plan.mutation.change with
      | some error =>
          rw [answer, apply_of_obstacle planned blocked]
          have plans := plans_of_plan planned
          exact .reject (Tables.obstacle?_foreseen (fun _ => plans.absent_of_propose received) blocked)
      | none =>
          obtain ⟨outcome, succeeded⟩ := attested.answer_of_turn sound received planned blocked
          exact .of_eq_ok succeeded

end IsAttestedBy

/-- All failures are foreseen, over every run of visits at a new desk with a valid configuration
whose signer recognises its own stamps: the next visit, whatever it asks for and however large its
amounts are, is refused for what is wrong with it or with what it finds stored, or not at all.  No
decimal operation overflows, and the schedule of a proposal leaves nothing to be paid. -/
theorem failures_foreseen {config : LoanConfig} {signer : AuditSigner} {start : LoanDesk}
    (sound : signer.IsSound) (opened : new config (.empty signer) = .ok start)
    (visits : List Visit) (admitted : start.Admits visits) (visit : Visit)
    (received : (start.run visits).Receives visit) :
    (∀ failure, (start.run visits).answer visit = .error failure → failure.IsForeseen) ∧
      ∀ request rounded, visit.request = .propose request →
        request.principal.rounded = .ok rounded → rounded.value.amount.isPositive = true →
        (RepaymentTerms.ofConfig config).Settles rounded.value visit.occasion.now := by
  have begun := isAttestedBy_new opened
  have attested := begun.run admitted
  have stores := (storesPrincipals_new opened).run begun admitted
  constructor
  · exact attested.answer_foreseen sound stores received
  · intro request rounded _ _ _
    obtain ⟨valid, _⟩ := new_eq_ok_iff.mp opened
    exact RepaymentTerms.settles (LoanConfig.installmentCount_ne_zero valid) _ _

/-- A proposal of the largest number of dollars that a decimal can hold. -/
def largestVisit : Visit :=
  let largest : Decimal := ⟨false, Decimal.mantissaBound - 1, 0, by decide, Nat.zero_le _⟩
  ⟨⟨Store.newYear, .ofClock 0 2, fun index => .ofClock 2 index⟩,
    .propose ⟨⟨"borrower"⟩, ⟨"USD", largest, Store.newYear, ""⟩⟩⟩

theorem failures_foreseen_largestVisit :
    let signer := AuditSigner.restamping (.ofSeed (List.replicate 32 7))
    signer.IsSound ∧
    ∃ start, new .standard (.empty signer) = .ok start ∧ start.Admits openingRun ∧
      (start.run openingRun).Receives largestVisit ∧
      (∀ failure, (start.run openingRun).answer largestVisit = .error failure →
        failure.IsForeseen) ∧
      ∀ request rounded, largestVisit.request = .propose request →
        request.principal.rounded = .ok rounded → rounded.value.amount.isPositive = true →
        (RepaymentTerms.ofConfig .standard).Settles rounded.value largestVisit.occasion.now := by
  intro signer
  have sound : signer.IsSound := AuditSigner.isSound_restamping _
  let start : LoanDesk := ⟨.standard, .empty signer⟩
  have opened : new .standard (.empty signer) = .ok start := new_standard _
  have admitted := admits_openingRun opened
  have received : (start.run openingRun).Receives largestVisit := by
    constructor
    · intro request _
      decide +kernel
    · decide +kernel
  exact ⟨sound, start, opened, admitted, received,
    failures_foreseen sound opened openingRun admitted largestVisit received⟩

end LoanDesk

end LoanBook
