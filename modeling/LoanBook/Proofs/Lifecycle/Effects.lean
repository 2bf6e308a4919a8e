import LoanBook.Proofs.Lifecycle.Answers

/-!
# Effects of requests

A request that fails leaves the desk as it was.  One that succeeds changes its own loan and no
other, and answers with the loan as it is read from then on; an investment adds one lender for each
offer used.  A loan is read back after it has been written, so this rests on a signer who recognises
its own stamps: then every loan that a desk can write is one that it can read.
-/

namespace LoanBook

/-- A lender of what was used of an offer: the payments are the investment and its repayment. -/
structure LoanParty.LendsUsed (party : LoanParty) (used : UsedInvestment) : Prop where
  role_eq : party.role = .lender
  user_eq : party.user = used.lender
  payments_eq : party.payments.map Payment.toMoney = [used.investment, used.repayment]

/-- The parties of an allocation lend, in order, what it uses. -/
theorem Allocation.lenderParties_lendUsed (allocation : Allocation) (identifiers : Nat → PartyId)
    (stamp : Attestation) :
    List.Forall₂ LoanParty.LendsUsed
      ((allocation.lenderParties identifiers).map (LoanParty.stamped stamp)) allocation.used := by
  rw [List.forall₂_map_left_iff, List.forall₂_iff_get]
  constructor
  · rw [lenderParties, List.length_mapIdx]
  · intro index inParties inUsed
    simp only [lenderParties, List.get_eq_getElem, List.getElem_mapIdx]
    exact ⟨rfl, rfl, rfl⟩

theorem LoanChange.parties_of_invest {id : LoanId} {lenders : List LoanParty} {stamp : Attestation}
    {earlier later : Loan}
    (results : (LoanChange.invest id lenders).resulting stamp (some earlier) = some later) :
    later.parties = earlier.parties ++ lenders.map (LoanParty.stamped stamp) := by
  cases results
  rfl

namespace LoanDesk

/-- A visit has led to an outcome: the loan is stored as it was answered, no other loan has
changed, and an investment has added the lenders of its allocation. -/
structure Commits (desk : LoanDesk) (visit : Visit) (outcome : TransitionOutcome) : Prop where
  id_eq : outcome.loan.id = visit.loanId
  load_eq : (desk.after visit).store.load outcome.loan.id = .ok outcome.loan
  load_eq_of_ne : ∀ id, id ≠ outcome.loan.id →
    (desk.after visit).store.load id = desk.store.load id
  lenders_eq : ∀ request, visit.request = .invest request → ∃ stored allocation lenders,
    desk.store.load request.loan = .ok stored ∧ outcome.allocation = some allocation ∧
      outcome.loan.parties = stored.parties ++ lenders ∧
      List.Forall₂ LoanParty.LendsUsed lenders allocation.used

variable {signer : AuditSigner} {desk : LoanDesk}

/-- A visit touches no loan but its own. -/
theorem after_loan?_of_ne {visit : Visit} (wellFormed : desk.store.tables.WellFormed)
    (received : desk.Receives visit) {id : LoanId} (other : id ≠ visit.loanId) :
    (desk.after visit).store.tables.loan? id = desk.store.tables.loan? id := by
  rcases after_cases received with unchanged | ⟨plan, plans, allowed, fresh, written⟩
  · rw [unchanged]
  · rw [written]
    apply written_loan?_of_ne wellFormed allowed fresh
    rwa [plans.loanId_eq]

section IsAttestedBy

variable (attested : desk.IsAttestedBy signer)
include attested

/-- An investment that succeeds puts the lenders of its allocation after the parties before. -/
theorem IsAttestedBy.lenders_of_invest {visit : Visit} (received : desk.Receives visit)
    {outcome : TransitionOutcome} (succeeded : desk.answer visit = .ok outcome)
    {request : InvestRequest} (invests : visit.request = .invest request) :
    ∃ stored allocation lenders, desk.store.load request.loan = .ok stored ∧
      outcome.allocation = some allocation ∧ outcome.loan.parties = stored.parties ++ lenders ∧
      List.Forall₂ LoanParty.LendsUsed lenders allocation.used := by
  obtain ⟨plan, plans, _, _, results, _, allocationEq⟩ :=
    attested.exists_plan_of_success received succeeded
  obtain ⟨occasion, _⟩ := visit
  cases invests
  cases plans with
  | @invest request offers warnings stored principal allocation checked rounds loads approved draws
      allocates =>
      have found : desk.store.tables.loan? (Visit.mk occasion (.invest request)).loanId =
          some stored := Store.loan?_of_load attested.wellFormed loads
      rw [found] at results
      exact ⟨stored, allocation, _, loads, allocationEq, LoanChange.parties_of_invest results,
        allocation.lenderParties_lendUsed occasion.partyIds _⟩

variable (sound : signer.IsSound)
include sound

theorem IsAttestedBy.load_congr {other : LoanDesk} (otherAttested : other.IsAttestedBy signer)
    {id : LoanId} (same : desk.store.tables.loan? id = other.store.tables.loan? id) :
    desk.store.load id = other.store.load id := by
  cases found : other.store.tables.loan? id with
  | none =>
      rw [Store.load_of_absent attested.wellFormed (same.trans found),
        Store.load_of_absent otherAttested.wellFormed found]
  | some loan =>
      rw [attested.load_eq sound (same.trans found), otherAttested.load_eq sound found]

/-- A visit that fails writes nothing: what a plan writes is always read back. -/
theorem IsAttestedBy.after_of_failure {visit : Visit} (received : desk.Receives visit)
    {failure : Failure} (failed : desk.answer visit = .error failure) :
    desk.after visit = desk := by
  cases planned : desk.plan visit.occasion visit.request with
  | error other => rw [LoanDesk.after, apply_of_unplanned planned]
  | ok plan =>
      cases blocked : desk.store.tables.obstacle? plan.mutation.change with
      | some error => rw [LoanDesk.after, apply_of_obstacle planned blocked]
      | none =>
          obtain ⟨outcome, succeeded⟩ := attested.answer_of_turn sound received planned blocked
          cases failed.symm.trans succeeded

/-- A visit that succeeds is committed. -/
theorem IsAttestedBy.commits {visit : Visit} (received : desk.Receives visit)
    {outcome : TransitionOutcome} (succeeded : desk.answer visit = .ok outcome) :
    desk.Commits visit outcome := by
  have next := attested.after received
  obtain ⟨_, stored, _⟩ := attested.of_success received succeeded
  have idEq : outcome.loan.id = visit.loanId := Tables.id_of_loan? stored
  constructor
  · exact idEq
  · rw [idEq]
    exact next.load_eq sound stored
  · intro id other
    rw [idEq] at other
    exact next.load_congr sound attested (after_loan?_of_ne attested.wellFormed received other)
  · intro request invests
    exact attested.lenders_of_invest received succeeded invests

end IsAttestedBy

/-- Requests are all or nothing, over every run of visits at a new desk whose signer recognises its
own stamps: the next visit, whatever it asks for, either fails and leaves the desk as it was, or is
committed. -/
theorem transitions_atomic {config : LoanConfig} {signer : AuditSigner} {start : LoanDesk}
    (sound : signer.IsSound) (opened : new config (.empty signer) = .ok start)
    (visits : List Visit) (admitted : start.Admits visits) (visit : Visit)
    (received : (start.run visits).Receives visit) :
    let desk := start.run visits
    (∀ failure, desk.answer visit = .error failure → desk.after visit = desk) ∧
      ∀ outcome, desk.answer visit = .ok outcome → desk.Commits visit outcome := by
  have attested := (isAttestedBy_new opened).run admitted
  constructor
  · intro failure failed
    exact attested.after_of_failure sound received failed
  · intro outcome succeeded
    exact attested.commits sound received succeeded

/-- A lender offers the one dollar that was proposed and approved. -/
def fundingVisit : Visit :=
  let loan : LoanId := .ofClock 0 1
  ⟨⟨Store.newYear, loan, fun index => .ofClock 2 index⟩,
    .invest ⟨loan, [⟨⟨"lender"⟩, none, ⟨"USD", .one, Store.newYear, ""⟩⟩]⟩⟩

theorem transitions_atomic_fundingVisit :
    let signer := AuditSigner.restamping (.ofSeed (List.replicate 32 7))
    signer.IsSound ∧
    ∃ start, new .standard (.empty signer) = .ok start ∧ start.Admits openingRun ∧
      let desk := start.run openingRun
      desk.Receives fundingVisit ∧
      (∀ failure, desk.answer fundingVisit = .error failure → desk.after fundingVisit = desk) ∧
        ∀ outcome, desk.answer fundingVisit = .ok outcome → desk.Commits fundingVisit outcome := by
  intro signer
  have sound : signer.IsSound := AuditSigner.isSound_restamping _
  let start : LoanDesk := ⟨.standard, .empty signer⟩
  have opened : new .standard (.empty signer) = .ok start := new_standard _
  have admitted := admits_openingRun opened
  have received : (start.run openingRun).Receives fundingVisit := by
    constructor
    · intro request proposes
      cases proposes
    · decide +kernel
  exact ⟨sound, start, opened, admitted, received,
    transitions_atomic sound opened openingRun admitted fundingVisit received⟩

end LoanDesk

end LoanBook
