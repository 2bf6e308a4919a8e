import LoanBook.Proofs.Allocation.Failures
import LoanBook.Proofs.Lifecycle.Order
import LoanBook.Proofs.Store.Ledger

/-!
# Answers to requests

A request in good form that comes before its turn, after it, or for a loan that is not stored is
answered with the reason, and for no other cause.  With the steps that loans take this makes up the
order of their lives on a desk whose signer recognises its own stamps.
-/

namespace LoanBook

namespace Tables

variable {tables : Tables} {change : LoanChange} {before : LoanState}
  (required : change.required? = some before)
include required

theorem obstacle?_of_absent (absent : tables.loan? change.loanId = none) :
    tables.obstacle? change = some (.loanNotFound change.loanId) := by
  rw [obstacle?, loan?_eq_none_iff.mp absent, required]

theorem obstacle?_of_differs {loan : Loan} (found : tables.loan? change.loanId = some loan)
    (differs : loan.state ≠ before) :
    tables.obstacle? change = some (.stateConflict change.loanId before) := by
  obtain ⟨record, recordFound, rfl⟩ := exists_find?_of_loan? found
  rw [obstacle?, recordFound, required]
  exact if_neg differs

theorem obstacle?_of_turn {loan : Loan} (found : tables.loan? change.loanId = some loan)
    (state : loan.state = before) : tables.obstacle? change = none := by
  rw [obstacle?_eq_none_iff, found, required, Option.map_some, state]

end Tables

namespace LoanDesk

/-- A visit is refused because its loan is not stored, or not in the state before, exactly when that
is so. -/
def RefusesInOrder (desk : LoanDesk) (visit : Visit) (before : LoanState) : Prop :=
  (desk.answer visit = reject (.loanNotFound visit.loanId) ↔ desk.stored? visit.loanId = none) ∧
    (desk.answer visit = reject (.stateConflict visit.loanId before) ↔
      ∃ loan, desk.stored? visit.loanId = some loan ∧ loan.state ≠ before)

/-- A visit succeeds exactly when its loan is stored in the state before, with the loan as it is
stored then. -/
def SucceedsInOrder (desk : LoanDesk) (visit : Visit) (before : LoanState) : Prop :=
  ((∃ outcome, desk.answer visit = .ok outcome) ↔
      ∃ loan, desk.stored? visit.loanId = some loan ∧ loan.state = before) ∧
    ∀ outcome, desk.answer visit = .ok outcome →
      (desk.after visit).stored? visit.loanId = some outcome.loan

/-- The answers to visits with requests in good form: an approval or a disbursement depends on the
state of its loan only, and an investment fails for it in the same two cases. -/
def AnswersInOrder (desk : LoanDesk) (visit : Visit) : Prop :=
  match visit.request with
  | .propose _ => True
  | .approve request => request.check = .ok () →
      desk.RefusesInOrder visit .proposed ∧ desk.SucceedsInOrder visit .proposed
  | .invest request => request.check = .ok () → (∃ rounded, request.roundedOffers = .ok rounded) →
      desk.RefusesInOrder visit .approved
  | .disburse request => request.check = .ok () →
      desk.RefusesInOrder visit .invested ∧ desk.SucceedsInOrder visit .invested


variable {signer : AuditSigner} {desk : LoanDesk}

/-- A visit whose answer in each case is known is refused in order. -/
theorem refusesInOrder_of_cases {visit : Visit} {before : LoanState}
    (absent : desk.stored? visit.loanId = none →
      desk.answer visit = reject (.loanNotFound visit.loanId))
    (differs : ∀ loan, desk.stored? visit.loanId = some loan → loan.state ≠ before →
      desk.answer visit = reject (.stateConflict visit.loanId before))
    (turn : ∀ loan, desk.stored? visit.loanId = some loan → loan.state = before →
      desk.answer visit ≠ reject (.loanNotFound visit.loanId) ∧
        desk.answer visit ≠ reject (.stateConflict visit.loanId before)) :
    desk.RefusesInOrder visit before := by
  unfold RefusesInOrder
  cases stored : desk.stored? visit.loanId with
  | none =>
      rw [absent stored]
      simp [reject]
  | some loan =>
      by_cases state : loan.state = before
      · obtain ⟨found, inState⟩ := turn loan stored state
        simp [found, inState, state]
      · rw [differs loan stored state]
        simp [reject, state]

section Invest

variable {occasion : Occasion} {request : InvestRequest}
  {rounded : List LenderOffer × List PrecisionMismatch} (checked : request.check = .ok ())
  (rounds : request.roundedOffers = .ok rounded)
include checked rounds

/-- An investment in good form goes by what is stored. -/
theorem plan_invest_eq (occasion : Occasion) :
    desk.plan occasion (.invest request) = (do
      let stored ← desk.store.load request.loan
      if stored.state ≠ .approved then reject (.stateConflict request.loan .approved)
      else
        match stored.principal? with
        | none => reject (.storage (.noPrincipal request.loan))
        | some principal =>
          let allocation ← (AllocationTerms.ofConfig desk.config).allocate request.loan principal
            rounded.1 occasion.now
          return ⟨⟨.invest request.loan (allocation.lenderParties occasion.partyIds), occasion.now⟩,
            rounded.2, some allocation⟩) := by
  rw [plan, planInvest, checked, rounds]
  rfl

/-- In its turn, an investment that cannot be planned blames no loan for being absent or in a wrong
state. -/
theorem plan_invest_blames_no_loan {loan : Loan} {failure : Failure}
    (loads : desk.store.load request.loan = .ok loan) (approved : loan.state = .approved)
    (failed : desk.plan occasion (.invest request) = .error failure) (blamed : LoanId)
    (expected : LoanState) :
    failure ≠ .rejected (.loanNotFound blamed) ∧
      failure ≠ .rejected (.stateConflict blamed expected) := by
  rw [plan_invest_eq checked rounds, loads, ok_bind, if_neg (not_not_intro approved)] at failed
  cases draws : loan.principal? with
  | none =>
      rw [draws] at failed
      cases failed
      constructor
      · intro same
        cases same
      · intro same
        cases same
  | some principal =>
      simp only [draws] at failed
      rcases bind_eq_error_iff.mp failed with unallocated | ⟨_, _, none⟩
      · exact AllocationTerms.allocate_blames_no_loan unallocated blamed expected
      · cases none

end Invest

section IsAttestedBy

variable (attested : desk.IsAttestedBy signer) (sound : signer.IsSound)
include attested sound

/-- A planned change in its turn is answered with the loan that it leaves. -/
theorem IsAttestedBy.answer_of_turn {visit : Visit} {plan : TransitionPlan}
    (received : desk.Receives visit) (planned : desk.plan visit.occasion visit.request = .ok plan)
    (allowed : desk.store.tables.obstacle? plan.mutation.change = none) :
    ∃ outcome, desk.answer visit = .ok outcome := by
  have plans := plans_of_plan planned
  have fresh := plans.isFresh received
  obtain ⟨loan, stored, _⟩ := written_loan? attested.wellFormed allowed fresh
  have loads := (attested.written plans allowed fresh).load_eq sound stored
  exact ⟨⟨loan, plan.warnings, plan.allocation⟩, by
    rw [answer, apply_of_allowed planned allowed, loads]
    rfl⟩

/-- A request that can be planned whatever is stored depends on the state of its loan only. -/
theorem IsAttestedBy.answersInOrder_of_planned {visit : Visit} {plan : TransitionPlan}
    {before : LoanState} (received : desk.Receives visit)
    (planned : desk.plan visit.occasion visit.request = .ok plan)
    (precedes : visit.request.target.predecessor = some before) :
    desk.RefusesInOrder visit before ∧ desk.SucceedsInOrder visit before := by
  have plans := plans_of_plan planned
  have required : plan.mutation.change.required? = some before := by
    rw [LoanChange.required?, plans.target_eq, precedes]
  have loanEq : plan.mutation.change.loanId = visit.loanId := plans.loanId_eq
  have storedEq := attested.stored?_eq sound visit.loanId
  have absent (none : desk.stored? visit.loanId = none) :
      desk.answer visit = reject (.loanNotFound visit.loanId) := by
    rw [storedEq, ← loanEq] at none
    rw [answer, apply_of_obstacle planned (Tables.obstacle?_of_absent required none), loanEq]
  have differs (loan : Loan) (found : desk.stored? visit.loanId = some loan)
      (other : loan.state ≠ before) :
      desk.answer visit = reject (.stateConflict visit.loanId before) := by
    rw [storedEq, ← loanEq] at found
    rw [answer, apply_of_obstacle planned (Tables.obstacle?_of_differs required found other),
      loanEq]
  have turn (loan : Loan) (found : desk.stored? visit.loanId = some loan)
      (state : loan.state = before) : ∃ outcome, desk.answer visit = .ok outcome := by
    rw [storedEq, ← loanEq] at found
    exact attested.answer_of_turn sound received planned
      (Tables.obstacle?_of_turn required found state)
  constructor
  · apply refusesInOrder_of_cases absent differs
    intro loan found state
    obtain ⟨outcome, succeeded⟩ := turn loan found state
    rw [succeeded]
    exact ⟨ok_ne_reject _ _, ok_ne_reject _ _⟩
  · constructor
    · constructor
      · rintro ⟨outcome, succeeded⟩
        obtain ⟨state, _, _⟩ := attested.of_success received succeeded
        rw [precedes, Option.map_eq_some_iff] at state
        rwa [storedEq]
      · rintro ⟨loan, found, state⟩
        exact turn loan found state
    · intro outcome succeeded
      rw [(attested.after received).stored?_eq sound]
      exact (attested.of_success received succeeded).2.1

/-- An investment in good form is refused for the state of its loan as the other requests are. -/
theorem IsAttestedBy.refusesInOrder_invest {occasion : Occasion} {request : InvestRequest}
    {rounded : List LenderOffer × List PrecisionMismatch}
    (received : desk.Receives ⟨occasion, .invest request⟩) (checked : request.check = .ok ())
    (rounds : request.roundedOffers = .ok rounded) :
    desk.RefusesInOrder ⟨occasion, .invest request⟩ .approved := by
  have storedEq := attested.stored?_eq sound request.loan
  have planEq := @plan_invest_eq desk _ _ checked rounds occasion
  apply refusesInOrder_of_cases
  · intro none
    have absent : desk.store.tables.loan? request.loan = Option.none := storedEq ▸ none
    rw [Store.load_of_absent attested.wellFormed absent] at planEq
    rw [answer, apply_of_unplanned planEq]
    rfl
  · intro loan found state
    rw [attested.load_eq sound (storedEq ▸ found), ok_bind, if_pos state] at planEq
    rw [answer, apply_of_unplanned planEq]
    rfl
  · intro loan found state
    have inTable : desk.store.tables.loan? request.loan = some loan := storedEq ▸ found
    have loads := attested.load_eq sound inTable
    cases planned : desk.plan occasion (.invest request) with
    | error failure =>
        have blameless := plan_invest_blames_no_loan checked rounds loads state planned
          request.loan .approved
        rw [answer, apply_of_unplanned planned]
        constructor
        · intro same
          exact blameless.1 (Except.error.inj same)
        · intro same
          exact blameless.2 (Except.error.inj same)
    | ok plan =>
        have plans := plans_of_plan planned
        have required : plan.mutation.change.required? = some .approved := by
          rw [LoanChange.required?, plans.target_eq]
          rfl
        rw [show request.loan = plan.mutation.change.loanId from plans.loanId_eq.symm] at inTable
        obtain ⟨outcome, succeeded⟩ := attested.answer_of_turn sound received planned
          (Tables.obstacle?_of_turn required inTable state)
        rw [succeeded]
        exact ⟨ok_ne_reject _ _, ok_ne_reject _ _⟩

theorem IsAttestedBy.answersInOrder {visit : Visit} (received : desk.Receives visit) :
    desk.AnswersInOrder visit := by
  obtain ⟨occasion, request⟩ := visit
  cases request with
  | propose request => trivial
  | approve request =>
      intro checked
      have planned : desk.plan occasion (.approve request) =
          .ok ⟨⟨.approve request.loan request.approvedBy request.document, occasion.now⟩, [],
            none⟩ := by
        rw [plan, planApprove, checked]
        rfl
      exact attested.answersInOrder_of_planned sound received planned rfl
  | invest request =>
      rintro checked ⟨rounded, rounds⟩
      exact attested.refusesInOrder_invest sound received checked rounds
  | disburse request =>
      intro checked
      have planned : desk.plan occasion (.disburse request) =
          .ok ⟨⟨.disburse request.loan request.disbursedBy request.contract, occasion.now⟩, [],
            none⟩ := by
        rw [plan, planDisburse, checked]
        rfl
      exact attested.answersInOrder_of_planned sound received planned rfl

end IsAttestedBy

/-- The order of loans' lives, over every run of visits at a new desk whose signer recognises its
own stamps.  All stored loans can be read; their sign-offs are those that their states tell of; a visit
moves each of them at most one step, and later ones continue what is written about it; no two visits
succeed in moving a loan into the same state; and requests are refused for the state of their loan
exactly when it is not the one before. -/
theorem life_in_order {config : LoanConfig} {signer : AuditSigner} {start : LoanDesk}
    (sound : signer.IsSound) (opened : new config (.empty signer) = .ok start)
    (visits : List Visit) (admitted : start.Admits visits) :
    let desk := start.run visits
    (∀ id, desk.stored? id = none ↔ desk.store.tables.find? id = none) ∧
    (∀ id loan, desk.stored? id = some loan → loan.IsAttestedBy signer) ∧
    (∀ visit, desk.Receives visit →
      ∀ id, LoanStep (desk.stored? id) ((desk.after visit).stored? id)) ∧
    (∀ later, desk.Admits later → ∀ id loan, desk.stored? id = some loan →
      ∃ continued, (desk.run later).stored? id = some continued ∧ loan.Continues continued) ∧
    (∀ target id, successes target id start visits ≤ 1) ∧
    ∀ visit, desk.Receives visit → desk.AnswersInOrder visit := by
  intro desk
  have begun := isAttestedBy_new opened
  have attested : desk.IsAttestedBy signer := begun.run admitted
  have storedEq := attested.stored?_eq sound
  refine ⟨?_, ?_, ?_, ?_, ?_, ?_⟩
  · intro id
    rw [storedEq, Tables.loan?_eq_none_iff]
  · intro id loan found
    rw [storedEq] at found
    exact attested.attested id loan found
  · intro visit received id
    rw [storedEq, (attested.after received).stored?_eq sound]
    exact attested.step received id
  · intro later admittedLater id loan found
    rw [storedEq] at found
    rw [(attested.run admittedLater).stored?_eq sound]
    exact attested.continues admittedLater found
  · intro target id
    exact begun.successes_le_one admitted target id
  · intro visit received
    exact attested.answersInOrder sound received

/-- A loan of one dollar is proposed and approved. -/
def openingRun : List Visit :=
  let loan : LoanId := .ofClock 0 1
  let occasion : Occasion := ⟨Store.newYear, loan, fun index => .ofClock 1 index⟩
  [⟨occasion, .propose ⟨⟨"borrower"⟩, ⟨"USD", .one, Store.newYear, ""⟩⟩⟩,
    ⟨occasion, .approve ⟨loan, ⟨"clerk"⟩, "minutes"⟩⟩]

theorem admits_openingRun {config : LoanConfig} {start : LoanDesk}
    (opened : new config (.empty signer) = .ok start) : start.Admits openingRun := by
  obtain ⟨_, rfl⟩ := new_eq_ok_iff.mp opened
  have first : LoanDesk.Receives ⟨config, .empty signer⟩ (openingRun.head (by decide)) :=
    ⟨fun _ _ => rfl, List.nodup_singleton _⟩
  have proposed := wellFormed_after Tables.wellFormed_empty first
  exact ⟨first, receives_of_partyCount_eq_zero proposed rfl, trivial⟩

theorem life_in_order_openingRun :
    let signer := AuditSigner.restamping (.ofSeed (List.replicate 32 7))
    signer.IsSound ∧
    ∃ start, new .standard (.empty signer) = .ok start ∧ start.Admits openingRun ∧
    let desk := start.run openingRun
    (∀ id, desk.stored? id = none ↔ desk.store.tables.find? id = none) ∧
    (∀ id loan, desk.stored? id = some loan → loan.IsAttestedBy signer) ∧
    (∀ visit, desk.Receives visit →
      ∀ id, LoanStep (desk.stored? id) ((desk.after visit).stored? id)) ∧
    (∀ later, desk.Admits later → ∀ id loan, desk.stored? id = some loan →
      ∃ continued, (desk.run later).stored? id = some continued ∧ loan.Continues continued) ∧
    (∀ target id, successes target id start openingRun ≤ 1) ∧
    ∀ visit, desk.Receives visit → desk.AnswersInOrder visit := by
  intro signer
  have sound : signer.IsSound := AuditSigner.isSound_restamping _
  let start : LoanDesk := ⟨.standard, .empty signer⟩
  have opened : new .standard (.empty signer) = .ok start := new_standard _
  have admitted := admits_openingRun opened
  exact ⟨sound, start, opened, admitted, life_in_order sound opened openingRun admitted⟩

end LoanDesk

end LoanBook
