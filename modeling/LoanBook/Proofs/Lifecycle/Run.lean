import LoanBook.Lifecycle
import LoanBook.Proofs.Allocation.Filling
import LoanBook.Proofs.Store.Answers

/-!
# Runs of a desk

A desk receives visits: requests, each with the moment and the new identifiers that it finds.  This
file says what one visit can do to the desk, and carries invariants along whole runs of visits whose
identifiers are new to the store.
-/

namespace LoanBook

open Calendar (Instant)

/-- A request with what it finds. -/
structure Visit where
  occasion : Occasion
  request : TransitionRequest

namespace TransitionRequest

/-- How many parties a request may bring to its loan. -/
def partyCount : TransitionRequest → Nat
  | .propose _ => 1
  | .approve _ => 0
  | .invest request => request.offers.length
  | .disburse _ => 0

/-- The state that a request moves its loan into. -/
def target : TransitionRequest → LoanState
  | .propose _ => .proposed
  | .approve _ => .approved
  | .invest _ => .invested
  | .disburse _ => .disbursed

end TransitionRequest

/-- The loan that a visit is about: the new one for a proposal, and the one named otherwise. -/
def Visit.loanId (visit : Visit) : LoanId :=
  match visit.request with
  | .propose _ => visit.occasion.loanId
  | .approve request => request.loan
  | .invest request => request.loan
  | .disburse request => request.loan

/-- The borrower that a proposal brings to its loan. -/
def RepaymentSchedule.borrower (schedule : RepaymentSchedule) (user : UserId)
    (occasion : Occasion) : LoanParty where
  id := occasion.partyIds 0
  user := user
  role := .borrower
  payments := schedule.borrowerPayments occasion.loanId occasion.now
  created := none

namespace LoanDesk

/-- The plans that requests lead to. -/
inductive Plans (desk : LoanDesk) (occasion : Occasion) :
    TransitionRequest → TransitionPlan → Prop where
  | propose {request : ProposeRequest} {rounded : Rounded} {schedule : RepaymentSchedule}
      (checked : request.check = .ok ())
      (rounds : request.principal.rounded = .ok rounded)
      (positive : rounded.value.amount.isPositive = true)
      (schedules : (RepaymentTerms.ofConfig desk.config).schedule rounded.value occasion.now =
        .ok schedule) :
      Plans desk occasion (.propose request)
        ⟨⟨.propose (.proposed occasion.loanId (schedule.borrower request.borrower occasion)),
          occasion.now⟩, rounded.mismatch.toList, none⟩
  | approve {request : ApproveRequest} (checked : request.check = .ok ()) :
      Plans desk occasion (.approve request)
        ⟨⟨.approve request.loan request.approvedBy request.document, occasion.now⟩, [], none⟩
  | invest {request : InvestRequest} {offers : List LenderOffer}
      {warnings : List PrecisionMismatch} {stored : Loan} {principal : Money}
      {allocation : Allocation}
      (checked : request.check = .ok ())
      (rounds : request.roundedOffers = .ok (offers, warnings))
      (loads : desk.store.load request.loan = .ok stored)
      (approved : stored.state = .approved)
      (draws : stored.principal? = some principal)
      (allocates : (AllocationTerms.ofConfig desk.config).allocate request.loan principal offers
        occasion.now = .ok allocation) :
      Plans desk occasion (.invest request)
        ⟨⟨.invest request.loan (allocation.lenderParties occasion.partyIds), occasion.now⟩,
          warnings, some allocation⟩
  | disburse {request : DisburseRequest} (checked : request.check = .ok ()) :
      Plans desk occasion (.disburse request)
        ⟨⟨.disburse request.loan request.disbursedBy request.contract, occasion.now⟩, [], none⟩

/-- A visit brings identifiers that are new to the store: of the loan that it proposes, and of the
parties that it may write. -/
structure Receives (desk : LoanDesk) (visit : Visit) : Prop where
  loan_fresh : ∀ request, visit.request = .propose request →
    desk.store.tables.find? visit.occasion.loanId = none
  parties_fresh : ((List.range visit.request.partyCount).map visit.occasion.partyIds ++
    desk.store.tables.partyIds).Nodup

/-- The desk after a visit. -/
def after (desk : LoanDesk) (visit : Visit) : LoanDesk :=
  (desk.apply visit.occasion visit.request).1

/-- The answer to a visit. -/
def answer (desk : LoanDesk) (visit : Visit) : Except Failure TransitionOutcome :=
  (desk.apply visit.occasion visit.request).2

/-- The desk after visits, in order. -/
def run (desk : LoanDesk) (visits : List Visit) : LoanDesk :=
  visits.foldl after desk

/-- Every visit of a run brings identifiers that are new to the store as it then is. -/
def Admits (desk : LoanDesk) : List Visit → Prop
  | [] => True
  | visit :: visits => desk.Receives visit ∧ (desk.after visit).Admits visits

/-- The desk with a mutation written to its store. -/
def written (desk : LoanDesk) (mutation : LoanMutation) : LoanDesk :=
  { desk with
    store :=
      { desk.store with
        tables := desk.store.tables.write (desk.store.signer.stampAt mutation.time)
          mutation.change } }

variable {desk : LoanDesk}

theorem plans_of_plan {occasion : Occasion} {request : TransitionRequest} {plan : TransitionPlan}
    (planned : desk.plan occasion request = .ok plan) : desk.Plans occasion request plan := by
  cases request with
  | propose request =>
      obtain ⟨⟨⟩, checked, planned⟩ := bind_eq_ok_iff.mp planned
      obtain ⟨rounded, rounds, planned⟩ := bind_eq_ok_iff.mp planned
      cases positive : rounded.value.amount.isPositive with
      | false => simp [positive, rejectIssue, reject] at planned
      | true =>
          rw [if_pos positive] at planned
          obtain ⟨schedule, schedules, planned⟩ := bind_eq_ok_iff.mp planned
          cases planned
          exact .propose checked rounds positive schedules
  | approve request =>
      obtain ⟨⟨⟩, checked, planned⟩ := bind_eq_ok_iff.mp planned
      cases planned
      exact .approve checked
  | invest request =>
      obtain ⟨⟨⟩, checked, planned⟩ := bind_eq_ok_iff.mp planned
      obtain ⟨⟨offers, warnings⟩, rounds, planned⟩ := bind_eq_ok_iff.mp planned
      obtain ⟨stored, loads, planned⟩ := bind_eq_ok_iff.mp planned
      by_cases approved : stored.state = .approved
      · rw [if_neg (not_not_intro approved)] at planned
        cases draws : stored.principal? with
        | none => simp [draws, reject] at planned
        | some principal =>
            simp only [draws] at planned
            obtain ⟨allocation, allocates, planned⟩ := bind_eq_ok_iff.mp planned
            cases planned
            exact .invest checked rounds loads approved draws allocates
      · rw [if_pos approved] at planned
        cases planned
  | disburse request =>
      obtain ⟨⟨⟩, checked, planned⟩ := bind_eq_ok_iff.mp planned
      cases planned
      exact .disburse checked

section Plans

variable {occasion : Occasion} {request : TransitionRequest} {plan : TransitionPlan}
  (plans : desk.Plans occasion request plan)
include plans

theorem Plans.loanId_eq : plan.mutation.change.loanId = (Visit.mk occasion request).loanId := by
  cases plans <;> rfl

theorem Plans.target_eq : plan.mutation.change.target = request.target := by
  cases plans <;> rfl

theorem Plans.propose_unsigned {loan : Loan} (proposes : plan.mutation.change = .propose loan) :
    loan.approval = none ∧ loan.disbursement = none := by
  cases plans with
  | propose checked rounds positive schedules =>
      cases proposes
      exact ⟨rfl, rfl⟩
  | approve checked => cases proposes
  | invest checked rounds loads approved draws allocates => cases proposes
  | disburse checked => cases proposes

/-- The parties of a plan carry the first of the new identifiers, as many as the request may
bring. -/
theorem Plans.parties_sublist :
    (plan.mutation.change.parties.map LoanParty.id).Sublist
      ((List.range request.partyCount).map occasion.partyIds) := by
  cases plans with
  | propose checked rounds positive schedules =>
      exact List.Sublist.refl [occasion.partyIds 0]
  | approve checked => exact List.nil_sublist _
  | @invest request offers warnings stored principal allocation checked rounds loads approved draws
      allocates =>
      obtain ⟨_, _, _, _, _, filled⟩ := AllocationTerms.fills_of_allocateBy allocates
      have offersLength : offers.length = request.offers.length := by
        obtain ⟨rounded, mapped, same⟩ := bind_eq_ok_iff.mp rounds
        cases same
        rw [List.length_map]
        exact (mapM_eq_ok_iff.mp mapped).length_eq.symm
      have usedLength : allocation.used.length ≤ request.offers.length := by
        have bound := filled.used_length_le
        rw [offersLength] at bound
        simpa using bound
      have ids : (allocation.lenderParties occasion.partyIds).map LoanParty.id =
          (List.range allocation.used.length).map occasion.partyIds := by
        apply List.ext_getElem
        · simp [Allocation.lenderParties]
        · intro index before after
          simp [Allocation.lenderParties]
      rw [LoanChange.parties, ids]
      exact (List.range_sublist.mpr usedLength).map _
  | disburse checked => exact List.nil_sublist _

theorem Plans.isFresh (received : desk.Receives ⟨occasion, request⟩) :
    desk.store.tables.IsFresh plan.mutation.change :=
  received.parties_fresh.sublist (plans.parties_sublist.append_right _)

end Plans

/-- A visit that brings nothing new is always received. -/
theorem receives_of_partyCount_eq_zero {visit : Visit} (wellFormed : desk.store.tables.WellFormed)
    (none : visit.request.partyCount = 0) : desk.Receives visit where
  loan_fresh := by
    intro request proposes
    rw [proposes] at none
    cases none
  parties_fresh := by
    rw [none]
    exact wellFormed.parties_nodup

theorem apply_of_unplanned {occasion : Occasion} {request : TransitionRequest} {failure : Failure}
    (unplanned : desk.plan occasion request = .error failure) :
    desk.apply occasion request = (desk, .error failure) := by
  rw [apply, unplanned]

theorem apply_of_obstacle {occasion : Occasion} {request : TransitionRequest}
    {plan : TransitionPlan} {error : LoanError} (planned : desk.plan occasion request = .ok plan)
    (blocked : desk.store.tables.obstacle? plan.mutation.change = some error) :
    desk.apply occasion request = (desk, reject error) := by
  rw [apply, planned]
  simp only [Store.mutate_of_obstacle blocked]
  rfl

theorem apply_of_allowed {occasion : Occasion} {request : TransitionRequest}
    {plan : TransitionPlan} (planned : desk.plan occasion request = .ok plan)
    (allowed : desk.store.tables.obstacle? plan.mutation.change = none) :
    desk.apply occasion request =
      (desk.written plan.mutation,
        ((desk.written plan.mutation).store.load plan.mutation.change.loanId).map fun loan =>
          ⟨loan, plan.warnings, plan.allocation⟩) := by
  rw [apply, planned]
  simp only [Store.mutate_of_allowed allowed]
  rfl

/-- A received visit leaves the desk as it was or writes what it planned. -/
theorem after_cases {visit : Visit} (received : desk.Receives visit) :
    desk.after visit = desk ∨
      ∃ plan, desk.Plans visit.occasion visit.request plan ∧
        desk.store.tables.obstacle? plan.mutation.change = none ∧
        desk.store.tables.IsFresh plan.mutation.change ∧
        desk.after visit = desk.written plan.mutation := by
  cases planned : desk.plan visit.occasion visit.request with
  | error failure =>
      left
      rw [after, apply_of_unplanned planned]
  | ok plan =>
      have plans := plans_of_plan planned
      cases blocked : desk.store.tables.obstacle? plan.mutation.change with
      | some error =>
          left
          rw [after, apply_of_obstacle planned blocked]
      | none =>
          right
          refine ⟨plan, plans, blocked, plans.isFresh received, ?_⟩
          rw [after, apply_of_allowed planned blocked]

@[simp]
theorem run_nil (desk : LoanDesk) : desk.run [] = desk :=
  rfl

@[simp]
theorem run_cons (desk : LoanDesk) (visit : Visit) (visits : List Visit) :
    desk.run (visit :: visits) = (desk.after visit).run visits :=
  rfl

theorem run_append (desk : LoanDesk) (visits later : List Visit) :
    desk.run (visits ++ later) = (desk.run visits).run later :=
  List.foldl_append

theorem admits_append {visits later : List Visit} :
    desk.Admits (visits ++ later) ↔ desk.Admits visits ∧ (desk.run visits).Admits later := by
  induction visits generalizing desk with
  | nil => simp [Admits]
  | cons visit visits ih =>
      rw [List.cons_append, Admits, Admits, ih, run_cons, and_assoc]

/-- What every visit of a run preserves holds at its end. -/
theorem run_preserves {Holds : LoanDesk → Prop} {visits : List Visit} (start : Holds desk)
    (admitted : desk.Admits visits)
    (step : ∀ desk visit, visit ∈ visits → Holds desk → desk.Receives visit →
      Holds (desk.after visit)) :
    Holds (desk.run visits) := by
  induction visits generalizing desk with
  | nil => exact start
  | cons visit visits ih =>
      have next := step desk visit List.mem_cons_self start admitted.1
      exact ih next admitted.2 fun desk later member =>
        step desk later (List.mem_cons_of_mem visit member)

theorem wellFormed_after {visit : Visit} (wellFormed : desk.store.tables.WellFormed)
    (received : desk.Receives visit) : (desk.after visit).store.tables.WellFormed := by
  rcases after_cases received with unchanged | ⟨plan, _, allowed, fresh, after⟩
  · rw [unchanged]
    exact wellFormed
  · rw [after]
    exact wellFormed.write allowed fresh _

/-- A loan that is stored after a visit was stored before, or is what the visit made of its loan. -/
theorem loan?_after_cases {visit : Visit} (wellFormed : desk.store.tables.WellFormed)
    (received : desk.Receives visit) {id : LoanId} {loan : Loan}
    (stored : (desk.after visit).store.tables.loan? id = some loan) :
    desk.store.tables.loan? id = some loan ∨
      ∃ plan, desk.Plans visit.occasion visit.request plan ∧
        desk.store.tables.obstacle? plan.mutation.change = none ∧ id = visit.loanId ∧
        plan.mutation.change.resulting (desk.store.signer.stampAt plan.mutation.time)
          (desk.store.tables.loan? visit.loanId) = some loan := by
  rcases after_cases received with unchanged | ⟨plan, plans, allowed, fresh, after⟩
  · rw [unchanged] at stored
    exact Or.inl stored
  · rw [after, written, wellFormed.loan?_write allowed fresh] at stored
    by_cases own : id = plan.mutation.change.loanId
    · right
      rw [if_pos own] at stored
      rw [plans.loanId_eq] at own
      subst own
      exact ⟨plan, plans, allowed, rfl, stored⟩
    · rw [if_neg own] at stored
      exact Or.inl stored

@[simp]
theorem after_config (desk : LoanDesk) (visit : Visit) :
    (desk.after visit).config = desk.config := by
  unfold after apply
  split <;> rfl

theorem new_eq_ok_iff {config : LoanConfig} {store : Store} :
    new config store = .ok desk ↔ config.check = .ok () ∧ desk = ⟨config, store⟩ := by
  rw [new, bind_eq_ok_iff]
  constructor
  · rintro ⟨⟨⟩, valid, same⟩
    cases same
    exact ⟨valid, rfl⟩
  · rintro ⟨valid, rfl⟩
    exact ⟨(), valid, rfl⟩

/-- A desk can be opened for the standard product. -/
theorem new_standard (store : Store) : new .standard store = .ok ⟨.standard, store⟩ :=
  new_eq_ok_iff.mpr ⟨by decide +kernel, rfl⟩

end LoanDesk

end LoanBook
