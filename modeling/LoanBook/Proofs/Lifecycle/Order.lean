import LoanBook.Proofs.Lifecycle.History
import LoanBook.Proofs.Lifecycle.Run

/-!
# The order of a loan's life

On a desk whose signer recognises its own stamps, every loan goes through its states one step at a
time and nothing written about it changes.  No loan is moved into the same state twice.
-/

namespace LoanBook

namespace LoanDesk

/-- The loan stored under an identifier, as it is read. -/
def stored? (desk : LoanDesk) (id : LoanId) : Option Loan :=
  (desk.store.load id).toOption

/-- The number of visits of a run that succeed in moving a loan into a state. -/
def successes (target : LoanState) (id : LoanId) : LoanDesk → List Visit → Nat
  | _, [] => 0
  | desk, visit :: visits =>
    (if visit.request.target = target ∧ visit.loanId = id ∧ (desk.answer visit).isOk then 1
      else 0) + successes target id (desk.after visit) visits

/-- The desk stamps with a signer, its tables are well formed, and all loans in them are attested by
the signer. -/
structure IsAttestedBy (signer : AuditSigner) (desk : LoanDesk) : Prop where
  signer_eq : desk.store.signer = signer
  wellFormed : desk.store.tables.WellFormed
  attested : ∀ id loan, desk.store.tables.loan? id = some loan → loan.IsAttestedBy signer

variable {signer : AuditSigner} {desk : LoanDesk}

theorem isAttestedBy_new {config : LoanConfig} (opened : new config (.empty signer) = .ok desk) :
    desk.IsAttestedBy signer := by
  obtain ⟨_, rfl⟩ := new_eq_ok_iff.mp opened
  constructor
  · rfl
  · exact Tables.wellFormed_empty
  · intro id loan found
    have none : Tables.empty.loan? id = none := Tables.loan?_empty id
    cases none.symm.trans found

/-- A change in its turn that is written leaves its loan in the target, one step on. -/
theorem written_loan? {mutation : LoanMutation} (wellFormed : desk.store.tables.WellFormed)
    (allowed : desk.store.tables.obstacle? mutation.change = none)
    (fresh : desk.store.tables.IsFresh mutation.change) :
    ∃ loan, (desk.written mutation).store.tables.loan? mutation.change.loanId = some loan ∧
      mutation.change.resulting (desk.store.signer.stampAt mutation.time)
        (desk.store.tables.loan? mutation.change.loanId) = some loan ∧
      loan.state = mutation.change.target ∧
      LoanStep (desk.store.tables.loan? mutation.change.loanId) (some loan) := by
  have found := wellFormed.loan?_write allowed fresh (desk.store.signer.stampAt mutation.time)
    mutation.change.loanId
  have turn := Tables.obstacle?_eq_none_iff.mp allowed
  obtain ⟨loan, results, state, step⟩ :=
    @LoanChange.resulting_step _ (desk.store.signer.stampAt mutation.time) _ turn
  rw [if_pos rfl, results] at found
  exact ⟨loan, found, results, state, step⟩

theorem written_loan?_of_ne {mutation : LoanMutation} (wellFormed : desk.store.tables.WellFormed)
    (allowed : desk.store.tables.obstacle? mutation.change = none)
    (fresh : desk.store.tables.IsFresh mutation.change) {id : LoanId}
    (other : id ≠ mutation.change.loanId) :
    (desk.written mutation).store.tables.loan? id = desk.store.tables.loan? id := by
  have found := wellFormed.loan?_write allowed fresh (desk.store.signer.stampAt mutation.time) id
  rw [if_neg other] at found
  exact found

section IsAttestedBy

variable (attested : desk.IsAttestedBy signer)
include attested

theorem IsAttestedBy.verified (sound : signer.IsSound) (id : LoanId) (loan : Loan)
    (stored : desk.store.tables.loan? id = some loan) :
    loan.VerifiesUnder desk.store.signer := by
  rw [attested.signer_eq]
  exact (attested.attested id loan stored).verifies sound

theorem IsAttestedBy.load_eq (sound : signer.IsSound) {id : LoanId} {loan : Loan}
    (found : desk.store.tables.loan? id = some loan) : desk.store.load id = .ok loan := by
  apply Store.load_of_verifies attested.wellFormed found
  rw [attested.signer_eq]
  exact (attested.attested id loan found).verifies sound

theorem IsAttestedBy.stored?_eq (sound : signer.IsSound) (id : LoanId) :
    desk.stored? id = desk.store.tables.loan? id := by
  unfold stored?
  cases found : desk.store.tables.loan? id with
  | none =>
      rw [Store.load_of_absent attested.wellFormed found]
      rfl
  | some loan =>
      rw [attested.load_eq sound found]
      rfl

theorem IsAttestedBy.written {visit : Visit} {plan : TransitionPlan}
    (plans : desk.Plans visit.occasion visit.request plan)
    (allowed : desk.store.tables.obstacle? plan.mutation.change = none)
    (fresh : desk.store.tables.IsFresh plan.mutation.change) :
    (desk.written plan.mutation).IsAttestedBy signer := by
  constructor
  · exact attested.signer_eq
  · exact attested.wellFormed.write allowed fresh _
  · intro id loan stored
    by_cases own : id = plan.mutation.change.loanId
    · subst own
      obtain ⟨left, leftFound, results, _⟩ := written_loan? attested.wellFormed allowed fresh
      rw [leftFound] at stored
      cases stored
      rw [attested.signer_eq] at results
      exact LoanChange.resulting_isAttested (Tables.obstacle?_eq_none_iff.mp allowed)
        (fun proposed proposes => plans.propose_unsigned proposes) (attested.attested _) results
    · rw [written_loan?_of_ne attested.wellFormed allowed fresh own] at stored
      exact attested.attested id loan stored

theorem IsAttestedBy.after {visit : Visit} (received : desk.Receives visit) :
    (desk.after visit).IsAttestedBy signer := by
  rcases after_cases received with unchanged | ⟨plan, plans, allowed, fresh, written⟩
  · rw [unchanged]
    exact attested
  · rw [written]
    exact attested.written plans allowed fresh

/-- A received visit moves each loan at most one step. -/
theorem IsAttestedBy.step {visit : Visit} (received : desk.Receives visit) (id : LoanId) :
    LoanStep (desk.store.tables.loan? id) ((desk.after visit).store.tables.loan? id) := by
  rcases after_cases received with unchanged | ⟨plan, plans, allowed, fresh, written⟩
  · rw [unchanged]
    exact .kept _
  · rw [written]
    by_cases own : id = plan.mutation.change.loanId
    · subst own
      obtain ⟨left, leftFound, _, _, step⟩ := written_loan? attested.wellFormed allowed fresh
      rw [leftFound]
      exact step
    · rw [written_loan?_of_ne attested.wellFormed allowed fresh own]
      exact .kept _

theorem IsAttestedBy.run {visits : List Visit} (admitted : desk.Admits visits) :
    (desk.run visits).IsAttestedBy signer :=
  run_preserves attested admitted fun _ _ _ attested received => attested.after received

/-- What is stored is continued by whatever is stored later. -/
theorem IsAttestedBy.continues {visits : List Visit} (admitted : desk.Admits visits) {id : LoanId}
    {earlier : Loan} (found : desk.store.tables.loan? id = some earlier) :
    ∃ later, (desk.run visits).store.tables.loan? id = some later ∧ earlier.Continues later := by
  induction visits generalizing desk earlier with
  | nil => exact ⟨earlier, found, .refl earlier⟩
  | cons visit visits ih =>
      have step := attested.step admitted.1 id
      rw [found] at step
      obtain ⟨middle, middleFound, start⟩ := step.exists_continues
      obtain ⟨later, laterFound, rest⟩ := ih (attested.after admitted.1) admitted.2 middleFound
      exact ⟨later, laterFound, start.trans rest⟩

/-- A visit that succeeds has written what it planned, and answers with the loan that this leaves. -/
theorem IsAttestedBy.exists_plan_of_success {visit : Visit} (received : desk.Receives visit)
    {outcome : TransitionOutcome} (succeeded : desk.answer visit = .ok outcome) :
    ∃ plan, desk.Plans visit.occasion visit.request plan ∧
      desk.store.tables.obstacle? plan.mutation.change = none ∧
      (desk.after visit).store.tables.loan? visit.loanId = some outcome.loan ∧
      plan.mutation.change.resulting (desk.store.signer.stampAt plan.mutation.time)
        (desk.store.tables.loan? visit.loanId) = some outcome.loan ∧
      outcome.loan.state = visit.request.target ∧ outcome.allocation = plan.allocation := by
  cases planned : desk.plan visit.occasion visit.request with
  | error failure =>
      rw [answer, apply_of_unplanned planned] at succeeded
      cases succeeded
  | ok plan =>
      have plans := plans_of_plan planned
      cases blocked : desk.store.tables.obstacle? plan.mutation.change with
      | some error =>
          rw [answer, apply_of_obstacle planned blocked] at succeeded
          cases succeeded
      | none =>
          have fresh := plans.isFresh received
          obtain ⟨loan, stored, results, state, _⟩ :=
            written_loan? attested.wellFormed blocked fresh
          rw [plans.target_eq] at state
          rw [answer, apply_of_allowed planned blocked] at succeeded
          rw [LoanDesk.after, apply_of_allowed planned blocked]
          cases loads : (desk.written plan.mutation).store.load plan.mutation.change.loanId with
          | error failure =>
              rw [loads] at succeeded
              cases succeeded
          | ok loaded =>
              have same := Store.loan?_of_load
                (attested.written plans blocked fresh).wellFormed loads
              rw [loads] at succeeded
              cases succeeded
              rw [stored] at same
              cases same
              rw [plans.loanId_eq] at stored results
              exact ⟨plan, plans, blocked, stored, results, state, rfl⟩

/-- A visit that succeeds finds its loan in the state before its target, or absent, and leaves it in
the target. -/
theorem IsAttestedBy.of_success {visit : Visit} (received : desk.Receives visit)
    {outcome : TransitionOutcome} (succeeded : desk.answer visit = .ok outcome) :
    (desk.store.tables.loan? visit.loanId).map Loan.state = visit.request.target.predecessor ∧
      (desk.after visit).store.tables.loan? visit.loanId = some outcome.loan ∧
        outcome.loan.state = visit.request.target := by
  obtain ⟨plan, plans, allowed, stored, _, state, _⟩ :=
    attested.exists_plan_of_success received succeeded
  have turn := Tables.obstacle?_eq_none_iff.mp allowed
  rw [LoanChange.required?, plans.target_eq, plans.loanId_eq] at turn
  exact ⟨turn, stored, state⟩

/-- Once a loan has come to a state, no visit succeeds in moving it there. -/
theorem IsAttestedBy.successes_eq_zero {visits : List Visit} (admitted : desk.Admits visits)
    {target : LoanState} {id : LoanId} {loan : Loan}
    (found : desk.store.tables.loan? id = some loan) (come : target ≤ loan.state) :
    successes target id desk visits = 0 := by
  induction visits generalizing desk loan with
  | nil => rfl
  | cons visit visits ih =>
      have step := attested.step admitted.1 id
      rw [found] at step
      obtain ⟨next, nextFound, continues⟩ := step.exists_continues
      have later := ih (attested.after admitted.1) admitted.2 nextFound
        (LoanState.le_trans come continues.state_le)
      rw [successes, later, if_neg]
      rintro ⟨targetEq, loanEq, succeeded⟩
      cases answered : desk.answer visit with
      | error failure => simp [answered, Except.isOk, Except.toBool] at succeeded
      | ok outcome =>
          obtain ⟨turn, _, _⟩ := attested.of_success admitted.1 answered
          rw [loanEq, found, targetEq, Option.map_some] at turn
          have rank := LoanState.rank_of_predecessor turn.symm
          rw [LoanState.le_def] at come
          omega

theorem IsAttestedBy.successes_le_one {visits : List Visit} (admitted : desk.Admits visits)
    (target : LoanState) (id : LoanId) : successes target id desk visits ≤ 1 := by
  induction visits generalizing desk with
  | nil => exact Nat.zero_le 1
  | cons visit visits ih =>
      rw [successes]
      have rest := ih (attested.after admitted.1) admitted.2
      by_cases succeeded : visit.request.target = target ∧ visit.loanId = id ∧
          (desk.answer visit).isOk
      · obtain ⟨targetEq, loanEq, answered⟩ := succeeded
        cases answer : desk.answer visit with
        | error failure => simp [answer, Except.isOk, Except.toBool] at answered
        | ok outcome =>
            obtain ⟨_, found, state⟩ := attested.of_success admitted.1 answer
            rw [loanEq] at found
            have none := (attested.after admitted.1).successes_eq_zero admitted.2 found
              (show target ≤ outcome.loan.state by rw [state, targetEq]; exact LoanState.le_refl _)
            rw [none]
            split <;> omega
      · rw [if_neg succeeded]
        omega

end IsAttestedBy

end LoanDesk

end LoanBook
