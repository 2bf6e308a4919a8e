import LoanBook.Proofs.Lifecycle.Order
import LoanBook.Proofs.Schedule.Conservation

/-!
# How loans are entered

Every stored loan was entered by one visit of the run, a proposal.  The visit made a schedule of the
principal, rounded, at the time that it came; the borrower of that schedule is the first party of
the loan and stays so.
-/

namespace LoanBook

namespace Loan

/-- The first party of a loan is the borrower of a schedule, with the payments of the schedule. -/
def StartsWith (schedule : RepaymentSchedule) (loan : Loan) : Prop :=
  ∃ user occasion stamp others, occasion.loanId = loan.id ∧
    loan.parties = (schedule.borrower user occasion).stamped stamp :: others

theorem StartsWith.continues {schedule : RepaymentSchedule} {earlier later : Loan}
    (starts : earlier.StartsWith schedule) (continues : earlier.Continues later) :
    later.StartsWith schedule := by
  obtain ⟨user, occasion, stamp, others, idEq, parties⟩ := starts
  obtain ⟨added, laterParties⟩ := continues.parties_prefix
  refine ⟨user, occasion, stamp, others ++ added, idEq.trans continues.id_eq.symm, ?_⟩
  rw [← laterParties, parties, List.cons_append]

end Loan

namespace LoanDesk

/-- The visit of a run that entered a loan proposed the principal of a schedule, rounded, and made
the schedule of it. -/
def EnteredAs (start : LoanDesk) (visits : List Visit) (id : LoanId)
    (schedule : RepaymentSchedule) : Prop :=
  ∃ before visit later request rounded, visits = before ++ visit :: later ∧
    visit.request = .propose request ∧ visit.loanId = id ∧
    (start.run before).store.tables.loan? id = none ∧
    ((start.run before).after visit).store.tables.loan? id ≠ none ∧
    request.principal.rounded = .ok rounded ∧ schedule.principal = rounded.value ∧
    (RepaymentTerms.ofConfig start.config).schedule rounded.value visit.occasion.now = .ok schedule

variable {start desk : LoanDesk}

theorem EnteredAs.append {visits : List Visit} {id : LoanId} {schedule : RepaymentSchedule}
    (entered : start.EnteredAs visits id schedule) (more : List Visit) :
    start.EnteredAs (visits ++ more) id schedule := by
  obtain ⟨before, visit, later, request, rounded, rfl, rest⟩ := entered
  exact ⟨before, visit, later ++ more, request, rounded, by simp, rest⟩

end LoanDesk

end LoanBook
