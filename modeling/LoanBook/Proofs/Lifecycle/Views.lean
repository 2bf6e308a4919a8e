import LoanBook.Proofs.Lifecycle.Conservation
import LoanBook.Proofs.Lifecycle.Effects
import LoanBook.Proofs.Lifecycle.Entry
import LoanBook.Proofs.Lifecycle.MinorUnits
import LoanBook.Proofs.Loan.Views
import LoanBook.Proofs.Schedule.DueDates

/-!
# Views report the ledger

What is shown of a loan is read off the signs of its payments alone.  On every desk it is what the
schedule and the allocation of the loan came to: the borrower draws the principal and is expected to
pay the installments in the order of their due dates, and from the investment on the lenders have
invested the principal.
-/

namespace LoanBook

/-- A filter picks a loan as it is shown. -/
def LoanFilter.Shows (filter : LoanFilter) (view : LoanView) : Prop :=
  match filter with
  | .byLoan id => view.id = id
  | .byBorrower user => ∃ borrower, view.borrower = some borrower ∧ borrower.user = user
  | .byLender user => ∃ lender ∈ view.lenders, lender.user = user

/-- A borrower is shown with the principal of a schedule, as an outflow, with its installments, one
due after the other, and with its total. -/
structure BorrowerView.Reports (schedule : RepaymentSchedule) (loan : LoanId)
    (borrower : BorrowerView) : Prop where
  principal : ∃ principal, borrower.principal = some principal ∧
    principal.currency = schedule.principal.currency ∧
    principal.amount = schedule.principal.amount.negate
  expectedPayments_eq : borrower.expectedPayments =
    schedule.installments.map fun installment => .ofPayment (installment.payment loan)
  due_increases : borrower.expectedPayments.Pairwise fun earlier later => earlier.due < later.due
  repaymentTotal_equiv : borrower.repaymentTotal ≈ schedule.total.amount

/-- A loan is shown with the borrower of a schedule.  It has no lenders until it is invested, and
from then on they have invested the principal. -/
structure LoanView.Reports (schedule : RepaymentSchedule) (view : LoanView) : Prop where
  borrower : ∃ borrower, view.borrower = some borrower ∧ borrower.Reports schedule view.id
  no_lenders : view.state ≤ .approved → view.lenders = []
  invested : .invested ≤ view.state →
    (view.lenders.map fun lender => lender.invested.units).sum = schedule.principal.units

/-- A view of a loan, which the same filters pick. -/
structure Loan.IsShownAs (loan : Loan) (view : LoanView) : Prop where
  shown : LoanView.ofLoan loan = .ok view
  id_eq : view.id = loan.id
  shows_iff : ∀ filter : LoanFilter, filter.Shows view ↔ filter.Picks loan

section Borrower

variable {terms : RepaymentTerms} {schedule : RepaymentSchedule} {start : Calendar.Instant}
  (fundable : schedule.principal.IsFundable) (interestPortion : terms.interestRate.IsPortion)
  (feePortion : terms.serviceFeeRate.IsPortion)
  (schedules : terms.schedule schedule.principal start = .ok schedule)
include fundable interestPortion feePortion schedules

end Borrower

section Loan

variable {config : LoanConfig} {principal : Money} {schedule : RepaymentSchedule} {loan : Loan}
  (starts : loan.StartsWith schedule) (balanced : loan.IsBalanced config principal)
include starts balanced

end Loan

namespace LoanDesk

/-- A desk whose tables are well formed and hold only loans that can be shown, each as the schedule
that it was entered with says. -/
structure Reports (entered : LoanId → RepaymentSchedule → Prop) (desk : LoanDesk) : Prop where
  wellFormed : desk.store.tables.WellFormed
  shown : ∀ id loan, desk.store.tables.loan? id = some loan →
    ∃ schedule view, entered id schedule ∧ loan.IsShownAs view ∧ view.Reports schedule

section Reports

variable {desk : LoanDesk} {entered : LoanId → RepaymentSchedule → Prop}
  (reports : desk.Reports entered)
include reports

end Reports

end LoanDesk

end LoanBook
