import LoanBook.Proofs.Money.Exact
import LoanBook.View

/-!
# What a loan is shown as

A borrower is shown with the first outflow as the principal and with all that is no outflow as
expected; a lender with all that is no outflow as invested.  So the signs of payments alone decide
what is shown.  The sums of a view are the sums that money is added up to, taken for granted.
-/

namespace LoanBook

theorem Payment.isOutflow_iff {payment : Payment} :
    payment.isOutflow = true ↔ payment.amount.units < 0 := by
  rw [isOutflow, Decimal.isNegative, decide_eq_true_eq, Decimal.lt_def, Decimal.units_zero]

theorem Loan.borrower?_of_parties {loan : Loan} {borrower : LoanParty} {others : List LoanParty}
    (parties : loan.parties = borrower :: others) (borrows : borrower.role = .borrower) :
    loan.borrower? = some borrower := by
  rw [borrower?, parties, List.find?_cons_of_pos (by simpa using borrows)]

end LoanBook
