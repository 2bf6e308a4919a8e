import LoanBook.Loan.Basic

/-!
# Writes to the store

A mutation moves one loan into a state at some time. It applies only when the loan is in the state
before, or, for a proposal, when there is no such loan.
-/

namespace LoanBook

/-- What a mutation writes. -/
inductive LoanChange where
  | propose (loan : Loan)
  | approve (loan : LoanId) (approvedBy : UserId) (document : String)
  | invest (loan : LoanId) (lenders : List LoanParty)
  | disburse (loan : LoanId) (disbursedBy : UserId) (contract : String)
deriving DecidableEq

/-- A change of one loan, at some time. -/
structure LoanMutation where
  change : LoanChange
  time : Calendar.Instant
deriving DecidableEq

namespace LoanChange

def loanId : LoanChange → LoanId
  | propose loan => loan.id
  | approve loan _ _ => loan
  | invest loan _ => loan
  | disburse loan _ _ => loan

def target : LoanChange → LoanState
  | propose _ => .proposed
  | approve _ _ _ => .approved
  | invest _ _ => .invested
  | disburse _ _ _ => .disbursed

/-- The state that the loan must be in; none when there must not be such a loan. -/
def required? (change : LoanChange) : Option LoanState :=
  change.target.predecessor

end LoanChange

end LoanBook
