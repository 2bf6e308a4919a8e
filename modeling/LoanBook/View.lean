import LoanBook.Loan.Basic

/-!
# Views of loans

What is shown of a loan: the borrower with the principal and the payments expected, the lenders
with what they invested, and who signed off. The sums of payments are taken for granted.
-/

namespace LoanBook

open Calendar (Instant)

/-- A payment as it is shown. -/
structure PaymentView where
  currency : String
  amount : Decimal
  due : Instant
  details : String
deriving DecidableEq

/-- A borrower as it is shown. -/
structure BorrowerView where
  user : UserId
  principal : Option PaymentView
  expectedPayments : List PaymentView
  repaymentTotal : Decimal
deriving DecidableEq

/-- A lender as it is shown. -/
structure LenderView where
  user : UserId
  invested : Decimal
  payments : List PaymentView
deriving DecidableEq

/-- Who signed off a step, on which document, and when. -/
structure SignoffView where
  signedBy : UserId
  document : String
  time : Option Instant
deriving DecidableEq

/-- A loan as it is shown. -/
structure LoanView where
  id : LoanId
  state : LoanState
  createdAt : Option Instant
  borrower : Option BorrowerView
  lenders : List LenderView
  approval : Option SignoffView
  disbursement : Option SignoffView
deriving DecidableEq

def PaymentView.ofPayment (payment : Payment) : PaymentView :=
  ⟨payment.currency, payment.amount, payment.due, payment.details⟩

/-- The sum of amounts from zero, taken for granted at every step. -/
def totalAmount (payments : List Payment) : Except Failure Decimal :=
  payments.foldlM (fun total payment => granted (total.add? payment.amount)) Decimal.zero

/-- A borrower as it is shown: the first outflow is the principal, every payment that is no
outflow is expected. -/
def BorrowerView.ofParty (party : LoanParty) : Except Failure BorrowerView := do
  let expected := party.payments.filter fun payment => !payment.isOutflow
  let total ← totalAmount expected
  return {
    user := party.user
    principal := (party.payments.find? Payment.isOutflow).map PaymentView.ofPayment
    expectedPayments := expected.map PaymentView.ofPayment
    repaymentTotal := total }

/-- A lender as it is shown: every payment that is no outflow was invested. -/
def LenderView.ofParty (party : LoanParty) : Except Failure LenderView := do
  let invested ← totalAmount (party.payments.filter fun payment => !payment.isOutflow)
  return ⟨party.user, invested, party.payments.map PaymentView.ofPayment⟩

def LoanView.ofLoan (loan : Loan) : Except Failure LoanView := do
  let borrower ← loan.borrower?.mapM BorrowerView.ofParty
  let lenders ← loan.lenders.mapM LenderView.ofParty
  return {
    id := loan.id
    state := loan.state
    createdAt := loan.created.bind Attestation.instant?
    borrower
    lenders
    approval := loan.approval.map fun approval =>
      ⟨approval.approvedBy, approval.document, approval.attested.bind Attestation.instant?⟩
    disbursement := loan.disbursement.map fun disbursement =>
      ⟨disbursement.disbursedBy, disbursement.contract,
        disbursement.attested.bind Attestation.instant?⟩ }

end LoanBook
