import LoanBook.Failure

/-!
# Loans

A loan has a state, parties with their payments, and the records of its approval and its
disbursement. A negative payment is owed or drawn by its party, any other is paid in. The
borrower is the first party of that role, and the principal is what the borrower drew first.
-/

namespace LoanBook

/-- The part that a party plays in a loan. -/
inductive PartyRole where
  | borrower
  | lender
deriving DecidableEq

namespace PartyRole

def word : PartyRole → String
  | borrower => "borrower"
  | lender => "lender"

def ofWord? (word : String) : Option PartyRole :=
  [borrower, lender].find? fun role => role.word == word

end PartyRole

/-- An entry of a party's ledger. -/
structure Payment where
  currency : String
  amount : Decimal
  due : Calendar.Instant
  details : String
  created : Option Attestation
deriving DecidableEq

namespace Payment

/-- The entry for a value of money, due at its time and not yet attested. -/
def ofMoney (money : Money) : Payment :=
  ⟨money.currency, money.amount, money.time, money.details, none⟩

def toMoney (payment : Payment) : Money :=
  ⟨payment.currency, payment.amount, payment.due, payment.details⟩

/-- Whether the entry is owed or drawn by its party. -/
def isOutflow (payment : Payment) : Bool :=
  payment.amount.isNegative

end Payment

/-- A user who takes part in a loan. -/
structure LoanParty where
  id : PartyId
  user : UserId
  role : PartyRole
  payments : List Payment
  created : Option Attestation
deriving DecidableEq

/-- Who approved a loan, and on which document. -/
structure Approval where
  approvedBy : UserId
  document : String
  attested : Option Attestation
deriving DecidableEq

/-- Who disbursed a loan, and on which contract. -/
structure Disbursement where
  disbursedBy : UserId
  contract : String
  attested : Option Attestation
deriving DecidableEq

/-- A loan with everything that belongs to it. -/
structure Loan where
  id : LoanId
  state : LoanState
  parties : List LoanParty
  approval : Option Approval
  disbursement : Option Disbursement
  created : Option Attestation
deriving DecidableEq

namespace LoanParty

/-- The attestations of a party and of its payments. -/
def attestations (party : LoanParty) : List Attestation :=
  party.created.toList ++ party.payments.filterMap Payment.created

end LoanParty

namespace Loan

/-- A new loan of a borrower. -/
def proposed (id : LoanId) (borrower : LoanParty) : Loan :=
  ⟨id, .proposed, [borrower], none, none, none⟩

def borrower? (loan : Loan) : Option LoanParty :=
  loan.parties.find? fun party => party.role = .borrower

def lenders (loan : Loan) : List LoanParty :=
  loan.parties.filter fun party => party.role = .lender

/-- What the borrower drew first, as a positive value. -/
def principal? (loan : Loan) : Option Money :=
  loan.borrower?.bind fun borrower =>
    (borrower.payments.find? Payment.isOutflow).map fun draw => draw.toMoney.negate

/-- What the borrower has to pay, in order. -/
def installments (loan : Loan) : List Payment :=
  match loan.borrower? with
  | some borrower => borrower.payments.filter fun payment => !payment.isOutflow
  | none => []

/-- Every attestation on a loan: its own, those of its sign-offs, then those of its parties. -/
def attestations (loan : Loan) : List Attestation :=
  loan.created.toList ++ (loan.approval.bind Approval.attested).toList ++
    (loan.disbursement.bind Disbursement.attested).toList ++
    loan.parties.flatMap LoanParty.attestations

end Loan

end LoanBook
