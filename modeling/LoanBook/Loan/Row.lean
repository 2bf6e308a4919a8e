import LoanBook.Loan.Basic

/-!
# Loans as rows

A loan can be laid out as joined rows, one for each payment, with the columns of its party and of
the loan repeated. A party without payments and a loan without parties still have one row.
`Loan.ofRows` puts loans together again: neighbouring rows with one loan identifier make one loan,
and within it neighbouring rows with one party identifier make one party. The first row of a loan
or a party decides its columns.
-/

namespace LoanBook

/-- The columns of a loan. -/
structure LoanRecord where
  id : LoanId
  state : LoanState
  approval : Option Approval
  disbursement : Option Disbursement
  created : Option Attestation
deriving DecidableEq

/-- The columns of a party. -/
structure PartyRecord where
  id : PartyId
  loan : LoanId
  user : UserId
  role : PartyRole
  created : Option Attestation
deriving DecidableEq

/-- A row of the join of loans, parties and payments. -/
structure LoanRow where
  loan : LoanRecord
  party : Option PartyRecord
  payment : Option Payment
deriving DecidableEq

namespace LoanRecord

def ofLoan (loan : Loan) : LoanRecord :=
  ⟨loan.id, loan.state, loan.approval, loan.disbursement, loan.created⟩

/-- The loan of some columns and parties. -/
def withParties (record : LoanRecord) (parties : List LoanParty) : Loan :=
  ⟨record.id, record.state, parties, record.approval, record.disbursement, record.created⟩

/-- The rows of a loan with its parties and their payments. -/
def rows (record : LoanRecord) : List (PartyRecord × List Payment) → List LoanRow
  | [] => [⟨record, none, none⟩]
  | parties => parties.flatMap fun entry =>
    match entry.2 with
    | [] => [⟨record, some entry.1, none⟩]
    | payments => payments.map fun payment => ⟨record, some entry.1, some payment⟩

end LoanRecord

namespace PartyRecord

def ofParty (loan : LoanId) (party : LoanParty) : PartyRecord :=
  ⟨party.id, loan, party.user, party.role, party.created⟩

/-- The party of some columns and payments. -/
def withPayments (record : PartyRecord) (payments : List Payment) : LoanParty :=
  ⟨record.id, record.user, record.role, payments, record.created⟩

end PartyRecord

/-- Puts a row before the parties of its loan: its payment joins the first party when that has the
same identifier. -/
def LoanRow.addTo (row : LoanRow) (parties : List LoanParty) : List LoanParty :=
  match row.party with
  | none => parties
  | some record =>
    match parties with
    | [] => [record.withPayments row.payment.toList]
    | party :: rest =>
      if party.id = record.id then
        record.withPayments (row.payment.toList ++ party.payments) :: rest
      else record.withPayments row.payment.toList :: party :: rest

namespace Loan

def toRows (loan : Loan) : List LoanRow :=
  (LoanRecord.ofLoan loan).rows
    (loan.parties.map fun party => (PartyRecord.ofParty loan.id party, party.payments))

def ofRows : List LoanRow → List Loan
  | [] => []
  | row :: rows =>
    match ofRows rows with
    | [] => [row.loan.withParties (row.addTo [])]
    | loan :: loans =>
      if loan.id = row.loan.id then row.loan.withParties (row.addTo loan.parties) :: loans
      else row.loan.withParties (row.addTo []) :: loan :: loans

end Loan

end LoanBook
