import LoanBook.Loan.Row
import LoanBook.Store.Mutation

/-!
# The store of loans

Loans are kept in three tables, as a relational store would keep them: loans, parties by loan, and
payments by party. Every row that is written gets the stamp of the store's signer. A query joins
the tables, puts the loans together from the rows, and checks every attestation on them. A
mutation checks the state of its loan, writes, and reads the loan back.
-/

namespace LoanBook

/-- The rows of the store, each table in the order of writing. -/
structure Tables where
  loans : List LoanRecord
  parties : List PartyRecord
  payments : List (PartyId × Payment)
deriving DecidableEq

/-- Which loans to read. -/
inductive LoanFilter where
  | byLoan (loan : LoanId)
  | byBorrower (user : UserId)
  | byLender (user : UserId)
deriving DecidableEq

namespace Tables

def empty : Tables := ⟨[], [], []⟩

def find? (tables : Tables) (loan : LoanId) : Option LoanRecord :=
  tables.loans.find? fun record => record.id = loan

/-- Whether a user is a party to a loan in some role. -/
def hasParty (tables : Tables) (loan : LoanId) (role : PartyRole) (user : UserId) : Bool :=
  tables.parties.any fun party => party.loan = loan ∧ party.role = role ∧ party.user = user

/-- Whether a filter picks a loan. -/
def picks (tables : Tables) (filter : LoanFilter) (record : LoanRecord) : Bool :=
  match filter with
  | .byLoan loan => record.id = loan
  | .byBorrower user => tables.hasParty record.id .borrower user
  | .byLender user => tables.hasParty record.id .lender user

/-- The parties to a loan, each with its payments. -/
def partiesOf (tables : Tables) (loan : LoanId) : List (PartyRecord × List Payment) :=
  (tables.parties.filter fun party => party.loan = loan).map fun party =>
    (party, (tables.payments.filter fun entry => entry.1 = party.id).map Prod.snd)

/-- The joined rows of the loans that a filter picks, ordered by loan identifier and then as
written. -/
def join (tables : Tables) (filter : LoanFilter) : List LoanRow :=
  ((tables.loans.filter (tables.picks filter)).mergeSort fun left right => left.id ≤ right.id).flatMap
    fun record => record.rows (tables.partiesOf record.id)

/-- Writes parties to a loan and their payments, all with one stamp. -/
def insertParties (tables : Tables) (loan : LoanId) (parties : List LoanParty)
    (stamp : Attestation) : Tables :=
  { tables with
    parties := tables.parties ++ parties.map fun party =>
      { PartyRecord.ofParty loan party with created := some stamp }
    payments := tables.payments ++ parties.flatMap fun party =>
      party.payments.map fun payment => (party.id, { payment with created := some stamp }) }

/-- Changes the row of a loan. -/
def updateLoan (tables : Tables) (loan : LoanId) (update : LoanRecord → LoanRecord) : Tables :=
  { tables with
    loans := tables.loans.map fun record => if record.id = loan then update record else record }

/-- Writes a change with a stamp. -/
def write (tables : Tables) (stamp : Attestation) : LoanChange → Tables
  | .propose loan =>
    let record := { LoanRecord.ofLoan loan with state := .proposed, created := some stamp }
    { tables with loans := tables.loans ++ [record] }.insertParties loan.id loan.parties stamp
  | .approve loan approvedBy document =>
    tables.updateLoan loan fun record =>
      { record with state := .approved, approval := some ⟨approvedBy, document, some stamp⟩ }
  | .invest loan lenders =>
    (tables.updateLoan loan fun record => { record with state := .invested }).insertParties loan
      lenders stamp
  | .disburse loan disbursedBy contract =>
    tables.updateLoan loan fun record =>
      { record with
        state := .disbursed
        disbursement := some ⟨disbursedBy, contract, some stamp⟩ }

/-- Why a change may not be written now, if there is a reason. -/
def obstacle? (tables : Tables) (change : LoanChange) : Option LoanError :=
  match tables.find? change.loanId, change.required? with
  | some _, none => some (.storage (.alreadyExists change.loanId))
  | none, some _ => some (.loanNotFound change.loanId)
  | some stored, some required =>
    if stored.state = required then none else some (.stateConflict change.loanId required)
  | none, none => none

end Tables

/-- The tables together with the signer that stamps their rows. -/
structure Store where
  signer : AuditSigner
  tables : Tables

namespace Store

def empty (signer : AuditSigner) : Store := ⟨signer, .empty⟩

/-- Checks an attestation under the key of the store. -/
def checkAttestation (store : Store) (attestation : Attestation) : Except Failure Unit :=
  match store.signer.check attestation with
  | .ok () => .ok ()
  | .error fault => reject (.invalidSignature fault)

/-- Checks every attestation on a loan; equal ones are checked once. -/
def checkLoan (store : Store) (loan : Loan) : Except Failure Unit :=
  loan.attestations.eraseDups.forM store.checkAttestation

/-- The loans that a filter picks. -/
def query (store : Store) (filter : LoanFilter) : Except Failure (List Loan) := do
  let loans := Loan.ofRows (store.tables.join filter)
  loans.forM store.checkLoan
  return loans

def load (store : Store) (loan : LoanId) : Except Failure Loan := do
  match ← store.query (.byLoan loan) with
  | found :: _ => return found
  | [] => reject (.loanNotFound loan)

/-- Applies a mutation: the store after it, and the loan as it is read back. What is written stays
written when reading back fails. -/
def mutate (store : Store) (mutation : LoanMutation) : Store × Except Failure Loan :=
  match store.tables.obstacle? mutation.change with
  | some error => (store, reject error)
  | none =>
    let stamp := store.signer.stampAt mutation.time
    let written := { store with tables := store.tables.write stamp mutation.change }
    (written, written.load mutation.change.loanId)

end Store

end LoanBook
