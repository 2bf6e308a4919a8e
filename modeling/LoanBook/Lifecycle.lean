import LoanBook.Request
import LoanBook.Store.Basic
import LoanBook.View

/-!
# The life of a loan

A `LoanDesk` takes requests under a configuration and writes to a store. A request is checked
first, then planned, and then written as one mutation, so a rejected request leaves the store as
it was. The moment and the new identifiers that a request may use come with it as an `Occasion`.
-/

namespace LoanBook

open Calendar (Instant)

/-- What a request finds: the time, and identifiers for a new loan and for new parties. -/
structure Occasion where
  now : Instant
  loanId : LoanId
  partyIds : Nat → PartyId

/-- What a request led to: the loan, the amounts that were rounded, and the offers used. -/
structure TransitionOutcome where
  loan : Loan
  warnings : List PrecisionMismatch
  allocation : Option Allocation
deriving DecidableEq

/-- A mutation to write, with what is to be told about it. -/
structure TransitionPlan where
  mutation : LoanMutation
  warnings : List PrecisionMismatch
  allocation : Option Allocation
deriving DecidableEq

/-- A configuration and a store. -/
structure LoanDesk where
  config : LoanConfig
  store : Store

namespace LoanDesk

/-- A desk with a valid configuration. -/
def new (config : LoanConfig) (store : Store) : Except Failure LoanDesk := do
  config.check
  return ⟨config, store⟩

/-- Plans a new loan: the principal is rounded, and its schedule becomes the payments of the
borrower. -/
def planPropose (desk : LoanDesk) (occasion : Occasion) (request : ProposeRequest) :
    Except Failure TransitionPlan := do
  request.check
  let rounded ← request.principal.rounded
  if rounded.value.amount.isPositive then
    let schedule ← (RepaymentTerms.ofConfig desk.config).schedule rounded.value occasion.now
    let borrower : LoanParty :=
      { id := occasion.partyIds 0
        user := request.borrower
        role := .borrower
        payments := schedule.borrowerPayments occasion.loanId occasion.now
        created := none }
    return ⟨⟨.propose (.proposed occasion.loanId borrower), occasion.now⟩,
      rounded.mismatch.toList, none⟩
  else rejectIssue (.principalVanishes request.principal.amount)

def planApprove (occasion : Occasion) (request : ApproveRequest) :
    Except Failure TransitionPlan := do
  request.check
  return ⟨⟨.approve request.loan request.approvedBy request.document, occasion.now⟩, [], none⟩

/-- Plans an investment: the offers are rounded and allocated against the principal of the stored
loan, and every offer used becomes a party. -/
def planInvest (desk : LoanDesk) (occasion : Occasion) (request : InvestRequest) :
    Except Failure TransitionPlan := do
  request.check
  let (offers, warnings) ← request.roundedOffers
  let stored ← desk.store.load request.loan
  if stored.state ≠ .approved then reject (.stateConflict request.loan .approved)
  else
    match stored.principal? with
    | none => reject (.storage (.noPrincipal request.loan))
    | some principal =>
      let allocation ←
        (AllocationTerms.ofConfig desk.config).allocate request.loan principal offers occasion.now
      return ⟨⟨.invest request.loan (allocation.lenderParties occasion.partyIds), occasion.now⟩,
        warnings, some allocation⟩

def planDisburse (occasion : Occasion) (request : DisburseRequest) :
    Except Failure TransitionPlan := do
  request.check
  return ⟨⟨.disburse request.loan request.disbursedBy request.contract, occasion.now⟩, [], none⟩

def plan (desk : LoanDesk) (occasion : Occasion) : TransitionRequest → Except Failure TransitionPlan
  | .propose request => desk.planPropose occasion request
  | .approve request => planApprove occasion request
  | .invest request => desk.planInvest occasion request
  | .disburse request => planDisburse occasion request

/-- Carries out a request: the desk after it, and what it led to. -/
def apply (desk : LoanDesk) (occasion : Occasion) (request : TransitionRequest) :
    LoanDesk × Except Failure TransitionOutcome :=
  match desk.plan occasion request with
  | .error failure => (desk, .error failure)
  | .ok plan =>
    let (store, result) := desk.store.mutate plan.mutation
    ({ desk with store }, result.map fun loan => ⟨loan, plan.warnings, plan.allocation⟩)

/-- The views of the loans that a filter picks. -/
def view (desk : LoanDesk) (filter : LoanFilter) : Except Failure (List LoanView) := do
  let loans ← desk.store.query filter
  loans.mapM LoanView.ofLoan

end LoanDesk

end LoanBook
