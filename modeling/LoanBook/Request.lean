import LoanBook.Allocation
import LoanBook.Text.Blank

/-!
# Requests

The requests that move a loan from state to state, with the checks that need no stored loan. A
text that must be there holds more than white space; amounts are positive, also after rounding,
and all offers of a request are in one currency.
-/

namespace LoanBook

/-- Asks for a loan. -/
structure ProposeRequest where
  borrower : UserId
  principal : Money
deriving DecidableEq

/-- Approves a loan on a document. -/
structure ApproveRequest where
  loan : LoanId
  approvedBy : UserId
  document : String
deriving DecidableEq

/-- Offers money for a loan. -/
structure InvestRequest where
  loan : LoanId
  offers : List LenderOffer
deriving DecidableEq

/-- Disburses a loan on a contract. -/
structure DisburseRequest where
  loan : LoanId
  disbursedBy : UserId
  contract : String
deriving DecidableEq

/-- A request to move a loan into one of the states. -/
inductive TransitionRequest where
  | propose (request : ProposeRequest)
  | approve (request : ApproveRequest)
  | invest (request : InvestRequest)
  | disburse (request : DisburseRequest)
deriving DecidableEq

/-- Checks that a text is not blank. -/
def requireText (value : String) (field : RequiredField) : Except Failure Unit :=
  if Text.allBlank value then rejectIssue (.missing field) else .ok ()

def ProposeRequest.check (request : ProposeRequest) : Except Failure Unit := do
  requireText request.borrower.name .borrower
  let _ ← request.principal.precision
  if request.principal.amount.isPositive then .ok ()
  else rejectIssue (.principalNotPositive request.principal)

def ApproveRequest.check (request : ApproveRequest) : Except Failure Unit := do
  requireText request.approvedBy.name .approver
  requireText request.document .document

def DisburseRequest.check (request : DisburseRequest) : Except Failure Unit := do
  requireText request.disbursedBy.name .disburser
  requireText request.contract .contract

namespace LenderOffer

/-- Checks an offer among offers in some currency. -/
def check (currency : String) (offer : LenderOffer) : Except Failure Unit := do
  requireText offer.lender.name .lender
  let _ ← offer.payment.precision
  if offer.payment.amount.isPositive then
    if offer.payment.currency = currency then .ok ()
    else reject (.currencyMismatch currency offer.payment.currency)
  else rejectIssue (.offerNotPositive offer.lender offer.payment)

/-- Rounds an offer, with a notice when that changed it. -/
def rounded (offer : LenderOffer) : Except Failure (LenderOffer × Option PrecisionMismatch) := do
  let rounded ← offer.payment.rounded
  if rounded.value.amount.isPositive then
    return ({ offer with payment := rounded.value }, rounded.mismatch)
  else rejectIssue (.offerVanishes offer.lender offer.payment.amount)

end LenderOffer

namespace InvestRequest

/-- Checks that there are offers, each with a lender and a positive amount in a known currency,
the same one for all. -/
def check (request : InvestRequest) : Except Failure Unit :=
  match request.offers with
  | [] => rejectIssue .noOffers
  | first :: _ => request.offers.forM (LenderOffer.check first.payment.currency)

/-- The offers rounded, with the notices for those that changed. -/
def roundedOffers (request : InvestRequest) :
    Except Failure (List LenderOffer × List PrecisionMismatch) := do
  let rounded ← request.offers.mapM LenderOffer.rounded
  return (rounded.map Prod.fst, rounded.filterMap Prod.snd)

end InvestRequest

def TransitionRequest.check : TransitionRequest → Except Failure Unit
  | .propose request => request.check
  | .approve request => request.check
  | .invest request => request.check
  | .disburse request => request.check

end LoanBook
