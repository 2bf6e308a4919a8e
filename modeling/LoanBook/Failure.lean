import LoanBook.Attestation
import LoanBook.Identifier
import LoanBook.LoanState
import LoanBook.Money.Basic
import LoanBook.Rate

/-!
# Failures

A `LoanError` is the cause for which a request is rejected. A `Failure` is a rejection or an
overflow: a decimal operation whose result is taken for granted had none. The words for an error
may themselves show a rate that overflows as a percentage; then the error has no words.
-/

namespace LoanBook

/-- A user, known to some other system by a name. -/
structure UserId where
  name : String
deriving DecidableEq

/-- A text that a request must not leave blank. -/
inductive RequiredField where
  | borrower
  | approver
  | document
  | disburser
  | contract
  | lender
deriving DecidableEq

def RequiredField.name : RequiredField → String
  | borrower => "borrower_id"
  | approver => "approved_by"
  | document => "document"
  | disburser => "disbursed_by"
  | contract => "contract"
  | lender => "lender_id"

/-- What is wrong with a request or with the amounts of one. -/
inductive ValidationIssue where
  | missing (field : RequiredField)
  | principalNotPositive (principal : Money)
  | principalVanishes (amount : Decimal)
  | noOffers
  | offerNotPositive (lender : UserId) (payment : Money)
  | offerVanishes (lender : UserId) (amount : Decimal)
  | sumOverflow
  | splitOverflow
  | dateOverflow (months : UInt32)
  | noRatio
  | splitMissed (offer : Decimal) (lender : UserId) (taken outstanding : Decimal)
deriving DecidableEq

def ValidationIssue.message : ValidationIssue → String
  | missing field => field.name ++ " is required"
  | principalNotPositive principal => "principal must be positive, got " ++ principal.display
  | principalVanishes amount => "principal " ++ amount.toText ++ " rounds to zero"
  | noOffers => "at least one lender offer is required"
  | offerNotPositive lender payment =>
    "offer from " ++ lender.name ++ " must be positive, got " ++ payment.display
  | offerVanishes lender amount =>
    "offer from " ++ lender.name ++ " rounds to zero, got " ++ amount.toText
  | sumOverflow => "amount overflow in sum"
  | splitOverflow => "amount overflow in take"
  | dateOverflow months => "date overflow adding " ++ toString months.toNat ++ " months"
  | noRatio => "offer amount is zero"
  | splitMissed offer lender taken outstanding =>
    "splitting offer " ++ offer.toText ++ " from " ++ lender.name ++ " took " ++ taken.toText ++
      " instead of " ++ outstanding.toText

/-- What is wrong with a configuration. Rates are kept as they are shown. -/
inductive ConfigurationFault where
  | unreadable
  | rateOutside (name shown : String)
  | noInstallments
  | minimumAboveHalf (shown : String)
deriving DecidableEq

def ConfigurationFault.message : ConfigurationFault → String
  | unreadable => "not a configuration"
  | rateOutside name shown => name ++ " " ++ shown ++ " outside [0, 1]"
  | noInstallments => "installment_count must be at least 1"
  | minimumAboveHalf shown => "min_investment_rate " ++ shown ++ " exceeds 50%"

/-- What is wrong with the stored loans. -/
inductive StorageFault where
  | alreadyExists (loan : LoanId)
  | noPrincipal (loan : LoanId)
deriving DecidableEq

def StorageFault.message : StorageFault → String
  | alreadyExists loan => "loan " ++ loan.toText ++ " already exists"
  | noPrincipal loan => "loan " ++ loan.toText ++ " has no principal draw"

/-- Why a request is rejected. -/
inductive LoanError where
  | validation (issue : ValidationIssue)
  | unknownCurrency (code : String)
  | invalidPortion (portion : Rate)
  | currencyMismatch (expected found : String)
  | precisionMismatch (mismatch : PrecisionMismatch)
  | stateConflict (loan : LoanId) (expected : LoanState)
  | loanNotFound (loan : LoanId)
  | coverage (missing : Money)
  | invalidSignature (fault : SignatureFault)
  | invalidIdentifier (kind : IdentifierKind) (fault : IdentifierFault)
  | invalidConfiguration (fault : ConfigurationFault)
  | storage (fault : StorageFault)
deriving DecidableEq

def LoanError.message? : LoanError → Option String
  | validation issue => some ("validation failed: " ++ issue.message)
  | unknownCurrency code => some ("unknown ISO 4217 currency code: " ++ code)
  | invalidPortion portion =>
    portion.display?.map fun shown =>
      "invalid portion " ++ shown ++ ": should be ranged between 0 and 1"
  | currencyMismatch expected found =>
    some ("currency mismatch: expected " ++ expected ++ ", found " ++ found)
  | precisionMismatch mismatch =>
    some ("precision mismatch for " ++ mismatch.currency ++ ": " ++ mismatch.raw.toText ++
      " rounded to " ++ mismatch.rounded.toText)
  | stateConflict loan expected =>
    some ("state conflict on loan " ++ loan.toText ++ ": expected " ++ expected.title)
  | loanNotFound loan => some ("loan not found: " ++ loan.toText)
  | coverage missing => some ("principal is not fully covered, missing " ++ missing.display)
  | invalidSignature fault => some ("invalid signature: " ++ fault.message)
  | invalidIdentifier kind fault =>
    some ("invalid identifier: " ++ kind.label ++ ": " ++ fault.message)
  | invalidConfiguration fault => some ("invalid configuration: " ++ fault.message)
  | storage fault => some ("storage failure: " ++ fault.message)

/-- A request is rejected, or a decimal operation that is taken for granted overflows. -/
inductive Failure where
  | rejected (error : LoanError)
  | overflow
deriving DecidableEq

def reject {α : Type} (error : LoanError) : Except Failure α :=
  .error (.rejected error)

/-- The rejection of a request with an issue. -/
def rejectIssue {α : Type} (issue : ValidationIssue) : Except Failure α :=
  reject (.validation issue)

/-- A result that is taken for granted. -/
def granted {α : Type} : Option α → Except Failure α
  | some value => .ok value
  | none => .error .overflow

end LoanBook
