import LoanBook.Json.Printer
import LoanBook.View
import LoanBook.Wire.Scalar

/-!
# Views as JSON
-/

namespace LoanBook

namespace PaymentView

def toJson (view : PaymentView) : Json :=
  .record [("iso4217", .text view.currency), ("amount", view.amount.toJson),
    ("due", view.due.toJson), ("details", .text view.details)]

def ofJson? (document : Json) : Option PaymentView := do
  match ← document.fields? [.needed "iso4217", .needed "amount", .needed "due", .needed "details"] with
  | [some currency, some amount, some due, some details] =>
    let currency ← currency.asText?
    let amount ← Decimal.ofJson? amount
    let due ← Calendar.Instant.ofJson? due
    let details ← details.asText?
    return ⟨currency, amount, due, details⟩
  | _ => none

end PaymentView

namespace BorrowerView

def toJson (view : BorrowerView) : Json :=
  .record [("user_id", view.user.toJson),
    ("principal", .nullable PaymentView.toJson view.principal),
    ("expected_payments", .list PaymentView.toJson view.expectedPayments),
    ("repayment_total", view.repaymentTotal.toJson)]

def jsonFields : List Json.Field :=
  [.needed "user_id", .optional "principal", .needed "expected_payments", .needed "repayment_total"]

def ofJson? (document : Json) : Option BorrowerView := do
  match ← document.fields? jsonFields with
  | [some user, some principal, some expected, some total] =>
    let user ← UserId.ofJson? user
    let principal ← Json.asNullable? PaymentView.ofJson? principal
    let expected ← Json.asList? PaymentView.ofJson? expected
    let total ← Decimal.ofJson? total
    return ⟨user, principal, expected, total⟩
  | _ => none

end BorrowerView

namespace LenderView

def toJson (view : LenderView) : Json :=
  .record [("user_id", view.user.toJson), ("invested", view.invested.toJson),
    ("payments", .list PaymentView.toJson view.payments)]

def ofJson? (document : Json) : Option LenderView := do
  match ← document.fields? [.needed "user_id", .needed "invested", .needed "payments"] with
  | [some user, some invested, some payments] =>
    let user ← UserId.ofJson? user
    let invested ← Decimal.ofJson? invested
    let payments ← Json.asList? PaymentView.ofJson? payments
    return ⟨user, invested, payments⟩
  | _ => none

end LenderView

namespace SignoffView

def toJson (view : SignoffView) : Json :=
  .record [("by", view.signedBy.toJson), ("document", .text view.document),
    ("at", .nullable Calendar.Instant.toJson view.time)]

def ofJson? (document : Json) : Option SignoffView := do
  match ← document.fields? [.needed "by", .needed "document", .optional "at"] with
  | [some signedBy, some text, some time] =>
    let signedBy ← UserId.ofJson? signedBy
    let text ← text.asText?
    let time ← Json.asNullable? Calendar.Instant.ofJson? time
    return ⟨signedBy, text, time⟩
  | _ => none

end SignoffView

namespace LoanView

def toJson (view : LoanView) : Json :=
  .record [("loan_id", view.id.toJson), ("state", view.state.toJson),
    ("created_at", .nullable Calendar.Instant.toJson view.createdAt),
    ("borrower", .nullable BorrowerView.toJson view.borrower),
    ("lenders", .list LenderView.toJson view.lenders),
    ("approval", .nullable SignoffView.toJson view.approval),
    ("disbursement", .nullable SignoffView.toJson view.disbursement)]

def jsonFields : List Json.Field :=
  [.needed "loan_id", .needed "state", .optional "created_at", .optional "borrower",
    .needed "lenders", .optional "approval", .optional "disbursement"]

def ofJson? (document : Json) : Option LoanView := do
  match ← document.fields? jsonFields with
  | [some id, some state, some createdAt, some borrower, some lenders, some approval,
      some disbursement] =>
    let id ← Identifier.ofJson? id
    let state ← LoanState.ofJson? state
    let createdAt ← Json.asNullable? Calendar.Instant.ofJson? createdAt
    let borrower ← Json.asNullable? BorrowerView.ofJson? borrower
    let lenders ← Json.asList? LenderView.ofJson? lenders
    let approval ← Json.asNullable? SignoffView.ofJson? approval
    let disbursement ← Json.asNullable? SignoffView.ofJson? disbursement
    return ⟨id, state, createdAt, borrower, lenders, approval, disbursement⟩
  | _ => none

def toPrettyText (view : LoanView) : String := view.toJson.pretty

end LoanView

end LoanBook
