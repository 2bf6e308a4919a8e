import LoanBook.Json.Printer
import LoanBook.Json.Reader
import LoanBook.Request
import LoanBook.Wire.Money

/-!
# Requests as JSON

A request is an object whose only member is named by the state that the loan moves into.
-/

namespace LoanBook

namespace ProposeRequest

def toJson (request : ProposeRequest) : Json :=
  .record [("borrower_id", request.borrower.toJson), ("principal", request.principal.toJson)]

def ofJson? (document : Json) : Option ProposeRequest := do
  match ← document.fields? [.needed "borrower_id", .needed "principal"] with
  | [some borrower, some principal] =>
    let borrower ← UserId.ofJson? borrower
    let principal ← Money.ofJson? principal
    return ⟨borrower, principal⟩
  | _ => none

end ProposeRequest

namespace ApproveRequest

def toJson (request : ApproveRequest) : Json :=
  .record [("loan_id", request.loan.toJson), ("approved_by", request.approvedBy.toJson),
    ("document", .text request.document)]

def ofJson? (document : Json) : Option ApproveRequest := do
  match ← document.fields? [.needed "loan_id", .needed "approved_by", .needed "document"] with
  | [some loan, some approvedBy, some text] =>
    let loan ← Identifier.ofJson? loan
    let approvedBy ← UserId.ofJson? approvedBy
    let text ← text.asText?
    return ⟨loan, approvedBy, text⟩
  | _ => none

end ApproveRequest

namespace InvestRequest

def toJson (request : InvestRequest) : Json :=
  .record [("loan_id", request.loan.toJson), ("offers", .list LenderOffer.toJson request.offers)]

def ofJson? (document : Json) : Option InvestRequest := do
  match ← document.fields? [.needed "loan_id", .needed "offers"] with
  | [some loan, some offers] =>
    let loan ← Identifier.ofJson? loan
    let offers ← Json.asList? LenderOffer.ofJson? offers
    return ⟨loan, offers⟩
  | _ => none

end InvestRequest

namespace DisburseRequest

def toJson (request : DisburseRequest) : Json :=
  .record [("loan_id", request.loan.toJson), ("disbursed_by", request.disbursedBy.toJson),
    ("contract", .text request.contract)]

def ofJson? (document : Json) : Option DisburseRequest := do
  match ← document.fields? [.needed "loan_id", .needed "disbursed_by", .needed "contract"] with
  | [some loan, some disbursedBy, some contract] =>
    let loan ← Identifier.ofJson? loan
    let disbursedBy ← UserId.ofJson? disbursedBy
    let contract ← contract.asText?
    return ⟨loan, disbursedBy, contract⟩
  | _ => none

end DisburseRequest

namespace TransitionRequest

def toJson : TransitionRequest → Json
  | propose request => .record [("proposed", request.toJson)]
  | approve request => .record [("approved", request.toJson)]
  | invest request => .record [("invested", request.toJson)]
  | disburse request => .record [("disbursed", request.toJson)]

def ofJson? (document : Json) : Option TransitionRequest := do
  match ← document.asChoice? with
  | ("proposed", contents) => (ProposeRequest.ofJson? contents).map propose
  | ("approved", contents) => (ApproveRequest.ofJson? contents).map approve
  | ("invested", contents) => (InvestRequest.ofJson? contents).map invest
  | ("disbursed", contents) => (DisburseRequest.ofJson? contents).map disburse
  | _ => none

def toText (request : TransitionRequest) : String := request.toJson.compact

def ofText? (text : String) : Option TransitionRequest := (Json.read? text).bind ofJson?

end TransitionRequest

end LoanBook
