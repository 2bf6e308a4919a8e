import LoanBook.Wire.Scalar

/-!
# Loans as JSON

Attestations, payments, parties, sign-offs and loans are objects of their fields. What may be
missing from the value is null in the object, and may be left out of it.
-/

namespace LoanBook

namespace Attestation

/-- An attestation as an object, with its seal in base64. -/
def toJson (attestation : Attestation) : Json :=
  .record [("timestamp", .int attestation.timestamp.toInt),
    ("seal", .text (Text.Base64.encode attestation.sealBytes))]

/-- Reads bytes in base64. -/
def bytesOfJson? (document : Json) : Option (List UInt8) :=
  document.asText?.bind fun text => (Text.Base64.decode text).toOption

def ofJson? (document : Json) : Option Attestation := do
  match ← document.fields? [.needed "timestamp", .needed "seal"] with
  | [some timestamp, some sealText] =>
    let timestamp ← timestamp.asInt64?
    let sealBytes ← bytesOfJson? sealText
    return ⟨timestamp, sealBytes⟩
  | _ => none

end Attestation

namespace Payment

def toJson (payment : Payment) : Json :=
  .record [("iso4217", .text payment.currency), ("amount", payment.amount.toJson),
    ("due", payment.due.toJson), ("details", .text payment.details),
    ("created", .nullable Attestation.toJson payment.created)]

def jsonFields : List Json.Field :=
  [.needed "iso4217", .needed "amount", .needed "due", .needed "details", .optional "created"]

def ofJson? (document : Json) : Option Payment := do
  match ← document.fields? jsonFields with
  | [some currency, some amount, some due, some details, some created] =>
    let currency ← currency.asText?
    let amount ← Decimal.ofJson? amount
    let due ← Calendar.Instant.ofJson? due
    let details ← details.asText?
    let created ← Json.asNullable? Attestation.ofJson? created
    return ⟨currency, amount, due, details, created⟩
  | _ => none

end Payment

namespace LoanParty

def toJson (party : LoanParty) : Json :=
  .record [("party_id", party.id.toJson), ("user_id", party.user.toJson),
    ("role", party.role.toJson), ("payments", .list Payment.toJson party.payments),
    ("created", .nullable Attestation.toJson party.created)]

def jsonFields : List Json.Field :=
  [.needed "party_id", .needed "user_id", .needed "role", .needed "payments", .optional "created"]

def ofJson? (document : Json) : Option LoanParty := do
  match ← document.fields? jsonFields with
  | [some id, some user, some role, some payments, some created] =>
    let id ← Identifier.ofJson? id
    let user ← UserId.ofJson? user
    let role ← PartyRole.ofJson? role
    let payments ← Json.asList? Payment.ofJson? payments
    let created ← Json.asNullable? Attestation.ofJson? created
    return ⟨id, user, role, payments, created⟩
  | _ => none

end LoanParty

namespace Approval

def toJson (approval : Approval) : Json :=
  .record [("approved_by", approval.approvedBy.toJson), ("document", .text approval.document),
    ("attested", .nullable Attestation.toJson approval.attested)]

def ofJson? (document : Json) : Option Approval := do
  match ← document.fields? [.needed "approved_by", .needed "document", .optional "attested"] with
  | [some approvedBy, some text, some attested] =>
    let approvedBy ← UserId.ofJson? approvedBy
    let text ← text.asText?
    let attested ← Json.asNullable? Attestation.ofJson? attested
    return ⟨approvedBy, text, attested⟩
  | _ => none

end Approval

namespace Disbursement

def toJson (disbursement : Disbursement) : Json :=
  .record [("disbursed_by", disbursement.disbursedBy.toJson),
    ("contract", .text disbursement.contract),
    ("attested", .nullable Attestation.toJson disbursement.attested)]

def ofJson? (document : Json) : Option Disbursement := do
  match ← document.fields? [.needed "disbursed_by", .needed "contract", .optional "attested"] with
  | [some disbursedBy, some contract, some attested] =>
    let disbursedBy ← UserId.ofJson? disbursedBy
    let contract ← contract.asText?
    let attested ← Json.asNullable? Attestation.ofJson? attested
    return ⟨disbursedBy, contract, attested⟩
  | _ => none

end Disbursement

namespace Loan

def toJson (loan : Loan) : Json :=
  .record [("loan_id", loan.id.toJson), ("state", loan.state.toJson),
    ("parties", .list LoanParty.toJson loan.parties),
    ("approval", .nullable Approval.toJson loan.approval),
    ("disbursement", .nullable Disbursement.toJson loan.disbursement),
    ("created", .nullable Attestation.toJson loan.created)]

def jsonFields : List Json.Field :=
  [.needed "loan_id", .needed "state", .needed "parties", .optional "approval",
    .optional "disbursement", .optional "created"]

def ofJson? (document : Json) : Option Loan := do
  match ← document.fields? jsonFields with
  | [some id, some state, some parties, some approval, some disbursement, some created] =>
    let id ← Identifier.ofJson? id
    let state ← LoanState.ofJson? state
    let parties ← Json.asList? LoanParty.ofJson? parties
    let approval ← Json.asNullable? Approval.ofJson? approval
    let disbursement ← Json.asNullable? Disbursement.ofJson? disbursement
    let created ← Json.asNullable? Attestation.ofJson? created
    return ⟨id, state, parties, approval, disbursement, created⟩
  | _ => none

end Loan

end LoanBook
