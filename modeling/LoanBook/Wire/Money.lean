import LoanBook.Allocation
import LoanBook.Wire.Scalar

/-!
# Money and offers as JSON
-/

namespace LoanBook

namespace Money

def toJson (money : Money) : Json :=
  .record [("iso4217", .text money.currency), ("amount", money.amount.toJson),
    ("time", money.time.toJson), ("details", .text money.details)]

/-- The fields of money; details may be left out. -/
def jsonFields : List Json.Field :=
  [.needed "iso4217", .needed "amount", .needed "time", .withDefault "details"]

def ofJson? (document : Json) : Option Money := do
  match ← document.fields? jsonFields with
  | [some currency, some amount, some time, details] =>
    let currency ← currency.asText?
    let amount ← Decimal.ofJson? amount
    let time ← Calendar.Instant.ofJson? time
    let details ← (details.getD (.text "")).asText?
    return ⟨currency, amount, time, details⟩
  | _ => none

end Money

namespace LenderOffer

def toJson (offer : LenderOffer) : Json :=
  .record [("lender_id", offer.lender.toJson), ("contract", .nullable .text offer.contract),
    ("payment", offer.payment.toJson)]

/-- The fields of an offer; the contract may be left out. -/
def jsonFields : List Json.Field :=
  [.needed "lender_id", .withDefault "contract", .needed "payment"]

def ofJson? (document : Json) : Option LenderOffer := do
  match ← document.fields? jsonFields with
  | [some lender, contract, some payment] =>
    let lender ← UserId.ofJson? lender
    let contract ← Json.asNullable? Json.asText? (contract.getD .null)
    let payment ← Money.ofJson? payment
    return ⟨lender, contract, payment⟩
  | _ => none

end LenderOffer

end LoanBook
