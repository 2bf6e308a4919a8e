import LoanBook.Configuration
import LoanBook.Json.Printer
import LoanBook.Json.Reader
import LoanBook.Wire.Scalar

/-!
# Configurations as JSON

A configuration is an object of three groups of terms. `LoanConfig.ofText` reads and checks one.
-/

namespace LoanBook

namespace CoveredOfferPolicy

def word : CoveredOfferPolicy → String
  | drop => "drop"
  | markUnused => "mark_unused"

def ofWord? (word : String) : Option CoveredOfferPolicy :=
  [drop, markUnused].find? fun policy => policy.word == word

def toJson (policy : CoveredOfferPolicy) : Json := .text policy.word

def ofJson? (document : Json) : Option CoveredOfferPolicy := document.asName?.bind ofWord?

end CoveredOfferPolicy

namespace PricingTerms

def toJson (terms : PricingTerms) : Json :=
  .record [("interest_rate", terms.interestRate.toJson),
    ("service_fee_rate", terms.serviceFeeRate.toJson),
    ("lender_interest_rate", terms.lenderInterestRate.toJson)]

def jsonFields : List Json.Field :=
  [.needed "interest_rate", .needed "service_fee_rate", .needed "lender_interest_rate"]

def ofJson? (document : Json) : Option PricingTerms := do
  match ← document.fields? jsonFields with
  | [some interest, some serviceFee, some lenderInterest] =>
    let interest ← Rate.ofJson? interest
    let serviceFee ← Rate.ofJson? serviceFee
    let lenderInterest ← Rate.ofJson? lenderInterest
    return ⟨interest, serviceFee, lenderInterest⟩
  | _ => none

end PricingTerms

namespace InvestmentTerms

def toJson (terms : InvestmentTerms) : Json :=
  .record [("min_investment_rate", terms.minInvestmentRate.toJson),
    ("covered_offer_policy", terms.coveredOfferPolicy.toJson)]

/-- Reads investment terms; without a policy, offers after the principal is covered are dropped. -/
def ofJson? (document : Json) : Option InvestmentTerms := do
  match ← document.fields?
      [.needed "min_investment_rate", .withDefault "covered_offer_policy"] with
  | [some minimum, policy] =>
    let minimum ← Rate.ofJson? minimum
    let policy ← CoveredOfferPolicy.ofJson? (policy.getD CoveredOfferPolicy.drop.toJson)
    return ⟨minimum, policy⟩
  | _ => none

end InvestmentTerms

namespace LoanConfig

def toJson (config : LoanConfig) : Json :=
  .record [("pricing", config.pricing.toJson),
    ("schedule", .record [("installment_count", .int config.installmentCount.toNat)]),
    ("investment", config.investment.toJson)]

def installmentCountOfJson? (document : Json) : Option UInt32 := do
  match ← document.fields? [.needed "installment_count"] with
  | [some count] => count.asUInt32?
  | _ => none

def ofJson? (document : Json) : Option LoanConfig := do
  match ← document.fields? [.needed "pricing", .needed "schedule", .needed "investment"] with
  | [some pricing, some schedule, some investment] =>
    let pricing ← PricingTerms.ofJson? pricing
    let count ← installmentCountOfJson? schedule
    let investment ← InvestmentTerms.ofJson? investment
    return ⟨pricing, count, investment⟩
  | _ => none

def ofText (text : String) : Except Failure LoanConfig :=
  match (Json.read? text).bind ofJson? with
  | none => reject (.invalidConfiguration .unreadable)
  | some config => do
    config.check
    return config

def toText (config : LoanConfig) : String := config.toJson.compact

end LoanConfig

end LoanBook
