import LoanBook.Failure

/-!
# Configuration of the loan product

The rates charged and paid, the number of installments, and which offers are accepted. A valid
configuration has four portions, at least one installment, and a smallest offer of at most half
the principal, so that the smallest accepted offer does not pass the largest before it is rounded.
-/

namespace LoanBook

/-- What happens to offers still in the list when the principal is covered. -/
inductive CoveredOfferPolicy where
  | drop
  | markUnused
deriving DecidableEq

/-- The rates charged to the borrower and paid to lenders. -/
structure PricingTerms where
  interestRate : Rate
  serviceFeeRate : Rate
  lenderInterestRate : Rate
deriving DecidableEq

/-- The rules for accepting offers: the smallest share of the principal, and what happens to the
offers after it is covered. -/
structure InvestmentTerms where
  minInvestmentRate : Rate
  coveredOfferPolicy : CoveredOfferPolicy
deriving DecidableEq

/-- The configuration of a loan product. -/
structure LoanConfig where
  pricing : PricingTerms
  installmentCount : UInt32
  investment : InvestmentTerms
deriving DecidableEq

namespace LoanConfig

/-- The standard product: ten per cent interest and five per cent service fee over twelve months,
one per cent to lenders, offers from five per cent of the principal. -/
def standard : LoanConfig where
  pricing := ⟨.ofPercentage 10, .ofPercentage 5, .ofPercentage 1⟩
  installmentCount := 12
  investment := ⟨.ofPercentage 5, .drop⟩

/-- The rates with their names, in the order in which they are checked. -/
def rates (config : LoanConfig) : List (String × Rate) :=
  [("interest_rate", config.pricing.interestRate),
    ("service_fee_rate", config.pricing.serviceFeeRate),
    ("lender_interest_rate", config.pricing.lenderInterestRate),
    ("min_investment_rate", config.investment.minInvestmentRate)]

/-- Checks that a rate is a portion. -/
def checkRate (entry : String × Rate) : Except Failure Unit :=
  if entry.2.IsPortion then .ok ()
  else do
    let shown ← granted entry.2.display?
    reject (.invalidConfiguration (.rateOutside entry.1 shown))

/-- Checks a configuration. A refused rate is shown as a percentage, which may overflow. -/
def check (config : LoanConfig) : Except Failure Unit := do
  config.rates.forM checkRate
  if config.installmentCount = 0 then reject (.invalidConfiguration .noInstallments)
  else if Decimal.half < config.investment.minInvestmentRate.decimal then do
    let shown ← granted config.investment.minInvestmentRate.display?
    reject (.invalidConfiguration (.minimumAboveHalf shown))
  else .ok ()

/-- Two configurations agree when they differ in nothing but the way their rates are written. -/
def Agrees (left right : LoanConfig) : Prop :=
  left.pricing.interestRate.decimal ≈ right.pricing.interestRate.decimal ∧
    left.pricing.serviceFeeRate.decimal ≈ right.pricing.serviceFeeRate.decimal ∧
    left.pricing.lenderInterestRate.decimal ≈ right.pricing.lenderInterestRate.decimal ∧
    left.installmentCount = right.installmentCount ∧
    left.investment.minInvestmentRate.decimal ≈ right.investment.minInvestmentRate.decimal ∧
    left.investment.coveredOfferPolicy = right.investment.coveredOfferPolicy

instance (left right : LoanConfig) : Decidable (left.Agrees right) :=
  inferInstanceAs (Decidable (_ ∧ _ ∧ _ ∧ _ ∧ _ ∧ _))

end LoanConfig

end LoanBook
