import LoanBook.Calendar.Instant
import LoanBook.Currency
import LoanBook.Decimal.Text

/-!
# Money

A value of money is a currency code, an amount, a time and some details. The code need not be
known; an amount is a multiple of the minor unit of its currency only after rounding.
-/

namespace LoanBook

/-- An amount in some currency, with its time and details. -/
structure Money where
  currency : String
  amount : Decimal
  time : Calendar.Instant
  details : String
deriving DecidableEq

/-- The notice that an amount was not a multiple of its currency's minor unit. -/
structure PrecisionMismatch where
  currency : String
  raw : Decimal
  rounded : Decimal
deriving DecidableEq

namespace Money

def zero (currency : String) (time : Calendar.Instant) : Money :=
  ⟨currency, .zero, time, ""⟩

/-- The same value with the sign of its amount flipped. -/
def negate (money : Money) : Money :=
  { money with amount := money.amount.negate }

/-- The amount and the code, `10.00 USD`; in a known currency the amount is rounded. -/
def display (money : Money) : String :=
  let shown :=
    match Currency.lookup? money.currency with
    | some currency => money.amount.round currency.precision
    | none => money.amount
  shown.toText ++ " " ++ money.currency

/-- Two values agree when they differ in nothing but the way their amounts are written. -/
instance : HasEquiv Money := ⟨fun left right =>
  left.currency = right.currency ∧ left.amount ≈ right.amount ∧ left.time = right.time ∧
    left.details = right.details⟩

instance (left right : Money) : Decidable (left ≈ right) :=
  inferInstanceAs (Decidable (_ ∧ _ ∧ _ ∧ _))

end Money

end LoanBook
