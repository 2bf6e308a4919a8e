import LoanBook.Decimal.Quotient
import LoanBook.Decimal.Text

/-!
# Rates

A rate is a decimal read as a share: `0.05` is five per cent. A rate in `[0, 1]` is a portion,
the only kind by which money can be split. Showing a rate as a percentage multiplies it by one
hundred, which can outgrow a decimal; `none` stands for that.
-/

namespace LoanBook

/-- An interest rate, a fee or a share to split by. -/
structure Rate where
  decimal : Decimal
deriving DecidableEq

namespace Rate

def zero : Rate := ⟨Decimal.zero⟩

def one : Rate := ⟨Decimal.one⟩

/-- The ratio of two decimals; none for a zero denominator or a ratio that is too large. -/
def ratio? (numerator denominator : Decimal) : Option Rate :=
  (numerator.div? denominator).map Rate.mk

/-- The ratio of a 32-bit count to a small constant, which is never too large. -/
private def countOver (count base : UInt32) : Rate :=
  (ratio? (Decimal.ofUInt32 count) (Decimal.ofUInt32 base)).getD zero

/-- So many hundredths. -/
def ofPercentage (percent : UInt32) : Rate := countOver percent 100

/-- So many ten-thousandths. -/
def ofBasisPoints (points : UInt32) : Rate := countOver points 10000

/-- One `count`-th share; nothing when the count is zero. -/
def oneOver (count : UInt32) : Rate := countOver 1 count

def percentage? (rate : Rate) : Option Decimal :=
  rate.decimal.mul? Decimal.hundred

/-- What the rate leaves of the whole. -/
def complement? (rate : Rate) : Option Rate :=
  (Decimal.one.sub? rate.decimal).map Rate.mk

/-- A portion is a rate between zero and one. -/
def IsPortion (rate : Rate) : Prop :=
  Decimal.zero ≤ rate.decimal ∧ rate.decimal ≤ Decimal.one

instance (rate : Rate) : Decidable rate.IsPortion :=
  inferInstanceAs (Decidable (_ ∧ _))

/-- The rate as a percentage without trailing zeros, such as `1.5%`. -/
def display? (rate : Rate) : Option String :=
  rate.percentage?.map fun percent => percent.normalize.toText ++ "%"

end Rate

end LoanBook
