import LoanBook.Failure

/-!
# Rounding, adding and splitting money

`Money.rounded` snaps an amount to the minor unit of its currency, halves away from zero, and
reports whether it changed. `Money.sum` adds amounts of one currency. `Money.split` takes a
portion of a value, rounds the part taken and leaves the plain difference.
-/

namespace LoanBook

/-- A value rounded to its currency's minor unit, with a notice when that changed it. -/
structure Rounded where
  value : Money
  mismatch : Option PrecisionMismatch
deriving DecidableEq

/-- The two parts of a value that was split. -/
structure Split where
  taken : Money
  remainder : Money
deriving DecidableEq

namespace Money

/-- The number of decimal places of the currency's minor unit. -/
def precision (money : Money) : Except Failure Nat :=
  match Currency.lookup? money.currency with
  | some currency => .ok currency.precision
  | none => reject (.unknownCurrency money.currency)

/-- The value rounded to the minor unit of its currency. -/
def rounded (money : Money) : Except Failure Rounded := do
  let places ← money.precision
  let amount := money.amount.round places
  return {
    value := { money with amount }
    mismatch :=
      if amount ≈ money.amount then none else some ⟨money.currency, money.amount, amount⟩ }

/-- A running total with one more operand, which must have the given currency. -/
def addTo (currency : String) (total : Decimal) (operand : Money) : Except Failure Decimal :=
  if operand.currency ≠ currency then reject (.currencyMismatch currency operand.currency)
  else
    match total.add? operand.amount with
    | some larger => .ok larger
    | none => rejectIssue .sumOverflow

/-- The value with the amounts of others of its currency added, in order. -/
def sum (money : Money) (operands : List Money) : Except Failure Money := do
  let amount ← operands.foldlM (addTo money.currency) money.amount
  return { money with amount }

/-- The value with the amount of another of its currency taken away. -/
def minus (money other : Money) : Except Failure Money :=
  money.sum [other.negate]

/-- Splits a portion off the value. The part taken is rounded to the minor unit; the remainder is
the difference, which is taken for granted. -/
def split (money : Money) (portion : Rate) : Except Failure Split :=
  if portion.IsPortion then
    match money.amount.mul? portion.decimal with
    | none => rejectIssue .splitOverflow
    | some raw => do
      let taken ← { money with amount := raw }.rounded
      let difference ← granted (money.amount.sub? taken.value.amount)
      return ⟨taken.value, { money with amount := difference }⟩
  else reject (.invalidPortion portion)

end Money

end LoanBook
