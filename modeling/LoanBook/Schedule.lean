import LoanBook.Configuration
import LoanBook.Loan.Basic
import LoanBook.Money.Split

/-!
# Repayment schedules

What a borrower owes for a principal, interest and a service fee, spread over monthly
installments. With `k` installments still to come, the next one takes one `k`-th of what is left,
rounded to the minor unit, so the last one takes all of it. Every due date is counted from the
start, so a day lost in a short month comes back in a longer one.
-/

namespace LoanBook

open Calendar (Instant)

/-- The instant so many months later, at the same time of day. -/
def dueAfter (start : Instant) (months : UInt32) : Except Failure Instant :=
  match start.addMonths? months.toNat with
  | some due => .ok due
  | none => rejectIssue (.dateOverflow months)

/-- The rates and the number of installments that a schedule is made by. -/
structure RepaymentTerms where
  interestRate : Rate
  serviceFeeRate : Rate
  installmentCount : UInt32
deriving DecidableEq

/-- An installment; the time of its amount is its due date. -/
structure Installment where
  number : UInt32
  count : UInt32
  amount : Money
deriving DecidableEq

/-- What a borrower owes, and when. -/
structure RepaymentSchedule where
  principal : Money
  interest : Money
  serviceFee : Money
  total : Money
  installments : List Installment
deriving DecidableEq

namespace RepaymentTerms

def ofConfig (config : LoanConfig) : RepaymentTerms :=
  ⟨config.pricing.interestRate, config.pricing.serviceFeeRate, config.installmentCount⟩

/-- Makes the `left` installments still to come out of what remains to be paid, the next one with
the given number. Answers them after those already made, with what remains at the end. -/
def installmentsFrom (count : UInt32) (start : Instant) :
    (left : Nat) → (number : Nat) → (remaining : Money) → (made : List Installment) →
      Except Failure (List Installment × Money)
  | 0, _, remaining, made => .ok (made.reverse, remaining)
  | left + 1, number, remaining, made => do
    let share ← remaining.split (.oneOver (.ofNat (left + 1)))
    let due ← dueAfter start (.ofNat number)
    installmentsFrom count start left (number + 1) share.remainder
      (⟨.ofNat number, count, { share.taken with time := due }⟩ :: made)

/-- The schedule of a principal, which is first rounded to its minor unit, with the first
installment one month after the start. -/
def schedule (terms : RepaymentTerms) (principal : Money) (start : Instant) :
    Except Failure RepaymentSchedule :=
  if terms.installmentCount = 0 then reject (.invalidConfiguration .noInstallments)
  else do
    let principal ← principal.rounded
    let interest ← principal.value.split terms.interestRate
    let serviceFee ← principal.value.split terms.serviceFeeRate
    let total ← principal.value.sum [interest.taken, serviceFee.taken]
    let made ← installmentsFrom terms.installmentCount start terms.installmentCount.toNat 1 total []
    return ⟨principal.value, interest.taken, serviceFee.taken, total, made.1⟩

end RepaymentTerms

namespace Installment

/-- The details of an installment of a loan. -/
def label (installment : Installment) (loan : LoanId) : String :=
  "Payment #" ++ toString installment.number.toNat ++ " of " ++
    toString installment.count.toNat ++ " for loan [" ++ loan.toText ++ "]"

/-- The payment that an installment asks for. -/
def payment (installment : Installment) (loan : LoanId) : Payment :=
  .ofMoney { installment.amount with details := installment.label loan }

end Installment

namespace RepaymentSchedule

/-- The payments of the borrower: the principal drawn, as an outflow, then every installment. -/
def borrowerPayments (schedule : RepaymentSchedule) (loan : LoanId) (drawnAt : Instant) :
    List Payment :=
  .ofMoney { schedule.principal.negate with time := drawnAt } ::
    schedule.installments.map fun installment => installment.payment loan

def installmentTotal (schedule : RepaymentSchedule) : Except Failure Money :=
  (Money.zero schedule.total.currency schedule.total.time).sum
    (schedule.installments.map Installment.amount)

end RepaymentSchedule

end LoanBook
