import LoanBook.Proofs.Money.Failures
import LoanBook.Proofs.Schedule.MinorUnits

/-!
# Failures of a schedule

The schedule of a principal above zero fails only when a sum is too large or a date too late for the
calendar, however large the principal is, and when it is made nothing remains to be paid.
-/

namespace LoanBook

open Calendar (Instant)

theorem dueAfter_refuses (start : Instant) (months : UInt32) :
    FailsWithin Failure.IsRefusal (dueAfter start months) := by
  unfold dueAfter
  split
  · exact .ok _
  · exact .reject trivial

namespace RepaymentTerms

variable {places : Nat}

/-- Installments are made without a failure other than a date too late. -/
theorem installmentsFrom_refuses {count : UInt32} {start : Instant} {left number : Nat}
    {remaining : Money} {made : List Installment} (minor : remaining.IsMinor places)
    (nonneg : 0 ≤ remaining.units) :
    FailsWithin Failure.IsRefusal (installmentsFrom count start left number remaining made) := by
  induction left generalizing number remaining made with
  | zero => exact .ok _
  | succ left ih =>
      obtain ⟨share, splits, parted, _⟩ :=
        Money.exists_isParted minor nonneg (Rate.oneOver_isPortion (.ofNat (left + 1)))
      rw [installmentsFrom, splits, ok_bind]
      refine .bind (dueAfter_refuses start _) fun due => ?_
      exact ih parted.remainder_minor parted.remainder_nonneg

/-- The last installment takes all that remains, however much that is and on which side of zero. -/
theorem remaining_of_installmentsFrom {count : UInt32} {start : Instant} {left number : Nat}
    {currency : Currency} {remaining : Money} {made : List Installment}
    {result : List Installment × Money} (minor : remaining.IsMinorOf currency) (some : 0 < left)
    (makes : installmentsFrom count start left number remaining made = .ok result) :
    result.2.units = 0 := by
  induction left generalizing number remaining made with
  | zero => cases some
  | succ left ih =>
      obtain ⟨share, splits, makes⟩ := bind_eq_ok_iff.mp makes
      obtain ⟨due, _, makes⟩ := bind_eq_ok_iff.mp makes
      cases left with
      | zero =>
          cases makes
          exact Money.remainder_of_whole minor.isMinor Rate.oneOver_one splits
      | succ left => exact ih (minor.split splits).2 (Nat.succ_pos left) makes

/-- Whenever a schedule comes to its end, nothing remains to be paid. -/
def Settles (terms : RepaymentTerms) (principal : Money) (start : Instant) : Prop :=
  ∀ rounded interest fee total made, principal.rounded = .ok rounded →
    rounded.value.split terms.interestRate = .ok interest →
    rounded.value.split terms.serviceFeeRate = .ok fee →
    rounded.value.sum [interest.taken, fee.taken] = .ok total →
    installmentsFrom terms.installmentCount start terms.installmentCount.toNat 1 total [] =
      .ok made → made.2.amount.isZero = true

theorem settles {terms : RepaymentTerms} (some : terms.installmentCount ≠ 0) (principal : Money)
    (start : Instant) : terms.Settles principal start := by
  intro rounded interest fee total made rounds interestSplits feeSplits sums makes
  obtain ⟨currency, minor⟩ := Money.IsMinorOf.exists_of_rounded rounds
  have totalMinor := total_isMinorOf minor interestSplits feeSplits sums
  exact Decimal.isZero_iff.mpr
    (remaining_of_installmentsFrom totalMinor (toNat_pos_of_ne_zero some) makes)

section Portions

variable {terms : RepaymentTerms} {principal : Money} (interestPortion : terms.interestRate.IsPortion)
  (feePortion : terms.serviceFeeRate.IsPortion) (some : terms.installmentCount ≠ 0)
  (minor : principal.IsMinor places) (nonneg : 0 ≤ principal.units)
include interestPortion feePortion minor nonneg

/-- What a borrower owes in all is again in minor units and not below zero. -/
theorem total_isMinor {interest fee : Split} {total : Money}
    (interestSplits : principal.split terms.interestRate = .ok interest)
    (feeSplits : principal.split terms.serviceFeeRate = .ok fee)
    (sums : principal.sum [interest.taken, fee.taken] = .ok total) :
    total.IsMinor places ∧ 0 ≤ total.units := by
  obtain ⟨_, interestEq, interestParted, _⟩ :=
    Money.exists_isParted minor nonneg interestPortion
  cases interestSplits.symm.trans interestEq
  obtain ⟨_, feeEq, feeParted, _⟩ := Money.exists_isParted minor nonneg feePortion
  cases feeSplits.symm.trans feeEq
  refine Money.isMinor_of_sum minor nonneg (List.forall_mem_cons.mpr ⟨?_, ?_⟩) sums
  · exact ⟨interestParted.taken_minor.scale_le, interestParted.taken_nonneg⟩
  · exact List.forall_mem_singleton.mpr
      ⟨feeParted.taken_minor.scale_le, feeParted.taken_nonneg⟩

include some

theorem schedule_refuses (start : Instant) :
    FailsWithin Failure.IsRefusal (terms.schedule principal start) := by
  rw [schedule, if_neg some]
  refine .bind_ok principal.rounded_refuses fun rounded rounds => ?_
  rw [minor.value_of_rounded rounds]
  refine .bind_ok (Money.split_never_fails minor nonneg interestPortion) fun interest interestOk => ?_
  refine .bind_ok (Money.split_never_fails minor nonneg feePortion) fun fee feeOk => ?_
  refine .bind_ok (principal.sum_refuses _) fun total sums => ?_
  obtain ⟨totalMinor, totalNonneg⟩ :=
    total_isMinor interestPortion feePortion minor nonneg interestOk feeOk sums
  exact .bind (installmentsFrom_refuses totalMinor totalNonneg) fun _ => .ok _

end Portions

end RepaymentTerms

end LoanBook
