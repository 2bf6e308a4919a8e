import LoanBook.Proofs.Money.MinorUnits
import LoanBook.Proofs.Schedule.Conservation

/-!
# Schedules in minor units

Everything that a schedule asks for is in minor units of the currency of its principal, however
large the principal is and however many installments there are.
-/

namespace LoanBook

open Calendar (Instant)

namespace RepaymentTerms

variable {currency : Currency}

/-- Making installments keeps both what was made and what remains in minor units. -/
theorem installmentsFrom_isMinorOf {count : UInt32} {start : Instant} {left number : Nat}
    {remaining : Money} {made : List Installment} {result : List Installment × Money}
    (minor : remaining.IsMinorOf currency)
    (madeMinor : ∀ installment ∈ made, installment.amount.IsMinorOf currency)
    (makes : installmentsFrom count start left number remaining made = .ok result) :
    ∀ installment ∈ result.1, installment.amount.IsMinorOf currency := by
  induction left generalizing number remaining made with
  | zero =>
      cases makes
      intro installment member
      exact madeMinor installment (List.mem_reverse.mp member)
  | succ left ih =>
      obtain ⟨share, splits, makes⟩ := bind_eq_ok_iff.mp makes
      obtain ⟨due, _, makes⟩ := bind_eq_ok_iff.mp makes
      obtain ⟨takenMinor, remainderMinor⟩ := minor.split splits
      have nextMinor : Money.IsMinorOf currency { share.taken with time := due } :=
        takenMinor.of_eq rfl takenMinor.scale_le
      exact ih remainderMinor (List.forall_mem_cons.mpr ⟨nextMinor, madeMinor⟩) makes

/-- What a borrower owes in all is in minor units again. -/
theorem total_isMinorOf {principal total : Money} {interest fee : Split}
    {interestRate feeRate : Rate} (minor : principal.IsMinorOf currency)
    (interestSplits : principal.split interestRate = .ok interest)
    (feeSplits : principal.split feeRate = .ok fee)
    (sums : principal.sum [interest.taken, fee.taken] = .ok total) : total.IsMinorOf currency := by
  apply minor.sum _ sums
  exact List.forall_mem_cons.mpr ⟨(minor.split interestSplits).1.scale_le,
    List.forall_mem_singleton.mpr (minor.split feeSplits).1.scale_le⟩

variable {terms : RepaymentTerms} {principal : Money} {start : Instant}
  {schedule : RepaymentSchedule} (minor : principal.IsMinorOf currency)
  (schedules : terms.schedule principal start = .ok schedule)
include minor schedules

theorem installments_isMinorOf :
    ∀ installment ∈ schedule.installments, installment.amount.IsMinorOf currency := by
  obtain ⟨_, interest, fee, total, made, interestSplits, feeSplits, sums, makes, rfl⟩ :=
    exists_steps_of_schedule minor.isMinor schedules
  have totalMinor := total_isMinorOf minor interestSplits feeSplits sums
  exact installmentsFrom_isMinorOf totalMinor (by simp) makes

/-- The draw of the principal and all that is to be paid for it are in minor units. -/
theorem borrowerPayments_isMinorOf (loan : LoanId) (drawnAt : Instant) :
    ∀ payment ∈ schedule.borrowerPayments loan drawnAt, payment.toMoney.IsMinorOf currency := by
  have principalEq := principal_of_schedule minor.isMinor schedules
  have drawMinor : schedule.principal.IsMinorOf currency := principalEq ▸ minor
  intro payment member
  rcases List.mem_cons.mp member with rfl | later
  · exact drawMinor.of_eq rfl drawMinor.scale_le
  · obtain ⟨installment, installmentMem, rfl⟩ := List.mem_map.mp later
    have owed := installments_isMinorOf minor schedules installment installmentMem
    exact owed.of_eq rfl owed.scale_le

end RepaymentTerms

end LoanBook
