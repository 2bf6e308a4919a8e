import LoanBook.Proofs.Schedule.DueDates
import LoanBook.Proofs.Schedule.Failures

/-!
# Schedules that settle

The balance of a schedule stays in minor units from installment to installment, also where it is too
large for the digits of an exact difference.  So the last installment takes all of it, and whenever
the installments are made up to the last one, nothing remains to be paid.
-/

namespace LoanBook.RepaymentTerms

open Calendar (Instant)

/-- For every principal in a known currency, on either side of zero and of any size, the
installments of the total can be made if the last of them is due in the calendar, and only then; and
when they are made, the balance that is left is zero. -/
theorem schedule_settles {terms : RepaymentTerms} {principal : Money} {currency : Currency}
    (found : Currency.lookup? principal.currency = some currency)
    (interestPortion : terms.interestRate.IsPortion) (feePortion : terms.serviceFeeRate.IsPortion)
    (some : terms.installmentCount ≠ 0) (start : Instant) :
    ∃ rounded interest fee, principal.rounded = .ok rounded ∧
      rounded.value.split terms.interestRate = .ok interest ∧
      rounded.value.split terms.serviceFeeRate = .ok fee ∧
      ∀ total, rounded.value.sum [interest.taken, fee.taken] = .ok total →
        ((∃ made, installmentsFrom terms.installmentCount start terms.installmentCount.toNat 1 total
            [] = .ok made) ↔ (start.addMonths? terms.installmentCount.toNat).isSome) ∧
        ∀ made, installmentsFrom terms.installmentCount start terms.installmentCount.toNat 1 total
            [] = .ok made →
          made.2.amount.isZero = true ∧
          terms.schedule principal start =
            .ok ⟨rounded.value, interest.taken, fee.taken, total, made.1⟩ := by
  have rounds := Money.rounded_eq_ok_iff.mpr ⟨_, Money.precision_of_found found, rfl⟩
  have minor := Money.IsMinorOf.of_rounded found rounds
  obtain ⟨interest, interestSplits⟩ := Money.exists_split_of_found interestPortion minor.found
  obtain ⟨fee, feeSplits⟩ := Money.exists_split_of_found feePortion minor.found
  refine ⟨_, interest, fee, rounds, interestSplits, feeSplits, fun total sums => ?_⟩
  have totalMinor := total_isMinorOf minor interestSplits feeSplits sums
  refine ⟨exists_installments_iff totalMinor some, fun made makes => ⟨?_, ?_⟩⟩
  · exact settles some principal start _ interest fee total made rounds interestSplits feeSplits
      sums makes
  · rw [schedule, if_neg some, rounds, ok_bind, interestSplits, ok_bind, feeSplits, ok_bind, sums,
      ok_bind, makes]
    rfl

/-- Without interest and without a fee, over a year. -/
def freeYear : RepaymentTerms :=
  ⟨.zero, .zero, 12⟩

/-- A twelfth of the hoard has cents, which 96 bits do not hold beside the rest of it.  The
installments fall short of the total by a dollar and ninety cents, and nevertheless nothing is
left. -/
theorem schedule_settles_hoard :
    Currency.lookup? Money.hoard.currency = some ⟨"USD", 2⟩ ∧ freeYear.interestRate.IsPortion ∧
      freeYear.serviceFeeRate.IsPortion ∧ freeYear.installmentCount ≠ 0 ∧
      ∃ rounded interest fee total made, Money.hoard.rounded = .ok rounded ∧
        rounded.value.split freeYear.interestRate = .ok interest ∧
        rounded.value.split freeYear.serviceFeeRate = .ok fee ∧
        rounded.value.sum [interest.taken, fee.taken] = .ok total ∧
        installmentsFrom freeYear.installmentCount Money.hoard.time
          freeYear.installmentCount.toNat 1 total [] = .ok made ∧
        installmentUnits made.1 + 19 * 10 ^ 27 = total.units ∧
        made.2.amount.isZero = true ∧
        freeYear.schedule Money.hoard Money.hoard.time =
          .ok ⟨rounded.value, interest.taken, fee.taken, total, made.1⟩ := by
  have found : Currency.lookup? Money.hoard.currency = some ⟨"USD", 2⟩ := by decide +kernel
  have interestPortion : freeYear.interestRate.IsPortion := by decide +kernel
  have feePortion : freeYear.serviceFeeRate.IsPortion := by decide +kernel
  have some : freeYear.installmentCount ≠ 0 := by decide
  obtain ⟨rounded, interest, fee, rounds, interestSplits, feeSplits, ends⟩ :=
    schedule_settles found interestPortion feePortion some Money.hoard.time
  have short : (freeYear.schedule Money.hoard Money.hoard.time).map (fun schedule =>
      schedule.total.units - installmentUnits schedule.installments) = .ok (19 * 10 ^ 27) := by
    decide +kernel
  obtain ⟨schedule, schedules, missing⟩ := map_eq_ok_iff.mp short
  rw [RepaymentTerms.schedule, if_neg some, rounds, ok_bind, interestSplits, ok_bind, feeSplits,
    ok_bind] at schedules
  obtain ⟨total, sums, schedules⟩ := bind_eq_ok_iff.mp schedules
  obtain ⟨made, makes, schedules⟩ := bind_eq_ok_iff.mp schedules
  cases schedules
  obtain ⟨settled, scheduled⟩ := (ends total sums).2 made makes
  refine ⟨found, interestPortion, feePortion, some, rounded, interest, fee, total, made, rounds,
    interestSplits, feeSplits, sums, makes, ?_, settled, scheduled⟩
  rw [← missing]
  show installmentUnits made.1 + (total.units - installmentUnits made.1) = total.units
  omega

end LoanBook.RepaymentTerms
