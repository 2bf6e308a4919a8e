import LoanBook.Proofs.Allocation.Filling
import LoanBook.Proofs.Allocation.Rounding
import LoanBook.Proofs.Schedule.Totals

/-!
# Due dates without drift

Borrower and lenders pay on the same calendar: every due date is a whole number of months after the
start, and none is counted from another due date.  So the dates of a schedule go up, a day that one
month is too short for comes back in a longer one, and nothing is made of dates past the last month
of the calendar.
-/

namespace LoanBook

open Calendar (Date Instant)

variable {start : Instant}

namespace AllocationTerms

variable {terms : AllocationTerms} {bounds : AllocationBounds}

theorem repayment_time_of_use {offer : LenderOffer} {investment : Money} {used : UsedInvestment}
    (uses : terms.use bounds offer investment = .ok used) :
    used.repayment.time = bounds.repaymentDue := by
  obtain ⟨interest, _, uses⟩ := bind_eq_ok_iff.mp uses
  obtain ⟨owed, _, uses⟩ := bind_eq_ok_iff.mp uses
  cases uses
  rfl

/-- The lenders are repaid together, as many months after the allocation as the terms say. -/
theorem exists_due_of_allocate {loan : LoanId} {principal : Money} {offers : List LenderOffer}
    {allocation : Allocation}
    (allocates : terms.allocate loan principal offers start = .ok allocation) :
    ∃ due, start.IsMonthsAfter terms.installmentCount.toNat due ∧
      ∀ used ∈ allocation.used, used.repayment.time = due := by
  obtain ⟨rounded, bounds, _, _, due, filled⟩ := fills_of_allocateBy allocates
  refine ⟨bounds.repaymentDue, dueAfter_eq_ok_iff_isMonthsAfter.mp due, fun used member => ?_⟩
  rcases filled.uses member with before | ⟨offer, investment, uses⟩
  · cases before
  · exact repayment_time_of_use uses

end AllocationTerms

/-- Every due date lies a whole number of months after the start, on the start's day of the month or
on the last day of a shorter month, at the start's time of day: those of a schedule one month after
the other, and those of an allocation all at its end.  A month past the end of the calendar is no
due date, and then there is no schedule and no allocation. -/
theorem due_without_drift (start : Instant) :
    (∀ months due, dueAfter start months = .ok due ↔ start.IsMonthsAfter months.toNat due) ∧
      (∀ months, dueAfter start months = rejectIssue (.dateOverflow months) ↔
        Date.lastMonthNumber < start.date.monthNumber + months.toNat) ∧
      (∀ (terms : RepaymentTerms) (principal : Money),
        (∀ schedule, terms.schedule principal start = .ok schedule →
          schedule.IsMonthly start terms.installmentCount.toNat) ∧
        (Date.lastMonthNumber < start.date.monthNumber + terms.installmentCount.toNat →
          ∃ failure, terms.schedule principal start = .error failure)) ∧
      ∀ (terms : AllocationTerms) (loan : LoanId) (principal : Money) (offers : List LenderOffer),
        (∀ allocation, terms.allocate loan principal offers start = .ok allocation →
          ∀ used ∈ allocation.used,
            start.IsMonthsAfter terms.installmentCount.toNat used.repayment.time) ∧
        (Date.lastMonthNumber < start.date.monthNumber + terms.installmentCount.toNat →
          ∃ failure, terms.allocate loan principal offers start = .error failure) := by
  refine ⟨fun _ _ => dueAfter_eq_ok_iff_isMonthsAfter, fun _ => dueAfter_eq_error_iff,
    fun terms principal => ⟨fun _ => RepaymentTerms.schedule_isMonthly, fun past => ?_⟩,
    fun terms loan principal offers => ⟨fun allocation allocates used member => ?_, fun past => ?_⟩⟩
  · cases schedules : terms.schedule principal start with
    | error failure => exact ⟨failure, rfl⟩
    | ok schedule =>
        have inRange := (RepaymentTerms.schedule_isMonthly schedules).le_lastMonthNumber
        omega
  · obtain ⟨due, isDue, together⟩ := AllocationTerms.exists_due_of_allocate allocates
    rw [together used member]
    exact isDue
  · cases allocates : terms.allocate loan principal offers start with
    | error failure => exact ⟨failure, rfl⟩
    | ok allocation =>
        obtain ⟨due, isDue, _⟩ := AllocationTerms.exists_due_of_allocate allocates
        have inRange := isDue.le_lastMonthNumber
        omega

/-- A leap second at the end of January, in a leap year before the year one. -/
def leapStart : Instant :=
  ⟨⟨-4, 1, 31, by decide, by decide, by decide⟩, 86399, 1500000000, by decide, by decide, by decide⟩

/-- From the end of January, a quarter is due on a leap day, at the end of March and at the end of
April.  So many months as fit in a word lead out of the calendar. -/
theorem due_without_drift_leapStart :
    let terms := AllocationTerms.ofConfig .standard
    let endless : UInt32 := 4294967295
    let leapDay : Instant :=
      { leapStart with date := ⟨-4, 2, 29, by decide, by decide, by decide⟩ }
    (dueAfter leapStart 1 = .ok leapDay ∧ leapStart.IsMonthsAfter 1 leapDay) ∧
      dueAfter leapStart endless = rejectIssue (.dateOverflow endless) ∧
      (∃ schedule, RepaymentTerms.quarter.schedule RepaymentTerms.debt leapStart = .ok schedule ∧
        schedule.installments.map (fun installment =>
          (installment.amount.time.date.month, installment.amount.time.date.day)) =
            [(2, 29), (3, 31), (4, 30)] ∧
        schedule.IsMonthly leapStart 3) ∧
      (∃ failure, RepaymentTerms.schedule
        { RepaymentTerms.quarter with installmentCount := endless } RepaymentTerms.debt leapStart =
          .error failure) ∧
      (∃ allocation used,
        terms.allocate (.ofClock 0 1) AllocationTerms.wholeOffer.payment
          [AllocationTerms.wholeOffer] leapStart = .ok allocation ∧
        allocation.used = [used] ∧ leapStart.IsMonthsAfter 12 used.repayment.time) ∧
      ∃ failure, AllocationTerms.allocate { terms with installmentCount := endless } (.ofClock 0 1)
        AllocationTerms.wholeOffer.payment [AllocationTerms.wholeOffer] leapStart =
          .error failure := by
  intro terms endless leapDay
  obtain ⟨answers, refuses, onSchedules, onAllocations⟩ := due_without_drift leapStart
  have past : Date.lastMonthNumber < leapStart.date.monthNumber + endless.toNat := by decide
  have isDue : dueAfter leapStart 1 = .ok leapDay := by decide +kernel
  have scheduled : (RepaymentTerms.quarter.schedule RepaymentTerms.debt leapStart).map
      (fun schedule => schedule.installments.map fun installment =>
        (installment.amount.time.date.month, installment.amount.time.date.day)) =
      .ok [(2, 29), (3, 31), (4, 30)] := by decide +kernel
  have allocated : (terms.allocate (.ofClock 0 1) AllocationTerms.wholeOffer.payment
      [AllocationTerms.wholeOffer] leapStart).map (fun allocation => allocation.used.length) =
      .ok 1 := by decide +kernel
  obtain ⟨schedule, schedules, days⟩ := map_eq_ok_iff.mp scheduled
  obtain ⟨allocation, allocates, length⟩ := map_eq_ok_iff.mp allocated
  obtain ⟨used, usedEq⟩ := List.length_eq_one_iff.mp length
  exact ⟨⟨isDue, (answers 1 leapDay).mp isDue⟩, (refuses endless).mpr past,
    ⟨schedule, schedules, days, (onSchedules _ _).1 schedule schedules⟩, (onSchedules _ _).2 past,
    ⟨allocation, used, allocates, usedEq,
      (onAllocations _ _ _ _).1 allocation allocates used (by simp [usedEq])⟩,
    (onAllocations _ _ _ _).2 past⟩

end LoanBook
