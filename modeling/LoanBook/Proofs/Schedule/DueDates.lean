import LoanBook.Proofs.Calendar.Days
import LoanBook.Proofs.Money.Answers
import LoanBook.Proofs.Rate.Ratios
import LoanBook.Schedule
import Mathlib.Data.List.Pairwise

/-!
# Due dates of a schedule

Each installment is due so many months after the start as its number says, counted from the start
and not from the installment before it.  So the due dates go up strictly.
-/

namespace LoanBook

open Calendar (Date Instant)

theorem dueAfter_eq_ok_iff {start due : Instant} {months : UInt32} :
    dueAfter start months = .ok due ↔ start.addMonths? months.toNat = some due := by
  unfold dueAfter
  cases start.addMonths? months.toNat with
  | none => simp [rejectIssue, reject]
  | some moved => simp

theorem dueAfter_eq_ok_iff_isMonthsAfter {start due : Instant} {months : UInt32} :
    dueAfter start months = .ok due ↔ start.IsMonthsAfter months.toNat due := by
  rw [dueAfter_eq_ok_iff, Instant.addMonths?_eq_some_iff]

theorem dueAfter_eq_error_iff {start : Instant} {months : UInt32} :
    dueAfter start months = rejectIssue (.dateOverflow months) ↔
      Date.lastMonthNumber < start.date.monthNumber + months.toNat := by
  rw [← Int.not_le, ← Instant.isSome_addMonths?_iff]
  unfold dueAfter
  cases start.addMonths? months.toNat with
  | none => simp
  | some moved => simp [rejectIssue, reject]

/-- The installments of a schedule are due month by month: the one of each number lies so many
months after the start, so that they follow one another in the calendar and in seconds, and a day
that was cut off comes back in a longer month. -/
structure RepaymentSchedule.IsMonthly (start : Instant) (count : Nat)
    (schedule : RepaymentSchedule) : Prop where
  length : schedule.installments.length = count
  due : ∀ index installment, schedule.installments[index]? = some installment →
    installment.number.toNat = index + 1 ∧ start.IsMonthsAfter (index + 1) installment.amount.time
  increasing : schedule.installments.Pairwise fun earlier later =>
    earlier.amount.time < later.amount.time ∧
      earlier.amount.time.unixSeconds < later.amount.time.unixSeconds
  restored : ∀ short ∈ schedule.installments, ∀ long ∈ schedule.installments,
    short.amount.time.date.day < start.date.day →
    short.amount.time.date.daysInMonth < long.amount.time.date.daysInMonth →
      short.amount.time.date.day < long.amount.time.date.day ∧
      (start.date.day ≤ long.amount.time.date.daysInMonth →
        long.amount.time.date.day = start.date.day)

/-- The last of the installments is due in the calendar. -/
theorem RepaymentSchedule.IsMonthly.le_lastMonthNumber {start : Instant} {count : Nat}
    {schedule : RepaymentSchedule} (isMonthly : schedule.IsMonthly start count) :
    start.date.monthNumber + count ≤ Date.lastMonthNumber := by
  cases count with
  | zero => simpa using start.date.monthNumber_le
  | succ last =>
      have inRange : last < schedule.installments.length := by
        rw [isMonthly.length]
        exact Nat.lt_succ_self last
      exact (isMonthly.due last _ (List.getElem?_eq_getElem inRange)).2.le_lastMonthNumber

namespace RepaymentTerms

/-- The installment of a number is due that many months after the start. -/
def IsDue (start : Instant) (number : Nat) (installment : Installment) : Prop :=
  installment.number.toNat = number ∧ start.addMonths? number = some installment.amount.time

/-- Installments are made in the order of their numbers. -/
theorem installmentsFrom_isDue {count : UInt32} {start : Instant} {left number : Nat}
    {remaining : Money} {made : List Installment} {result : List Installment × Money}
    (few : number + left ≤ 2 ^ 32)
    (makes : installmentsFrom count start left number remaining made = .ok result) :
    ∃ new, result.1 = made.reverse ++ new ∧ new.length = left ∧
      ∀ index installment, new[index]? = some installment →
        IsDue start (number + index) installment := by
  induction left generalizing number remaining made with
  | zero =>
      cases makes
      exact ⟨[], by simp, rfl, by simp⟩
  | succ left ih =>
      obtain ⟨share, _, makes⟩ := bind_eq_ok_iff.mp makes
      obtain ⟨due, dueEq, makes⟩ := bind_eq_ok_iff.mp makes
      obtain ⟨later, resultEq, length, isDue⟩ := ih (by omega) makes
      have numbered : (UInt32.ofNat number).toNat = number :=
        UInt32.toNat_ofNat_of_lt' (show number < 2 ^ 32 by omega)
      rw [dueAfter_eq_ok_iff, numbered] at dueEq
      refine ⟨⟨.ofNat number, count, { share.taken with time := due }⟩ :: later, ?_, ?_, ?_⟩
      · rw [resultEq, List.reverse_cons, List.append_assoc]
        rfl
      · rw [List.length_cons, length]
      · intro index installment found
        cases index with
        | zero =>
            cases found
            exact ⟨numbered, dueEq⟩
        | succ index =>
            have rest := isDue index installment found
            rwa [Nat.add_assoc, Nat.add_comm 1] at rest

/-- Installments are made of every amount in minor units, of any size and on either side of zero, if
their due dates are in the calendar, and only then. -/
theorem exists_installmentsFrom_iff {count : UInt32} {start : Instant} {left number : Nat}
    {currency : Currency} {remaining : Money} {made : List Installment}
    (minor : remaining.IsMinorOf currency) (few : number + left ≤ 2 ^ 32) :
    (∃ result, installmentsFrom count start left number remaining made = .ok result) ↔
      ∀ later < left, (start.addMonths? (number + later)).isSome := by
  induction left generalizing number remaining made with
  | zero => exact iff_of_true ⟨_, rfl⟩ (by simp)
  | succ left ih =>
      obtain ⟨share, splits⟩ :=
        Money.exists_split_of_found (Rate.oneOver_isPortion (.ofNat (left + 1))) minor.found
      have numbered : (UInt32.ofNat number).toNat = number :=
        UInt32.toNat_ofNat_of_lt' (show number < 2 ^ 32 by omega)
      rw [installmentsFrom, splits, ok_bind, Nat.forall_lt_succ_left']
      cases moved : start.addMonths? number with
      | none =>
          have refused : dueAfter start (.ofNat number) =
              rejectIssue (.dateOverflow (.ofNat number)) := by
            rw [dueAfter, numbered, moved]
          rw [refused]
          refine iff_of_false ?_ ?_
          · rintro ⟨_, none⟩
            cases none
          · simp
      | some due =>
          have dueEq : dueAfter start (.ofNat number) = .ok due := by
            rw [dueAfter_eq_ok_iff, numbered, moved]
          rw [dueEq, ok_bind, ih (minor.split splits).2 (by omega)]
          simp [Nat.add_assoc, Nat.add_comm 1]

/-- All installments of an amount are made if the last of them is due in the calendar, and only
then. -/
theorem exists_installments_iff {count : UInt32} {start : Instant} {currency : Currency}
    {total : Money} (minor : total.IsMinorOf currency) (some : count ≠ 0) :
    (∃ made, installmentsFrom count start count.toNat 1 total [] = .ok made) ↔
      (start.addMonths? count.toNat).isSome := by
  have few := count.toNat_lt
  have one : 1 ≤ count.toNat := toNat_pos_of_ne_zero some
  rw [exists_installmentsFrom_iff minor (by omega)]
  constructor
  · intro each
    have last := each (count.toNat - 1) (by omega)
    rwa [Nat.add_sub_cancel' one] at last
  · intro dated later less
    exact Instant.isSome_addMonths?_of_le (by omega) dated

/-- The installments of a schedule are as many as the terms say, numbered from one and due in the
order of their numbers. -/
theorem schedule_isDue {terms : RepaymentTerms} {principal : Money} {start : Instant}
    {schedule : RepaymentSchedule} (schedules : terms.schedule principal start = .ok schedule) :
    schedule.installments.length = terms.installmentCount.toNat ∧
      ∀ index installment, schedule.installments[index]? = some installment →
        IsDue start (index + 1) installment := by
  unfold RepaymentTerms.schedule at schedules
  by_cases none : terms.installmentCount = 0
  · rw [if_pos none] at schedules
    cases schedules
  · rw [if_neg none] at schedules
    obtain ⟨rounded, _, schedules⟩ := bind_eq_ok_iff.mp schedules
    obtain ⟨interest, _, schedules⟩ := bind_eq_ok_iff.mp schedules
    obtain ⟨fee, _, schedules⟩ := bind_eq_ok_iff.mp schedules
    obtain ⟨total, _, schedules⟩ := bind_eq_ok_iff.mp schedules
    obtain ⟨made, makes, schedules⟩ := bind_eq_ok_iff.mp schedules
    cases schedules
    have few := terms.installmentCount.toNat_lt
    obtain ⟨new, madeEq, length, isDue⟩ := installmentsFrom_isDue (by omega) makes
    have allMade : made.1 = new := by simpa using madeEq
    subst allMade
    refine ⟨length, fun index installment found => ?_⟩
    rw [Nat.add_comm]
    exact isDue index installment found

theorem schedule_isMonthly {terms : RepaymentTerms} {principal : Money} {start : Instant}
    {schedule : RepaymentSchedule} (schedules : terms.schedule principal start = .ok schedule) :
    schedule.IsMonthly start terms.installmentCount.toNat := by
  obtain ⟨length, isDue⟩ := schedule_isDue schedules
  have due (index : Nat) (installment : Installment)
      (found : schedule.installments[index]? = some installment) :
      installment.number.toNat = index + 1 ∧
        start.IsMonthsAfter (index + 1) installment.amount.time := by
    obtain ⟨numbered, moved⟩ := isDue index installment found
    exact ⟨numbered, Instant.addMonths?_eq_some_iff.mp moved⟩
  refine ⟨length, due, ?_, ?_⟩
  · rw [List.pairwise_iff_getElem]
    intro first second inRange laterInRange less
    have earlier := (due first _ (List.getElem?_eq_getElem inRange)).2
    have later := (due second _ (List.getElem?_eq_getElem laterInRange)).2
    have fewer : first + 1 < second + 1 := Nat.succ_lt_succ less
    exact ⟨earlier.lt fewer later, earlier.unixSeconds_lt fewer later⟩
  · intro short shortMem long longMem cut longer
    obtain ⟨first, shortFound⟩ := List.mem_iff_getElem?.mp shortMem
    obtain ⟨second, longFound⟩ := List.mem_iff_getElem?.mp longMem
    exact (due first short shortFound).2.restores (due second long longFound).2 cut longer

end RepaymentTerms

end LoanBook
