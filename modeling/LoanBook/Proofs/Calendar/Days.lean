import LoanBook.Proofs.Calendar.Months
import Mathlib.Order.SuccPred.LinearLocallyFinite

/-!
# Days of the calendar

Days are counted through the months: each month starts where the one before it ends, by the length
that a month has in its year.  So a later date has a greater number, and an instant that lies more
months after the same start comes later in seconds too.
-/

namespace LoanBook.Calendar

namespace Date

theorem daysBeforeMonth_succ (year : Int) {month : Nat} (one_le : 1 ≤ month) :
    daysBeforeMonth year (month + 1) = daysBeforeMonth year month + monthLength year month := by
  obtain ⟨earlier, rfl⟩ := Nat.exists_eq_add_of_le' one_le
  simp [daysBeforeMonth, List.range'_concat, Nat.add_comm]

/-- The months of a year are its days, 366 of them in a leap year. -/
theorem daysBeforeYear_succ (year : Int) :
    daysBeforeYear (year + 1) = daysBeforeYear year + daysBeforeMonth year 13 := by
  have days : daysBeforeMonth year 13 = if isLeapYear year then 366 else 365 := by
    cases leap : isLeapYear year <;> simp [daysBeforeMonth, monthLength, leap, List.range']
  rw [days]
  unfold daysBeforeYear isLeapYear
  grind

/-- The number of the first day of a month, for a month counted from the start of year zero. -/
def monthStart (number : Int) : Int :=
  daysBeforeYear (number / 12) + daysBeforeMonth (number / 12) ((number % 12).toNat + 1) - epoch

theorem monthStart_succ (number : Int) :
    monthStart (number + 1) =
      monthStart number + monthLength (number / 12) ((number % 12).toNat + 1) := by
  have next := daysBeforeMonth_succ (number / 12) (Nat.le_add_left 1 (number % 12).toNat)
  by_cases december : number % 12 = 11
  · have year : (number + 1) / 12 = number / 12 + 1 := by omega
    have january : (number + 1) % 12 = 0 := by omega
    have noDays : daysBeforeMonth (number / 12 + 1) 1 = 0 := rfl
    unfold monthStart
    rw [year, january, daysBeforeYear_succ]
    rw [december] at next ⊢
    simp only [Int.reduceToNat, Nat.reduceAdd] at next ⊢
    omega
  · have year : (number + 1) / 12 = number / 12 := by omega
    have month : ((number + 1) % 12).toNat = (number % 12).toNat + 1 := by omega
    unfold monthStart
    rw [year, month]
    omega

theorem monthStart_mono {number later : Int} (le : number ≤ later) :
    monthStart number ≤ monthStart later := by
  refine monotone_int_of_le_succ (fun month => ?_) le
  rw [monthStart_succ]
  omega

theorem dayNumber_eq (date : Date) :
    date.dayNumber = monthStart date.monthNumber + (date.day - 1) := by
  have year := date.year_eq
  have month := date.month_eq
  unfold monthStart dayNumber
  rw [← year, ← month]
  omega

theorem dayNumber_lt_monthStart (date : Date) :
    date.dayNumber < monthStart (date.monthNumber + 1) := by
  have day := date.day_inRange.2
  rw [date.year_eq, date.month_eq] at day
  rw [dayNumber_eq, monthStart_succ]
  omega

/-- A later date has a greater number. -/
theorem dayNumber_lt_of_lt {earlier later : Date} (less : earlier < later) :
    earlier.dayNumber < later.dayNumber := by
  rcases less with month | ⟨month, day⟩
  · have starts : monthStart (earlier.monthNumber + 1) ≤ monthStart later.monthNumber :=
      monthStart_mono (Int.add_one_le_of_lt month)
    have before := earlier.dayNumber_lt_monthStart
    have first := later.day_inRange.1
    rw [later.dayNumber_eq]
    omega
  · rw [dayNumber_eq, dayNumber_eq, month]
    omega

end Date

namespace Instant

/-- More months lead to more seconds. -/
theorem IsMonthsAfter.unixSeconds_lt {start earlier later : Instant} {fewer more : Nat}
    (less : fewer < more) (isEarlier : start.IsMonthsAfter fewer earlier)
    (isLater : start.IsMonthsAfter more later) : earlier.unixSeconds < later.unixSeconds := by
  have month : earlier.date.monthNumber < later.date.monthNumber := by
    rw [isEarlier.month, isLater.month]
    omega
  have days := Date.dayNumber_lt_of_lt (Date.lt_of_monthNumber_lt month)
  have second : earlier.second = later.second := isEarlier.second.trans isLater.second.symm
  unfold unixSeconds daySeconds
  omega

end Instant

end LoanBook.Calendar
