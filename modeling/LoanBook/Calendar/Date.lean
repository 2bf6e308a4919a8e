/-!
# Civil dates

Dates of the proleptic Gregorian calendar, with a year from -262143 to 262142. `Date.addMonths?`
moves by whole months and clamps the day to the length of the month it lands in.
`Date.dayNumber` counts days from 1970-01-01.
-/

namespace LoanBook.Calendar

/-- Every fourth year is a leap year, of the full centuries only every fourth. -/
def isLeapYear (year : Int) : Bool :=
  year % 4 == 0 && (year % 100 != 0 || year % 400 == 0)

/-- The number of days of a month, counted from one. -/
def monthLength (year : Int) (month : Nat) : Nat :=
  if month = 2 then if isLeapYear year then 29 else 28
  else if month = 4 ∨ month = 6 ∨ month = 9 ∨ month = 11 then 30
  else 31

def firstYear : Int := -262143

def lastYear : Int := 262142

/-- Every month has at least 28 days. -/
theorem le_monthLength (year : Int) (month : Nat) : 28 ≤ monthLength year month := by
  unfold monthLength
  split
  · split <;> decide
  · split <;> decide

/-- A date of the calendar. -/
structure Date where
  year : Int
  month : Nat
  day : Nat
  year_inRange : firstYear ≤ year ∧ year ≤ lastYear
  month_inRange : 1 ≤ month ∧ month ≤ 12
  day_inRange : 1 ≤ day ∧ day ≤ monthLength year month
deriving DecidableEq

namespace Date

/-- The date with the given year, month and day, if there is one. -/
def of? (year : Int) (month day : Nat) : Option Date :=
  if valid : (firstYear ≤ year ∧ year ≤ lastYear) ∧ (1 ≤ month ∧ month ≤ 12) ∧
      1 ≤ day ∧ day ≤ monthLength year month then
    some ⟨year, month, day, valid.1, valid.2.1, valid.2.2⟩
  else none

/-- Months counted from the start of year zero. -/
def monthNumber (date : Date) : Int :=
  12 * date.year + (date.month - 1)

/-- The date so many months later, on the same day or on the last of a shorter month; none past
the last year in range. -/
def addMonths? (date : Date) (months : Nat) : Option Date :=
  let number := date.monthNumber + months
  let year := number / 12
  let month := (number % 12).toNat + 1
  of? year month (min date.day (monthLength year month))

def next? (date : Date) : Option Date :=
  if date.day < monthLength date.year date.month then of? date.year date.month (date.day + 1)
  else if date.month < 12 then of? date.year (date.month + 1) 1
  else of? (date.year + 1) 1 1

/-- The day before; none before the first year in range. -/
def previous? (date : Date) : Option Date :=
  if 1 < date.day then of? date.year date.month (date.day - 1)
  else if 1 < date.month then
    of? date.year (date.month - 1) (monthLength date.year (date.month - 1))
  else of? (date.year - 1) 12 31

/-- The days of a year before a month. -/
def daysBeforeMonth (year : Int) (month : Nat) : Nat :=
  (List.range' 1 (month - 1)).foldl (fun days earlier => days + monthLength year earlier) 0

/-- The days from the start of year one to the start of a year. -/
def daysBeforeYear (year : Int) : Int :=
  let past := year - 1
  365 * past + past / 4 - past / 100 + past / 400

/-- The days from the start of year one to 1970-01-01. -/
def epoch : Int := 719162

/-- The number of days since 1970-01-01. -/
def dayNumber (date : Date) : Int :=
  daysBeforeYear date.year + daysBeforeMonth date.year date.month + (date.day - 1) - epoch

/-- Finds the month of a day of the year, counted from zero, among months not yet passed. -/
def ofDayOfYear? (year : Int) (month day : Nat) : (months : Nat) → Option Date
  | 0 => none
  | months + 1 =>
    if day < monthLength year month then of? year month (day + 1)
    else ofDayOfYear? year (month + 1) (day - monthLength year month) months

/-- The date of a number of days since 1970-01-01. The mean length of a year places the day within
one year of the estimate. -/
def ofDayNumber? (number : Int) : Option Date :=
  let days := number + epoch
  let estimate := days * 400 / 146097 + 1
  let year :=
    if days < daysBeforeYear estimate then estimate - 1
    else if daysBeforeYear (estimate + 1) ≤ days then estimate + 1
    else estimate
  ofDayOfYear? year 1 (days - daysBeforeYear year).toNat 12

theorem of?_eq_some {year : Int} {month day : Nat}
    (year_inRange : firstYear ≤ year ∧ year ≤ lastYear) (month_inRange : 1 ≤ month ∧ month ≤ 12)
    (day_inRange : 1 ≤ day ∧ day ≤ monthLength year month) :
    of? year month day = some ⟨year, month, day, year_inRange, month_inRange, day_inRange⟩ :=
  dif_pos ⟨year_inRange, month_inRange, day_inRange⟩

end Date

end LoanBook.Calendar
