import LoanBook.Calendar.Instant

/-!
# Moving by months

Moving by months lands in the month so many later, on the same day or on the last of a shorter
month, as long as that month is in the calendar.  Whatever the days become, a move by more months
leads to a later instant.
-/

namespace LoanBook.Calendar

/-- Dates in the order of the calendar: by month and then by day. -/
instance : LT Date := ⟨fun earlier later => earlier.monthNumber < later.monthNumber ∨
  earlier.monthNumber = later.monthNumber ∧ earlier.day < later.day⟩

/-- Instants in the order of time: by date and then by the time of day. -/
instance : LT Instant := ⟨fun earlier later => earlier.date < later.date ∨
  earlier.date = later.date ∧ (earlier.second < later.second ∨
    earlier.second = later.second ∧ earlier.nanosecond < later.nanosecond)⟩

namespace Date

/-- The number of days of the month that a date is in. -/
def daysInMonth (date : Date) : Nat :=
  monthLength date.year date.month

/-- The last month in range, counted from the start of year zero. -/
def lastMonthNumber : Int :=
  12 * lastYear + 11

theorem lt_of_monthNumber_lt {earlier later : Date}
    (less : earlier.monthNumber < later.monthNumber) : earlier < later :=
  Or.inl less

theorem year_eq (date : Date) : date.year = date.monthNumber / 12 := by
  have month := date.month_inRange
  unfold monthNumber
  omega

theorem month_eq (date : Date) : date.month = (date.monthNumber % 12).toNat + 1 := by
  have month := date.month_inRange
  unfold monthNumber
  omega

theorem monthNumber_le (date : Date) : date.monthNumber ≤ lastMonthNumber := by
  have year := date.year_inRange
  have month := date.month_inRange
  unfold monthNumber lastMonthNumber
  omega

/-- A date is known by its month and its day. -/
theorem eq_of_monthNumber_eq {date other : Date} (month : date.monthNumber = other.monthNumber)
    (day : date.day = other.day) : date = other := by
  have yearEq := date.year_eq
  have monthEq := date.month_eq
  rw [month, ← other.year_eq] at yearEq
  rw [month, ← other.month_eq] at monthEq
  cases date
  cases other
  simp_all

variable {date later : Date} {months : Nat}

/-- A date can be moved as far as the last month in range. -/
theorem isSome_addMonths?_iff :
    (date.addMonths? months).isSome ↔ date.monthNumber + months ≤ lastMonthNumber := by
  have year := date.year_inRange
  have month := date.month_inRange
  have day := date.day_inRange
  have length := le_monthLength ((date.monthNumber + months) / 12)
    (((date.monthNumber + months) % 12).toNat + 1)
  unfold addMonths? of?
  dsimp only
  split
  · rename_i valid
    obtain ⟨⟨_, yearLe⟩, _⟩ := valid
    simp only [Option.isSome_some, true_iff, lastMonthNumber]
    omega
  · rename_i invalid
    simp only [Option.isSome_none, Bool.false_eq_true, false_iff, lastMonthNumber]
    intro inRange
    refine invalid ⟨⟨?_, ?_⟩, by omega, by omega, by omega⟩
    · simp only [monthNumber]
      omega
    · omega

/-- The month and the day that a move by months leads to. -/
theorem addMonths?_eq_some_iff : date.addMonths? months = some later ↔
    later.monthNumber = date.monthNumber + months ∧ later.day = min date.day later.daysInMonth := by
  have forward {later : Date} (moved : date.addMonths? months = some later) :
      later.monthNumber = date.monthNumber + months ∧
        later.day = min date.day later.daysInMonth := by
    unfold addMonths? of? at moved
    dsimp only at moved
    split at moved
    · cases Option.some.inj moved
      refine ⟨?_, rfl⟩
      simp only [monthNumber]
      omega
    · cases moved
  refine ⟨forward, fun ⟨month, day⟩ => ?_⟩
  have inRange : (date.addMonths? months).isSome := by
    rw [isSome_addMonths?_iff, ← month]
    exact later.monthNumber_le
  obtain ⟨other, moved⟩ := Option.isSome_iff_exists.mp inRange
  obtain ⟨otherMonth, otherDay⟩ := forward moved
  have sameMonth : other.monthNumber = later.monthNumber := otherMonth.trans month.symm
  have sameDays : other.daysInMonth = later.daysInMonth := by
    unfold daysInMonth
    rw [other.year_eq, other.month_eq, later.year_eq, later.month_eq, sameMonth]
  rw [moved, eq_of_monthNumber_eq sameMonth (by rw [otherDay, day, sameDays])]

end Date

namespace Instant

/-- An instant lies some months after another: in the month so many later, on the same day of it or
on the last day of a shorter month, and at the same time of day. -/
structure IsMonthsAfter (start : Instant) (months : Nat) (later : Instant) : Prop where
  month : later.date.monthNumber = start.date.monthNumber + months
  day : later.date.day = min start.date.day later.date.daysInMonth
  second : later.second = start.second
  nanosecond : later.nanosecond = start.nanosecond

variable {start earlier later : Instant} {months fewer more : Nat}

theorem addMonths?_eq_some_iff :
    start.addMonths? months = some later ↔ start.IsMonthsAfter months later := by
  constructor
  · intro moved
    obtain ⟨second, nanosecond⟩ := addMonths?_time moved
    obtain ⟨date, dateMoved, rfl⟩ := Option.map_eq_some_iff.mp moved
    obtain ⟨month, day⟩ := Date.addMonths?_eq_some_iff.mp dateMoved
    exact ⟨month, day, second, nanosecond⟩
  · rintro ⟨month, day, second, nanosecond⟩
    refine Option.map_eq_some_iff.mpr
      ⟨later.date, Date.addMonths?_eq_some_iff.mpr ⟨month, day⟩, ?_⟩
    cases later
    simp_all

theorem isSome_addMonths?_iff : (start.addMonths? months).isSome ↔
    start.date.monthNumber + months ≤ Date.lastMonthNumber := by
  rw [addMonths?, Option.isSome_map, Date.isSome_addMonths?_iff]

theorem isSome_addMonths?_of_le (less : fewer ≤ more)
    (dated : (start.addMonths? more).isSome) : (start.addMonths? fewer).isSome := by
  rw [isSome_addMonths?_iff] at dated ⊢
  omega

theorem IsMonthsAfter.le_lastMonthNumber (isLater : start.IsMonthsAfter months later) :
    start.date.monthNumber + months ≤ Date.lastMonthNumber := by
  rw [← isLater.month]
  exact later.date.monthNumber_le

/-- More months lead to a later instant. -/
theorem IsMonthsAfter.lt (less : fewer < more) (isEarlier : start.IsMonthsAfter fewer earlier)
    (isLater : start.IsMonthsAfter more later) : earlier < later := by
  refine Or.inl (Date.lt_of_monthNumber_lt ?_)
  rw [isEarlier.month, isLater.month]
  omega

/-- A day that a short month has cut off comes back in a longer one. -/
theorem IsMonthsAfter.restores {short long : Instant} (isShort : start.IsMonthsAfter fewer short)
    (isLong : start.IsMonthsAfter more long) (cut : short.date.day < start.date.day)
    (longer : short.date.daysInMonth < long.date.daysInMonth) :
    short.date.day < long.date.day ∧
      (start.date.day ≤ long.date.daysInMonth → long.date.day = start.date.day) := by
  have shortDay := isShort.day
  have longDay := isLong.day
  omega

end Instant

end LoanBook.Calendar
