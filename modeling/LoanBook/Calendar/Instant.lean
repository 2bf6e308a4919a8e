import LoanBook.Calendar.Date

/-!
# Instants

An instant is a date, a second of that day and nanoseconds, all in UTC. A leap second is the
second of a minute numbered 59 whose nanoseconds go on past one billion. Unix time counts seconds
since 1970-01-01 and gives a leap second the number of the second before it.
-/

namespace LoanBook.Calendar

/-- The seconds of a day without leap seconds. -/
def daySeconds : Nat := 86400

/-- The nanoseconds of a second. -/
def secondNanos : Nat := 1000000000

/-- A point in time, in UTC. -/
structure Instant where
  date : Date
  second : Nat
  nanosecond : Nat
  second_lt : second < daySeconds
  nanosecond_lt : nanosecond < 2 * secondNanos
  leap_second : secondNanos ≤ nanosecond → second % 60 = 59
deriving DecidableEq

namespace Instant

/-- The instant so many months later at the same time of day; none past the last year in range. -/
def addMonths? (instant : Instant) (months : Nat) : Option Instant :=
  (instant.date.addMonths? months).map fun date => { instant with date }

/-- Seconds since 1970-01-01, without those of a fraction or of a leap second. -/
def unixSeconds (instant : Instant) : Int :=
  instant.date.dayNumber * daySeconds + instant.second

/-- The instant of a number of seconds since 1970-01-01; none out of the calendar's range. -/
def ofUnixSeconds? (seconds : Int) : Option Instant :=
  (Date.ofDayNumber? (seconds / daySeconds)).map fun date =>
    { date
      second := (seconds % daySeconds).toNat
      nanosecond := 0
      second_lt := by simp only [daySeconds]; omega
      nanosecond_lt := by decide
      leap_second := by simp [secondNanos] }

/-- The instant so many seconds later, or earlier. A move out of a leap second starts from its end
when it goes back, and from the second before it when it goes forward. -/
def addSeconds? (instant : Instant) (seconds : Int) : Option Instant :=
  if seconds = 0 then some instant
  else
    let isLeap := secondNanos ≤ instant.nanosecond
    let start := instant.unixSeconds + if isLeap ∧ seconds < 0 then 1 else 0
    (ofUnixSeconds? (start + seconds)).map fun moved =>
      { moved with
        nanosecond := instant.nanosecond % secondNanos
        nanosecond_lt := by
          have small := Nat.mod_lt instant.nanosecond (show 0 < secondNanos by decide)
          omega
        leap_second := fun late => by
          have small := Nat.mod_lt instant.nanosecond (show 0 < secondNanos by decide)
          omega }

/-- Moving by months keeps the time of day. -/
theorem addMonths?_time {instant later : Instant} {months : Nat}
    (moved : instant.addMonths? months = some later) :
    later.second = instant.second ∧ later.nanosecond = instant.nanosecond := by
  obtain ⟨date, _, rfl⟩ := Option.map_eq_some_iff.1 moved
  exact ⟨rfl, rfl⟩

end Instant

end LoanBook.Calendar
