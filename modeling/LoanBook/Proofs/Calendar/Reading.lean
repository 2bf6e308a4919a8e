import LoanBook.Calendar.Timestamp
import LoanBook.Proofs.Text.Digits

/-!
# Instants read back

An instant is read back from its text, in any year of the calendar, with its fraction of a second,
and also when it is a leap second.
-/

namespace LoanBook.Calendar.Instant

open LoanBook.Text

/-! ## Numbers and marks -/

theorem isBlank_eq_false_of_isDigit {c : Char} (isDigit : c.isDigit = true) : isBlank c = false := by
  have each : ∀ code < 58, (Char.ofNat code).isDigit = true →
      isBlank (Char.ofNat code) = false := by decide +kernel
  have code := each c.toNat
  rw [Char.ofNat_toNat] at code
  refine code ?_ isDigit
  simp only [Char.isDigit, Bool.and_eq_true, decide_eq_true_eq] at isDigit
  exact Nat.lt_succ_of_le isDigit.2

@[simp]
theorem skipBlanks_cons {c : Char} (rest : List Char) (notBlank : isBlank c = false) :
    skipBlanks (c :: rest) = c :: rest := by
  simp [skipBlanks, notBlank]

section Numbers

variable {digits rest : List Char} {width number : Nat}

theorem skipBlanks_digits (each : ∀ c ∈ digits, c.isDigit = true) (some : digits ≠ []) :
    skipBlanks (digits ++ rest) = digits ++ rest := by
  cases digits with
  | nil => exact absurd rfl some
  | cons c digits =>
      exact skipBlanks_cons _ (isBlank_eq_false_of_isDigit (each c List.mem_cons_self))

/-- A number is read up to the width asked for, or up to where its digits end. -/
theorem readNumber?_digits (each : ∀ c ∈ digits, c.isDigit = true) (some : digits ≠ [])
    (fits : digits.length ≤ width) (ends : EndsDigits (rest.take (width - digits.length))) :
    readNumber? width (digits ++ rest) = .some (Nat.ofDigitChars 10 digits 0, rest) := by
  have taken : ((digits ++ rest).take width).takeWhile Char.isDigit = digits := by
    rw [List.take_append, List.take_of_length_le fits]
    exact takeWhile_digits each ends
  simp [readNumber?, taken, some]

theorem padded_isDigit : ∀ c ∈ padded width number, c.isDigit = true :=
  fun _ member => isDigit_of_mem_padded member

theorem padded_nonempty : padded width number ≠ [] :=
  padded_ne_nil

theorem readNumber?_padded (positive : 0 < width) (less : number < 10 ^ width) :
    readNumber? width (padded width number ++ rest) = some (number, rest) := by
  have length : (padded width number).length = width := length_padded positive less
  rw [readNumber?_digits padded_isDigit padded_nonempty
    (Nat.le_of_eq length) (by rw [length, Nat.sub_self]; simp), padded, ofDigitChars_padded]

@[simp]
theorem readTwo?_padded (less : number < 100) :
    readTwo? (padded 2 number ++ rest) = some (number, rest) := by
  rw [readTwo?, skipBlanks_digits padded_isDigit padded_nonempty,
    readNumber?_padded (by decide) less]

@[simp]
theorem readMark?_cons {mark : Char} (notBlank : isBlank mark = false) :
    readMark? mark (mark :: rest) = some rest := by
  simp [readMark?, notBlank]

end Numbers

/-! ## Dates -/

variable {rest : List Char}

theorem readYear?_yearChars (year : Int) :
    readYear? (yearChars year ++ '-' :: rest) = some (year, '-' :: rest) := by
  unfold yearChars
  split
  · rename_i fourDigits
    have digits := @padded_isDigit 4 year.natAbs
    have number := @readNumber?_padded ('-' :: rest) 4 year.natAbs (by decide) (by omega)
    have same : (year.natAbs : Int) = year := by omega
    obtain ⟨c, later, split⟩ :=
      List.exists_cons_of_ne_nil (@padded_nonempty 4 year.natAbs)
    rw [readYear?, skipBlanks_digits digits padded_nonempty]
    rw [split] at digits number ⊢
    have first := digits c List.mem_cons_self
    split
    · rename_i sign
      cases sign
      simp at first
    · rename_i sign
      cases sign
      simp at first
    · rw [number]
      exact congrArg (fun year => some (year, '-' :: rest)) same
  · rename_i signed
    have number {width : Nat} (fits : (padded 4 year.natAbs).length ≤ width) :
        readNumber? width (padded 4 year.natAbs ++ '-' :: rest) =
          some (year.natAbs, '-' :: rest) := by
      rw [readNumber?_digits padded_isDigit padded_nonempty fits,
        padded, ofDigitChars_padded]
      cases width - (padded 4 year.natAbs).length <;> simp
    by_cases negative : year < 0
    · have same : -(year.natAbs : Int) = year := by omega
      have notBlank : isBlank '-' = false := by decide
      rw [if_pos negative, List.cons_append, readYear?, skipBlanks_cons _ notBlank]
      show Option.map _ (readNumber? _ (padded 4 year.natAbs ++ '-' :: rest)) = _
      rw [number (by simp)]
      exact congrArg (fun year => some (year, '-' :: rest)) same
    · have same : (year.natAbs : Int) = year := by omega
      have notBlank : isBlank '+' = false := by decide
      rw [if_neg negative, List.cons_append, readYear?, skipBlanks_cons _ notBlank]
      show Option.map _ (readNumber? _ (padded 4 year.natAbs ++ '-' :: rest)) = _
      rw [number (by simp)]
      exact congrArg (fun year => some (year, '-' :: rest)) same

theorem readDate?_chars (date : Date) :
    readDate? (yearChars date.year ++ '-' :: (padded 2 date.month ++
      '-' :: (padded 2 date.day ++ rest))) = some (date, rest) := by
  have month : date.month < 100 := by
    have := date.month_inRange
    omega
  have day : date.day < 100 := by
    have := date.day_inRange
    have : monthLength date.year date.month ≤ 31 := by
      unfold monthLength
      split
      · split <;> decide
      · split <;> decide
    omega
  have notBlank : isBlank '-' = false := by decide
  simp [readDate?, readYear?_yearChars, notBlank, month, day,
    Date.of?_eq_some date.year_inRange date.month_inRange date.day_inRange]

/-! ## Times -/

/-- A fraction of at most nine digits is read in nanoseconds. -/
theorem readFraction?_padded {width number : Nat} (positive : 0 < width) (atMost : width ≤ 9)
    (less : number < 10 ^ width) (ends : EndsDigits rest) :
    readFraction? ('.' :: (padded width number ++ rest)) =
      some (number * 10 ^ (9 - width), rest) := by
  have length : (padded width number).length = width := length_padded positive less
  have taken := takeWhile_digits (@padded_isDigit width number) ends
  have filled : Nat.ofDigitChars 10 (padded width number ++
      List.replicate (9 - (padded width number).length) '0') 0 = number * 10 ^ (9 - width) := by
    rw [Nat.ofDigitChars_append, Nat.ofDigitChars_replicate_zero, length, padded,
      ofDigitChars_padded, Nat.mul_comm]
  have short : (padded width number).take 9 = padded width number :=
    List.take_of_length_le (by omega)
  simp [readFraction?, taken, short, filled, padded_nonempty]

theorem readFraction?_fractionChars {nanos : Nat} (less : nanos < secondNanos)
    (ends : EndsDigits rest) (noPoint : rest.head? ≠ some '.') :
    readFraction? (fractionChars nanos ++ rest) = some (nanos, rest) := by
  unfold secondNanos at less
  unfold fractionChars
  split
  · rename_i whole
    rw [List.nil_append, whole]
    unfold readFraction?
    split
    · exact absurd rfl noPoint
    · rfl
  · split
    · rw [List.cons_append, readFraction?_padded (by decide) (by decide) (by omega) ends]
      exact congrArg (fun nanos => some (nanos, rest)) (by omega)
    · split
      · rw [List.cons_append, readFraction?_padded (by decide) (by decide) (by omega) ends]
        exact congrArg (fun nanos => some (nanos, rest)) (by omega)
      · rw [List.cons_append, readFraction?_padded (by decide) (by decide) (by omega) ends]
        exact congrArg (fun nanos => some (nanos, rest)) (by omega)

/-- The characters of a clock with a fraction of a second, in UTC. -/
def clockChars (hour minute second nanos : Nat) : List Char :=
  padded 2 hour ++ ':' :: (padded 2 minute ++ ':' :: (padded 2 second ++
    (fractionChars nanos ++ ['Z'])))

/-- A clock that shows second 60 is in the leap second after second 59. -/
theorem readTime?_clockChars {hour minute second nanos : Nat} (hourLt : hour < 24)
    (minuteLt : minute < 60) (secondLe : second ≤ 60) (nanosLt : nanos < secondNanos) :
    readTime? (clockChars hour minute second nanos) =
      some (if second = 60 then (hour * 3600 + minute * 60 + 59, secondNanos + nanos)
        else (hour * 3600 + minute * 60 + second, nanos), ['Z']) := by
  have fraction := @readFraction?_fractionChars ['Z'] nanos nanosLt (by simp) (by simp)
  have colon : isBlank ':' = false := by decide
  have zone : skipBlanks ['Z'] = ['Z'] := by decide
  have hourShort : hour < 100 := by omega
  have minuteShort : minute < 100 := by omega
  have secondShort : second < 100 := by omega
  by_cases leap : second = 60
  · simp [readTime?, clockChars, leap, colon, zone, fraction, hourLt, minuteLt, hourShort,
      minuteShort]
  · simp [readTime?, clockChars, leap, colon, zone, fraction, hourLt, minuteLt, secondLe,
      hourShort, minuteShort, secondShort]

/-- The clock of an instant shows its second of the day, and second 60 in a leap second. -/
theorem readTime?_instant (instant : Instant) :
    readTime? (clockChars (instant.second / 3600) (instant.second / 60 % 60)
      (instant.second % 60 + if secondNanos ≤ instant.nanosecond then 1 else 0)
      (if secondNanos ≤ instant.nanosecond then instant.nanosecond - secondNanos
        else instant.nanosecond)) =
      some ((instant.second, instant.nanosecond), ['Z']) := by
  have ofDay := instant.second_lt
  unfold daySeconds at ofDay
  have hour : instant.second / 3600 < 24 := by omega
  have minute : instant.second / 60 % 60 < 60 := by omega
  have total : instant.second / 3600 * 3600 + instant.second / 60 % 60 * 60 +
      instant.second % 60 = instant.second := by omega
  have nanos := instant.nanosecond_lt
  by_cases leap : secondNanos ≤ instant.nanosecond
  · have last := instant.leap_second leap
    obtain ⟨past, split⟩ := Nat.exists_eq_add_of_le leap
    rw [if_pos leap, if_pos leap, last, split, Nat.add_sub_cancel_left,
      readTime?_clockChars hour minute (Nat.le_refl 60) (by omega), if_pos rfl, ← last, total]
  · rw [if_neg leap, if_neg leap, readTime?_clockChars hour minute (by omega) (by omega),
      if_neg (by omega), Nat.add_zero, total]

theorem ofLocal?_utc (instant : Instant) :
    ofLocal? instant.date instant.second instant.nanosecond 0 = some instant := by
  have ofDay := instant.second_lt
  have shifted : (instant.second : Int) - 60 * 0 = instant.second := by omega
  have same : ((instant.second : Int) % daySeconds).toNat = instant.second := by
    rw [Int.emod_eq_of_lt (by omega) (by omega), Int.toNat_natCast]
  unfold ofLocal?
  dsimp only
  rw [if_pos (by decide)]
  simp only [shifted, same]
  rw [if_neg (by omega), if_pos (by omega), Option.bind_some]
  exact dif_pos ⟨instant.second_lt, instant.nanosecond_lt, instant.leap_second⟩

/-- A date and a clock in UTC are read as the instant that they show. -/
theorem ofChars?_of_readTime? {date : Date} {clock : List Char} {second nanosecond : Nat}
    (time : readTime? clock = some ((second, nanosecond), ['Z'])) :
    ofChars? (yearChars date.year ++ '-' :: (padded 2 date.month ++
      '-' :: (padded 2 date.day ++ 'T' :: clock))) = ofLocal? date second nanosecond 0 := by
  have zone : readZone? ['Z'] = some (0, []) := rfl
  rw [ofChars?, readDate?_chars]
  simp only [bind, Option.bind, readDivider?, true_or, if_true, time, zone]
  rfl

@[simp]
theorem ofText?_toText (instant : Instant) : ofText? instant.toText = some instant := by
  have chars : instant.toChars = yearChars instant.date.year ++
      '-' :: (padded 2 instant.date.month ++ '-' :: (padded 2 instant.date.day ++
        'T' :: clockChars (instant.second / 3600) (instant.second / 60 % 60)
          (instant.second % 60 + if secondNanos ≤ instant.nanosecond then 1 else 0)
          (if secondNanos ≤ instant.nanosecond then instant.nanosecond - secondNanos
            else instant.nanosecond))) := by
    simp only [toChars, clockChars, List.append_assoc, List.cons_append]
  rw [ofText?, toText, String.toList_ofList, chars, ofChars?_of_readTime? (readTime?_instant instant),
    ofLocal?_utc]

end LoanBook.Calendar.Instant
