import LoanBook.Calendar.Instant
import LoanBook.Text.Blank

/-!
# Instants as text

An instant is written `2024-01-15T09:30:00Z`, with a fraction of three, six or nine digits, as few
as are exact. Years outside of four digits have a sign and at least four digits, and a leap second
is written as second 60.

Reading takes numbers of one or two digits, white space before numbers and marks, `T`, `t` or one
space between the date and the time, a fraction of any length cut after nine digits, and an
offset: `Z`, `UTC` or hours and minutes below a day.
-/

namespace LoanBook.Calendar.Instant

open LoanBook.Text (skipBlanks)

/-! ## Writing -/

/-- A number of at least `width` digits. -/
def padded (width number : Nat) : List Char :=
  (Nat.toDigits 10 number).leftpad width '0'

/-- A year of four digits, or with a sign. -/
def yearChars (year : Int) : List Char :=
  if 0 ≤ year ∧ year ≤ 9999 then padded 4 year.natAbs
  else (if year < 0 then '-' else '+') :: padded 4 year.natAbs

/-- The fraction of a second in three, six or nine digits; none for a whole second. -/
def fractionChars (nanos : Nat) : List Char :=
  if nanos = 0 then []
  else if nanos % 1000000 = 0 then '.' :: padded 3 (nanos / 1000000)
  else if nanos % 1000 = 0 then '.' :: padded 6 (nanos / 1000)
  else '.' :: padded 9 nanos

def toChars (instant : Instant) : List Char :=
  let isLeap := secondNanos ≤ instant.nanosecond
  yearChars instant.date.year ++ '-' :: padded 2 instant.date.month ++
    '-' :: padded 2 instant.date.day ++
    'T' :: padded 2 (instant.second / 3600) ++
    ':' :: padded 2 (instant.second / 60 % 60) ++
    ':' :: padded 2 (instant.second % 60 + if isLeap then 1 else 0) ++
    fractionChars (if isLeap then instant.nanosecond - secondNanos else instant.nanosecond) ++
    ['Z']

def toText (instant : Instant) : String :=
  String.ofList instant.toChars

/-! ## Reading -/

/-- Reads a number of one digit or more, at most `width` of them. -/
def readNumber? (width : Nat) (cs : List Char) : Option (Nat × List Char) :=
  let digits := (cs.take width).takeWhile Char.isDigit
  if digits.isEmpty then none
  else some (Nat.ofDigitChars 10 digits 0, cs.drop digits.length)

def readMark? (mark : Char) (cs : List Char) : Option (List Char) :=
  match skipBlanks cs with
  | c :: rest => if c = mark then some rest else none
  | [] => none

/-- Reads a year: up to four digits, or a sign and any number of them. -/
def readYear? (cs : List Char) : Option (Int × List Char) :=
  match skipBlanks cs with
  | '-' :: rest => (readNumber? rest.length rest).map fun found => (-(found.1 : Int), found.2)
  | '+' :: rest => (readNumber? rest.length rest).map fun found => ((found.1 : Int), found.2)
  | rest => (readNumber? 4 rest).map fun found => ((found.1 : Int), found.2)

def readTwo? (cs : List Char) : Option (Nat × List Char) :=
  readNumber? 2 (skipBlanks cs)

def readDate? (cs : List Char) : Option (Date × List Char) := do
  let (year, cs) ← readYear? cs
  let cs ← readMark? '-' cs
  let (month, cs) ← readTwo? cs
  let cs ← readMark? '-' cs
  let (day, cs) ← readTwo? cs
  let date ← Date.of? year month day
  return (date, cs)

/-- Reads what stands between the date and the time. -/
def readDivider? : List Char → Option (List Char)
  | c :: rest => if c = 'T' ∨ c = 't' ∨ c = ' ' then some rest else none
  | [] => none

/-- Reads a fraction of a second in nanoseconds; digits after the ninth do not count. -/
def readFraction? : List Char → Option (Nat × List Char)
  | '.' :: rest =>
    let digits := rest.takeWhile Char.isDigit
    if digits.isEmpty then none
    else some (Nat.ofDigitChars 10 ((digits.take 9).rightpad 9 '0') 0, rest.drop digits.length)
  | cs => some (0, cs)

/-- Reads a time of day: its second, and nanoseconds that go past one billion in a leap second. -/
def readTime? (cs : List Char) : Option ((Nat × Nat) × List Char) := do
  let (hour, cs) ← readTwo? cs
  let cs ← readMark? ':' cs
  let (minute, cs) ← readTwo? cs
  let cs ← readMark? ':' cs
  let (second, cs) ← readTwo? cs
  let (nanos, cs) ← readFraction? cs
  if hour < 24 ∧ minute < 60 ∧ second ≤ 60 then
    if second = 60 then
      return ((hour * 3600 + minute * 60 + 59, secondNanos + nanos), skipBlanks cs)
    else return ((hour * 3600 + minute * 60 + second, nanos), skipBlanks cs)
  else none

/-- Reads the hours and minutes of an offset, in minutes; the minutes must be below sixty. -/
def readOffset? (cs : List Char) : Option (Nat × List Char) :=
  match cs with
  | a :: b :: rest =>
    if a.isDigit ∧ b.isDigit then
      match rest.dropWhile (fun c => c == ':' || Text.isBlank c) with
      | c :: d :: rest =>
        if c.isDigit ∧ d.isDigit ∧ c ≤ '5' then
          some (Nat.ofDigitChars 10 [a, b] 0 * 60 + Nat.ofDigitChars 10 [c, d] 0, rest)
        else none
      | _ => none
    else none
  | _ => none

/-- Reads a zone: the minutes by which its clocks are ahead of UTC. -/
def readZone? : List Char → Option (Int × List Char)
  | 'Z' :: rest => some (0, rest)
  | 'z' :: rest => some (0, rest)
  | '+' :: rest => (readOffset? rest).map fun found => ((found.1 : Int), found.2)
  | '-' :: rest => (readOffset? rest).map fun found => (-(found.1 : Int), found.2)
  | '\u2212' :: rest => (readOffset? rest).map fun found => (-(found.1 : Int), found.2)
  | u :: t :: c :: rest =>
    if u.toUpper = 'U' ∧ t.toUpper = 'T' ∧ c.toUpper = 'C' then some (0, rest) else none
  | _ => none

/-- The instant of a local date and time whose clocks are so many minutes ahead of UTC, less than
a day. -/
def ofLocal? (date : Date) (second nanosecond : Nat) (ahead : Int) : Option Instant :=
  if -1440 < ahead ∧ ahead < 1440 then
    let shifted : Int := second - 60 * ahead
    let moved :=
      if shifted < 0 then date.previous?
      else if shifted < daySeconds then some date
      else date.next?
    moved.bind fun date =>
      let second := (shifted % daySeconds).toNat
      if valid : second < daySeconds ∧ nanosecond < 2 * secondNanos ∧
          (secondNanos ≤ nanosecond → second % 60 = 59) then
        some ⟨date, second, nanosecond, valid.1, valid.2.1, valid.2.2⟩
      else none
  else none

def ofChars? (cs : List Char) : Option Instant := do
  let (date, cs) ← readDate? cs
  let cs ← readDivider? cs
  let ((second, nanosecond), cs) ← readTime? cs
  let (ahead, cs) ← readZone? cs
  if (skipBlanks cs).isEmpty then ofLocal? date second nanosecond ahead else none

def ofText? (text : String) : Option Instant :=
  ofChars? text.toList

end LoanBook.Calendar.Instant
