import LoanBook.Binary64.Shortest

/-!
# JSON numerals

A numeral is kept as it is written, because what it stands for depends on who reads it. A whole
numeral in the range of the 64-bit integers is that integer. Any other numeral is a double, found
from the digits that fit into 64 bits and one scaling by a power of ten.
-/

namespace LoanBook.Json

/-- A JSON number as written; `fraction` is empty when there is no point, and the exponent is a
sign with its digits. -/
structure Numeral where
  negative : Bool
  whole : List Char
  fraction : List Char
  exponent : Option (Bool × List Char)
deriving DecidableEq

namespace Numeral

def ofInt (value : Int) : Numeral :=
  ⟨value < 0, Nat.toDigits 10 value.natAbs, [], none⟩

def toChars (numeral : Numeral) : List Char :=
  (if numeral.negative then ['-'] else []) ++ numeral.whole ++
    (if numeral.fraction.isEmpty then [] else '.' :: numeral.fraction) ++
    match numeral.exponent with
    | none => []
    | some (isNegative, digits) => 'e' :: (if isNegative then ['-'] else []) ++ digits

/-- The integer that a numeral writes, if it has no point and no exponent and fits into 64 bits
with or without a sign. A negative zero is no integer. -/
def int? (numeral : Numeral) : Option Int :=
  let magnitude := Nat.ofDigitChars 10 numeral.whole 0
  if !numeral.fraction.isEmpty || numeral.exponent.isSome then none
  else if numeral.negative then
    if 0 < magnitude ∧ magnitude ≤ 2 ^ 63 then some (-(magnitude : Int)) else none
  else if magnitude < 2 ^ 64 then some magnitude
  else none

/-- Reads digits into a 64-bit significand, stopping before the first that does not fit. Answers
the significand and the digits left. -/
def gather (significand : Nat) : List Char → Nat × List Char
  | [] => (significand, [])
  | c :: rest =>
    let next := significand * 10 + (c.toNat - '0'.toNat)
    if next < 2 ^ 64 then gather next rest else (significand, c :: rest)

/-- The exponent as an integer. -/
def exponentValue (numeral : Numeral) : Int :=
  match numeral.exponent with
  | none => 0
  | some (isNegative, digits) =>
    let magnitude : Int := Nat.ofDigitChars 10 digits 0
    if isNegative then -magnitude else magnitude

/-- The magnitude of the double that a numeral writes; none when it is out of range. Digits before
the point that do not fit into the significand count as powers of ten, digits after it that do not
fit are dropped. -/
def double? (numeral : Numeral) : Option Binary64 :=
  let whole := gather 0 numeral.whole
  let places := gather whole.1 numeral.fraction
  let used := numeral.fraction.length - places.2.length
  (Binary64.nearest? places.1 1).bind fun significand =>
    significand.scaleByTen? ((whole.2.length : Int) - used + numeral.exponentValue)

/-- The positional decimal of the numeral's value: an integer by its digits, a double by its
shortest decimal. -/
def positional? (numeral : Numeral) : Option (List Char) :=
  match numeral.int? with
  | some value => some (ofInt value).toChars
  | none => numeral.double?.map fun double =>
    (if numeral.negative then ['-'] else []) ++ double.shortest

end Numeral

end LoanBook.Json
