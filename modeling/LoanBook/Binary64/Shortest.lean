import LoanBook.Binary64.Nearest

/-!
# The shortest decimal of a double

The positional decimal with the fewest digits among those that a double is nearest to. The
decimals in question lie between the midpoints to the two neighbouring doubles, the midpoints
included when the significand is even. Grids of powers of ten are tried from coarse to fine; on
each one only the two grid points around the value can be hit, and the nearer one wins, or the upper
one if both are equally near.
-/

namespace LoanBook.Binary64

/-- The reals that round to a double, as fractions of one denominator. -/
structure Interval where
  value : Nat
  low : Nat
  high : Nat
  denominator : Nat
  closed : Bool

/-- The interval of a positive double, in quarters of its unit. Below a power of two the gap is
half as wide. -/
def interval (double : Binary64) : Interval :=
  let unit := 2 ^ (double.exponent - 2).toNat
  let narrow := double.significand = 2 ^ 52 ∧ -1074 < double.exponent
  { value := 4 * double.significand * unit
    low := (4 * double.significand - if narrow then 1 else 2) * unit
    high := (4 * double.significand + 2) * unit
    denominator := 2 ^ (2 - double.exponent).toNat
    closed := double.significand % 2 == 0 }

/-- Whether `count` steps of the fraction `step` lie in the interval. -/
def Interval.holds (range : Interval) (stepNumerator stepDenominator count : Nat) : Bool :=
  let point := count * stepNumerator * range.denominator
  let low := range.low * stepDenominator
  let high := range.high * stepDenominator
  if range.closed then low ≤ point && point ≤ high else low < point && point < high

/-- The grid point of step `10 ^ power` in the interval that is nearest to the value, the upper one
when the value lies halfway between two. -/
def Interval.gridPoint? (range : Interval) (power : Int) : Option Nat :=
  let numerator := 10 ^ power.toNat
  let denominator := 10 ^ (-power).toNat
  let below := range.value * denominator / (range.denominator * numerator)
  let remainder := range.value * denominator % (range.denominator * numerator)
  match range.holds numerator denominator below, range.holds numerator denominator (below + 1) with
  | true, true =>
    some (if 2 * remainder < range.denominator * numerator then below else below + 1)
  | true, false => some below
  | false, true => some (below + 1)
  | false, false => none

/-- The first hit among the grids of step `10 ^ power`, `10 ^ (power - 1)` and so on. -/
def Interval.coarsest? (range : Interval) (power : Int) : (grids : Nat) → Option (Nat × Int)
  | 0 => none
  | grids + 1 =>
    match range.gridPoint? power with
    | some count => some (count, power)
    | none => range.coarsest? (power - 1) grids

/-- Writes `count * 10 ^ power` without an exponent. -/
def positional (count : Nat) (power : Int) : List Char :=
  let digits := Nat.toDigits 10 count
  if 0 ≤ power then digits ++ List.replicate power.toNat '0'
  else
    let places := (-power).toNat
    let padded := digits.leftpad (places + 1) '0'
    padded.take (padded.length - places) ++ '.' :: padded.drop (padded.length - places)

/-- The shortest positional decimal that reads back as the double. -/
def shortest (double : Binary64) : List Char :=
  if double.significand = 0 then ['0']
  else
    match double.interval.coarsest? 309 700 with
    | some (count, power) => positional count power
    | none => ['0']

end LoanBook.Binary64
