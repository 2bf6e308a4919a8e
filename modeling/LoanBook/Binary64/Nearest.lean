import LoanBook.Rounding

/-!
# Binary floating point, magnitudes only

A `Binary64` is the magnitude of a finite double: `significand * 2 ^ exponent` with a significand
below `2 ^ 53` and an exponent of at least `-1074`. Every operation is computed on exact fractions
and rounded once, to the nearest double with halves to the even significand. An operation that
would be infinite has no result.
-/

namespace LoanBook

/-- The magnitude of a finite double-precision number. -/
structure Binary64 where
  significand : Nat
  exponent : Int
deriving DecidableEq

namespace Binary64

def zero : Binary64 := ⟨0, -1074⟩

def numerator (value : Binary64) : Nat := value.significand * 2 ^ value.exponent.toNat

/-- The denominator of the fraction; a power of two. -/
def denominator (value : Binary64) : Nat := 2 ^ (-value.exponent).toNat

/-- A fraction measured in units of `2 ^ exponent`, rounded to the nearest natural. -/
private def inUnits (numerator denominator : Nat) (exponent : Int) : Nat :=
  Rounding.halfEven (numerator * 2 ^ (-exponent).toNat) (denominator * 2 ^ exponent.toNat)

/-- The double nearest to a fraction; none when it is out of range. The exponent is chosen so that
the significand has 53 bits, or is the least one. -/
def nearest? (numerator denominator : Nat) : Option Binary64 :=
  if numerator = 0 then some zero
  else
    let low : Int := max ((Nat.log2 numerator : Int) - Nat.log2 denominator - 53) (-1074)
    let wide := 2 ^ 53 ≤ numerator * 2 ^ (-low).toNat / (denominator * 2 ^ low.toNat)
    let exponent := if wide then low + 1 else low
    let rounded := inUnits numerator denominator exponent
    let value : Binary64 :=
      if rounded < 2 ^ 53 then ⟨rounded, exponent⟩ else ⟨2 ^ 52, exponent + 1⟩
    if value.exponent ≤ 971 then some value else none

def mul? (left right : Binary64) : Option Binary64 :=
  nearest? (left.numerator * right.numerator) (left.denominator * right.denominator)

/-- The quotient by a nonzero magnitude, rounded to nearest. -/
def div? (left right : Binary64) : Option Binary64 :=
  nearest? (left.numerator * right.denominator) (left.denominator * right.numerator)

/-- The double nearest to a power of ten; none from `10 ^ 309` on. -/
def powerOfTen? (exponent : Nat) : Option Binary64 :=
  nearest? (10 ^ exponent) 1

/-- The exponent of the largest power of ten in range. -/
def largestTen : Nat := 308

/-- Multiplies by `10 ^ exponent` in one step when the power of ten is a double. A smaller power is
reached by dividing by the largest such power first, each step rounded by itself; a larger one is
out of range. -/
def scaleByTen? (value : Binary64) (exponent : Int) : Option Binary64 :=
  if value.significand = 0 then some value
  else
    let step := min exponent.natAbs largestTen
    match powerOfTen? step with
    | none => none
    | some power =>
      if 0 ≤ exponent then
        if exponent.natAbs = step then value.mul? power else none
      else
        match value.div? power with
        | none => none
        | some smaller =>
          if exponent.natAbs = step then some smaller else scaleByTen? smaller (exponent + step)
  termination_by exponent.natAbs
  decreasing_by
    have positive : 0 < largestTen := by decide
    omega

end Binary64

end LoanBook
