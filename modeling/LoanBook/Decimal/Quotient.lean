import LoanBook.Decimal.Arithmetic

/-!
# Division of decimals

Long division in blocks of up to nine digits. A quotient is extended while a remainder is left
and both the 96 bits and the 28 places have room; then it is rounded to nearest, halves to the
even neighbour. An inexact division finally gives up trailing zeros, in blocks of eight, four,
two and one, so `1 / 2` is written `0.50` and `1 / 5` is written `0.20`.
-/

namespace LoanBook.Decimal

/-- The largest number of places, at most `limit`, by which a quotient can be extended within
96 bits. -/
def room (quotient : Nat) : (limit : Nat) → Nat
  | 0 => 0
  | limit + 1 =>
    if quotient * 10 ^ (limit + 1) < mantissaBound then limit + 1 else room quotient limit

theorem room_le (quotient limit : Nat) : room quotient limit ≤ limit := by
  induction limit with
  | zero => exact Nat.le_refl _
  | succ limit ih =>
    unfold room
    split
    · exact Nat.le_refl _
    · omega

/-- Rounds `(quotient + remainder / divisor) / 10 ^ scale`, and gives up one place when the
rounded quotient outgrows 96 bits. -/
def settle? (divisor quotient remainder : Nat) (scale : Int) : Option (Nat × Nat) :=
  let rounded := Rounding.halfEven (quotient * divisor + remainder) divisor
  if rounded < mantissaBound then some (rounded, scale.toNat)
  else if 0 < scale then
    some (Rounding.halfEven (quotient * divisor + remainder) (10 * divisor), (scale - 1).toNat)
  else none

/-- Extends `(quotient + remainder / divisor) / 10 ^ scale` until it is exact or has no room left.
The answer is a mantissa, its scale, and whether a remainder was ever met. -/
def extend? (divisor quotient remainder : Nat) (scale : Int) (inexact : Bool) :
    Option (Nat × Nat × Bool) :=
  if remainder = 0 then
    if 0 ≤ scale then some (quotient, scale.toNat, inexact)
    else
      let raised := quotient * 10 ^ min 9 (-scale).toNat
      if raised < mantissaBound then extend? divisor raised 0 (scale + min 9 (-scale).toNat) inexact
      else none
  else
    let places := room quotient (min 9 (maxScale - scale).toNat)
    if places < 9 ∧ scale + places < 0 then none
    else if places = 0 then
      (settle? divisor quotient remainder scale).map fun settled => (settled.1, settled.2, true)
    else
      let extended := quotient * 10 ^ places + remainder * 10 ^ places / divisor
      let left := remainder * 10 ^ places % divisor
      if extended < mantissaBound then extend? divisor extended left (scale + places) true
      else (settle? divisor extended left (scale + places)).map fun settled =>
        (settled.1, settled.2, true)
  termination_by (maxScale - scale).toNat
  decreasing_by
    all_goals
      have limited := room_le quotient (min 9 (maxScale - scale).toNat)
      omega

/-- Drops a block of `places` trailing zeros after the point, if there is one. -/
def dropZeroBlock (places : Nat) (quotient : Nat × Nat) : Nat × Nat :=
  if places ≤ quotient.2 ∧ quotient.1 % 10 ^ places = 0 then
    (quotient.1 / 10 ^ places, quotient.2 - places)
  else quotient

/-- Drops a block of eight trailing zeros from a mantissa that is also a multiple of `2 ^ 32`. -/
def dropEightZeros (quotient : Nat × Nat) : Nat × Nat :=
  if quotient.1 % 2 ^ 32 = 0 then dropZeroBlock 8 quotient else quotient

/-- Gives up trailing zeros of an inexact quotient: up to three blocks of eight, then a block each
of four, two and one. -/
def tidy (quotient : Nat × Nat) : Nat × Nat :=
  dropZeroBlock 1 (dropZeroBlock 2 (dropZeroBlock 4
    (dropEightZeros (dropEightZeros (dropEightZeros quotient)))))

/-- The quotient, rounded to at most 28 places; none for a zero divisor and for a quotient that is
too large. A zero quotient is positive. -/
def div? (left right : Decimal) : Option Decimal :=
  if right.isZero then none
  else if left.isZero then some zero
  else
    (extend? right.mantissa (left.mantissa / right.mantissa) (left.mantissa % right.mantissa)
        ((left.scale : Int) - right.scale) false).bind fun found =>
      let settled := if found.2.2 then tidy (found.1, found.2.1) else (found.1, found.2.1)
      ofParts? ((left.negative != right.negative) && settled.1 != 0) settled.1 settled.2

end LoanBook.Decimal
