import LoanBook.Decimal.Basic

/-!
# Sums, products and rounding of decimals

An operation is computed exactly and then fitted into 96 bits: `Decimal.fit?` keeps as many
decimal places as possible, rounds the digits it drops to the nearest value with halves going to
the even neighbour, and fails when even the rounded whole number is too large. Rounding to a
number of decimal places, the only rounding a caller can ask for, sends halves away from zero.
-/

namespace LoanBook.Decimal

/-- Fits an exact `± mantissa / 10 ^ scale` into a decimal of at most `places` places, with as
many of them as the 96 bits allow. -/
def fitBelow (negative : Bool) (mantissa scale : Nat) : (places : Nat) → Option Decimal
  | 0 => ofParts? negative (Rounding.halfEven mantissa (10 ^ scale)) 0
  | places + 1 =>
    match ofParts? negative (Rounding.halfEven mantissa (10 ^ (scale - (places + 1)))) (places + 1) with
    | some value => some value
    | none => fitBelow negative mantissa scale places

/-- Fits an exact `± mantissa / 10 ^ scale` into a decimal; none when it is too large. -/
def fit? (negative : Bool) (mantissa scale : Nat) : Option Decimal :=
  fitBelow negative mantissa scale (min scale maxScale)

/-- The value with its sign flipped; a zero changes its sign too. -/
def negate (value : Decimal) : Decimal :=
  { value with negative := !value.negative }

/-- The sum, fitted. A zero operand gives back the other operand as it is; a sum that cancels is
a positive zero of the larger scale. -/
def add? (left right : Decimal) : Option Decimal :=
  if left.isZero then some right
  else if right.isZero then some left
  else
    let scale := max left.scale right.scale
    let total := left.signed * 10 ^ (scale - left.scale) + right.signed * 10 ^ (scale - right.scale)
    fit? (total < 0) total.natAbs scale

/-- The difference, fitted. Taking a zero away gives back the left operand as it is. -/
def sub? (left right : Decimal) : Option Decimal :=
  if right.isZero then some (if left.isZero then right else left)
  else left.add? right.negate

/-- The product, fitted. A product with a zero is plain zero. A product of two short factors that
vanishes in the rounding is a positive zero, and plain when more than 47 places were asked for;
with a longer factor the vanished product keeps its sign. -/
def mul? (left right : Decimal) : Option Decimal :=
  if left.isZero || right.isZero then some zero
  else
    let short := left.mantissa < 2 ^ 32 && right.mantissa < 2 ^ 32
    match fit? (left.negative != right.negative) (left.mantissa * right.mantissa)
        (left.scale + right.scale) with
    | none => none
    | some product =>
      if product.isZero && short then
        if 47 < left.scale + right.scale then some zero
        else some { product with negative := false }
      else some product

/-- Drops the last `scale - places` digits of a mantissa and rounds halves up; what is left still
fits. -/
theorem halfUp_pow_lt (value : Decimal) (places : Nat) (longer : places < value.scale) :
    Rounding.halfUp value.mantissa (10 ^ (value.scale - places)) < mantissaBound := by
  obtain ⟨more, moreEq⟩ : ∃ more, value.scale - places = more + 1 :=
    ⟨value.scale - places - 1, by omega⟩
  have powerPositive : 0 < 10 ^ more := Nat.pow_pos (by decide)
  have close := Rounding.halfUp_le value.mantissa (10 ^ (value.scale - places))
    (Nat.pow_pos (by decide))
  have tenth : value.mantissa / 10 ^ (value.scale - places) ≤ value.mantissa / 10 := by
    rw [moreEq, Nat.pow_succ, Nat.mul_comm]
    exact Nat.div_le_div_left (Nat.le_mul_of_pos_right 10 powerPositive) (by decide)
  have bound := value.mantissa_lt
  simp only [mantissaBound] at bound ⊢
  omega

/-- The value rounded to at most `places` decimal places, halves away from zero. A zero of a
larger scale keeps its sign; any other value that rounds to zero loses it. -/
def round (value : Decimal) (places : Nat) : Decimal :=
  if longer : places < value.scale then
    let mantissa := Rounding.halfUp value.mantissa (10 ^ (value.scale - places))
    { negative := value.negative && (value.isZero || mantissa != 0)
      mantissa
      scale := places
      mantissa_lt := halfUp_pow_lt value places longer
      scale_le := Nat.le_trans (Nat.le_of_lt longer) value.scale_le }
  else
    value

/-- Drops trailing zeros after the point, at most `scale` of them. -/
def stripZeros (mantissa : Nat) : (scale : Nat) → Nat × Nat
  | 0 => (mantissa, 0)
  | scale + 1 => if mantissa % 10 = 0 then stripZeros (mantissa / 10) scale else (mantissa, scale + 1)

theorem stripZeros_mantissa_le (mantissa scale : Nat) : (stripZeros mantissa scale).1 ≤ mantissa := by
  induction scale generalizing mantissa with
  | zero => exact Nat.le_refl _
  | succ scale ih =>
    unfold stripZeros
    split
    · exact Nat.le_trans (ih _) (Nat.div_le_self _ _)
    · exact Nat.le_refl _

theorem stripZeros_scale_le (mantissa scale : Nat) : (stripZeros mantissa scale).2 ≤ scale := by
  induction scale generalizing mantissa with
  | zero => exact Nat.le_refl _
  | succ scale ih =>
    unfold stripZeros
    split
    · exact Nat.le_succ_of_le (ih _)
    · exact Nat.le_refl _

/-- The same number without trailing zeros after the point; zero is plain zero. -/
def normalize (value : Decimal) : Decimal :=
  if value.isZero then zero
  else
    { negative := value.negative
      mantissa := (stripZeros value.mantissa value.scale).1
      scale := (stripZeros value.mantissa value.scale).2
      mantissa_lt := Nat.lt_of_le_of_lt (stripZeros_mantissa_le _ _) value.mantissa_lt
      scale_le := Nat.le_trans (stripZeros_scale_le _ _) value.scale_le }

@[simp] theorem negate_mantissa (value : Decimal) : value.negate.mantissa = value.mantissa := rfl

@[simp] theorem negate_scale (value : Decimal) : value.negate.scale = value.scale := rfl

@[simp] theorem negate_negate (value : Decimal) : value.negate.negate = value := by
  simp [negate]

@[simp] theorem units_negate (value : Decimal) : value.negate.units = -value.units := by
  unfold units signed negate
  cases value.negative with
  | false => exact Int.neg_mul _ _
  | true =>
    show (value.mantissa : Int) * _ = -(-(value.mantissa : Int) * _)
    rw [Int.neg_mul, Int.neg_neg]

/-- A value with few enough places is not touched by rounding. -/
theorem round_of_scale_le {value : Decimal} {places : Nat} (short : value.scale ≤ places) :
    value.round places = value :=
  dif_neg (by omega)

theorem round_scale_le (value : Decimal) (places : Nat) : (value.round places).scale ≤ places := by
  unfold round
  split
  · exact Nat.le_refl _
  · omega

@[simp] theorem round_round (value : Decimal) (places : Nat) :
    (value.round places).round places = value.round places :=
  round_of_scale_le (round_scale_le value places)

end LoanBook.Decimal
