import LoanBook.Power

/-!
# The curve of Ed25519

Points of the twisted Edwards curve `-x² + y² = 1 + d x² y²` over the field of `2 ^ 255 - 19`
elements, in extended coordinates. The addition formula is complete, so it also serves for
doubling and for points of small order.
-/

namespace LoanBook.Signature.Edwards

/-- The order of the field. -/
def fieldOrder : Nat := 2 ^ 255 - 19

/-- The order of the base point. -/
def groupOrder : Nat := 2 ^ 252 + 27742317777372353535851937790883648493

def subtract (left right : Nat) : Nat := (left + fieldOrder - right) % fieldOrder

def multiply (left right : Nat) : Nat := left * right % fieldOrder

/-- The binary digits of a number, at most `count` of them, most significant first. -/
def bits (number : Nat) : (count : Nat) → List Bool
  | 0 => []
  | count + 1 => number.testBit count :: bits number count

/-- A power of a field element, for exponents below `2 ^ 255`. -/
def power (base exponent : Nat) : Nat :=
  (bits exponent 255).foldl
    (fun result bit =>
      let squared := multiply result result
      if bit then multiply squared base else squared) 1

/-- The inverse of a nonzero field element. -/
def inverse (value : Nat) : Nat := power value (fieldOrder - 2)

/-- The curve constant `-121665 / 121666`. -/
def curveConstant : Nat :=
  37095705934669439343138083508754565189542113879843219016388785533085940283555

/-- A square root of minus one. -/
def rootOfMinusOne : Nat :=
  19681161376707505956807079304988542015446066515923890162744021073123829784752

/-- A point in extended coordinates: `x / z`, `y / z`, and their product `t / z`. -/
structure Point where
  x : Nat
  y : Nat
  z : Nat
  t : Nat

namespace Point

def neutral : Point := ⟨0, 1, 1, 0⟩

def base : Point :=
  let x := 15112221349535400772501151409588531511454012693041857206046113283949847762202
  let y := 46316835694926478169428394003475163141307993866256225615783033603165251855960
  ⟨x, y, 1, multiply x y⟩

def negate (point : Point) : Point :=
  { point with x := subtract 0 point.x, t := subtract 0 point.t }

def add (left right : Point) : Point :=
  let a := multiply (subtract left.y left.x) (subtract right.y right.x)
  let b := multiply (left.y + left.x) (right.y + right.x)
  let c := multiply (multiply left.t (2 * curveConstant)) right.t
  let d := multiply (2 * left.z) right.z
  let e := subtract b a
  let f := subtract d c
  let g := d + c
  let h := b + a
  ⟨multiply e f, multiply g h, multiply f g, multiply e h⟩

/-- The sum of a multiple of one point and a multiple of another, for scalars below `2 ^ 256`. -/
def combine (first : Nat) (left : Point) (second : Nat) (right : Point) : Point :=
  let both := left.add right
  ((bits first 256).zip (bits second 256)).foldl
    (fun sum digits =>
      let doubled := sum.add sum
      match digits with
      | (true, true) => doubled.add both
      | (true, false) => doubled.add left
      | (false, true) => doubled.add right
      | (false, false) => doubled) neutral

/-- A multiple of a point, for scalars below `2 ^ 256`. -/
def scale (scalar : Nat) (point : Point) : Point :=
  (bits scalar 256).foldl
    (fun sum bit =>
      let doubled := sum.add sum
      if bit then doubled.add point else doubled) neutral

def littleEndian (number : Nat) : (count : Nat) → List UInt8
  | 0 => []
  | count + 1 => UInt8.ofNat number :: littleEndian (number / 256) count

/-- The number that bytes write, least significant first. -/
def ofLittleEndian (bytes : List UInt8) : Nat :=
  bytes.foldr (fun byte number => byte.toNat + 256 * number) 0

/-- The 32 bytes of a point: the coordinate `y`, and the parity of `x` in the highest bit. -/
def encode (point : Point) : List UInt8 :=
  let inverted := inverse point.z
  let x := multiply point.x inverted
  let y := multiply point.y inverted
  littleEndian (y + x % 2 * 2 ^ 255) 32

/-- A square root of a fraction of field elements, if there is one. -/
def rootOfRatio? (numerator denominator : Nat) : Option Nat :=
  let cubed := multiply (multiply denominator denominator) denominator
  let seventh := multiply (multiply cubed cubed) denominator
  let candidate := multiply (multiply numerator cubed)
    (power (multiply numerator seventh) ((fieldOrder - 5) / 8))
  let check := multiply denominator (multiply candidate candidate)
  if check = numerator then some candidate
  else if check = subtract 0 numerator then some (multiply candidate rootOfMinusOne)
  else none

/-- The point with the given bytes. The coordinate `y` is taken from the low 255 bits, reduced;
every point of the curve is accepted, whatever its order. -/
def decode? (bytes : List UInt8) : Option Point :=
  let number := ofLittleEndian bytes
  let y := number % 2 ^ 255 % fieldOrder
  let squared := multiply y y
  let numerator := subtract squared 1
  let denominator := (multiply curveConstant squared + 1) % fieldOrder
  (rootOfRatio? numerator denominator).map fun root =>
    let wanted := number / 2 ^ 255 % 2
    let x := if root % 2 = wanted then root else subtract 0 root
    ⟨x, y, 1, multiply x y⟩

end Point

end LoanBook.Signature.Edwards
