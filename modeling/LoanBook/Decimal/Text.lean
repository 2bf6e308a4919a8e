import LoanBook.Decimal.Arithmetic

/-!
# Decimals as text

A decimal is written with all its places, `10.00`, and a minus sign when its sign is set.

Reading accepts a sign, digits with at most one point, and underscores after the first digit.
Digits after the point that find no room are cut: the first of them alone decides whether the
value is rounded up in magnitude. An underscore between the last place and the digits cut counts
as such a digit, a zero, when the mantissa is short: `0.0…01_9` is not rounded up. A text that is
not of this form may still be a base and an exponent of at most 28, `1.5e-3`.
-/

namespace LoanBook.Decimal

/-- The decimal digits of a number, at least `width` of them. -/
def paddedDigits (width number : Nat) : List Char :=
  (Nat.toDigits 10 number).leftpad width '0'

/-- The characters of a decimal: sign, whole part, and a point with `scale` digits. -/
def toChars (value : Decimal) : List Char :=
  let whole := Nat.toDigits 10 (value.mantissa / 10 ^ value.scale)
  let places := paddedDigits value.scale (value.mantissa % 10 ^ value.scale)
  (if value.negative then ['-'] else []) ++ whole ++
    (if value.scale = 0 then [] else '.' :: places)

/-- The written form of a decimal. -/
def toText (value : Decimal) : String :=
  String.ofList value.toChars

/-- The digit that a character writes, if it is an ASCII digit. -/
def digit? (c : Char) : Option Nat :=
  if c.isDigit then some (c.toNat - '0'.toNat) else none

/-- A parsed zero never has a sign. -/
def ofReading? (negative : Bool) (mantissa scale : Nat) : Option Decimal :=
  ofParts? (negative && mantissa != 0) mantissa scale

/-- Ends a reading at a digit that finds no room: `rest` may hold digits and underscores only, and
the value is rounded up when the digit is at least five. A mantissa that outgrows 96 bits by this
gives up one place. -/
def cutOff? (negative : Bool) (mantissa scale next : Nat) (rest : List Char) : Option Decimal :=
  if rest.all (fun c => c.isDigit || c == '_') then
    if next < 5 then ofReading? negative mantissa scale
    else if mantissa + 1 < mantissaBound then ofReading? negative (mantissa + 1) scale
    else if scale = 0 then none
    else ofReading? negative ((mantissa + 5) / 10) (scale - 1)
  else none

/-- A mantissa is short when it is below this bound before its last digit: a 64-bit word then had
room for that digit, and to spare. -/
def shortBound : Nat := (2 ^ 64 - 1) / 10 - 255

/-- Reads the digits after the point; `started` says whether any digit has been read. An underscore
after the last place is passed over, but cuts like a zero after a short mantissa. -/
def readPlaces? (negative started : Bool) (mantissa scale : Nat) : List Char → Option Decimal
  | [] => if started then ofReading? negative mantissa scale else none
  | c :: rest =>
    match digit? c with
    | some next =>
      if scale = maxScale ∨ mantissaBound ≤ mantissa * 10 + next then
        cutOff? negative mantissa scale next rest
      else readPlaces? negative true (mantissa * 10 + next) (scale + 1) rest
    | none =>
      if c = '_' ∧ started then
        if scale = maxScale ∧ mantissa / 10 < shortBound then cutOff? negative mantissa scale 0 rest
        else readPlaces? negative started mantissa scale rest
      else none

/-- Reads the digits up to the point; `started` says whether any digit has been read. -/
def readWhole? (negative started : Bool) (mantissa : Nat) : List Char → Option Decimal
  | [] => if started then ofReading? negative mantissa 0 else none
  | c :: rest =>
    match digit? c with
    | some next =>
      if mantissaBound ≤ mantissa * 10 + next then none
      else readWhole? negative true (mantissa * 10 + next) rest
    | none =>
      if c = '.' then readPlaces? negative started mantissa 0 rest
      else if c = '_' ∧ started then readWhole? negative started mantissa rest
      else none

def ofPlainChars? : List Char → Option Decimal
  | '-' :: rest => readWhole? true false 0 rest
  | '+' :: rest => readWhole? false false 0 rest
  | cs => readWhole? false false 0 cs

/-- Reads the digits of an exponent of at most 28, with an optional plus sign. -/
def readExponent? (cs : List Char) : Option Nat :=
  let digits := match cs with
    | '+' :: rest => rest
    | _ => cs
  let exponent := Nat.ofDigitChars 10 digits 0
  if !digits.isEmpty && digits.all Char.isDigit && decide (exponent ≤ maxScale) then
    some exponent
  else none

/-- The value times `10 ^ exponent`: fewer places while there are any, then trailing zeros. -/
def shiftUp? (value : Decimal) (exponent : Nat) : Option Decimal :=
  if exponent ≤ value.scale then ofParts? value.negative value.mantissa (value.scale - exponent)
  else ofParts? value.negative (value.mantissa * 10 ^ (exponent - value.scale)) 0

/-- The value divided by `10 ^ exponent`, first rounded when more than 28 places would be needed. -/
def shiftDown? (value : Decimal) (exponent : Nat) : Option Decimal :=
  if value.scale + exponent ≤ maxScale then
    ofParts? value.negative value.mantissa (value.scale + exponent)
  else
    ofParts? value.negative
      (Rounding.halfUp value.mantissa (10 ^ (value.scale + exponent - maxScale))) maxScale

/-- Reads a decimal with an exponent, which starts at the first `e` or `E`. -/
def ofExponentChars? (cs : List Char) : Option Decimal :=
  let isMark := fun c : Char => c == 'e' || c == 'E'
  match cs.dropWhile (fun c => !isMark c) with
  | [] => none
  | _ :: exponentChars =>
    (ofPlainChars? (cs.takeWhile fun c => !isMark c)).bind fun base =>
      match exponentChars with
      | '-' :: digits => (readExponent? digits).bind base.shiftDown?
      | digits => (readExponent? digits).bind base.shiftUp?

def ofChars? (cs : List Char) : Option Decimal :=
  match ofPlainChars? cs with
  | some value => some value
  | none => ofExponentChars? cs

def ofText? (text : String) : Option Decimal :=
  ofChars? text.toList

end LoanBook.Decimal
