/-!
# Base64

Bytes as text in the standard alphabet, padded to whole groups of four. Decoding accepts exactly
the texts that encoding produces: the padding must be complete and the bits that a short last
group discards must be zero. A refused text gets the reason that is found first: a trailing byte
outside the alphabet, then the first byte that has no place where it stands, a lone symbol,
incomplete padding, discarded bits.
-/

namespace LoanBook.Text.Base64

/-- Why a text is no base64. Offsets count bytes of the text. -/
inductive Fault where
  | badSymbol (byte : UInt8) (offset : Nat)
  | badLength (length : Nat)
  | badPadding
  | badLastSymbol (byte : UInt8) (offset : Nat)
deriving DecidableEq

def Fault.message : Fault → String
  | badSymbol byte offset => "Invalid symbol " ++ toString byte.toNat ++ ", offset " ++ toString offset ++ "."
  | badLength length => "Invalid input length: " ++ toString length
  | badPadding => "Invalid padding"
  | badLastSymbol byte offset =>
    "Invalid last symbol " ++ toString byte.toNat ++ ", offset " ++ toString offset ++ "."

/-- The bytes of a text in UTF-8. -/
def utf8 (text : String) : List UInt8 :=
  text.toList.flatMap String.utf8EncodeChar

/-- The padding byte, an equals sign. -/
def pad : UInt8 := 61

/-- The byte of a symbol below 64. -/
def symbol (value : Nat) : UInt8 :=
  if value < 26 then UInt8.ofNat (65 + value)
  else if value < 52 then UInt8.ofNat (97 + (value - 26))
  else if value < 62 then UInt8.ofNat (48 + (value - 52))
  else if value = 62 then 43
  else 47

/-- The value of a byte of the alphabet. -/
def value? (byte : UInt8) : Option Nat :=
  let code := byte.toNat
  if 65 ≤ code ∧ code ≤ 90 then some (code - 65)
  else if 97 ≤ code ∧ code ≤ 122 then some (code - 97 + 26)
  else if 48 ≤ code ∧ code ≤ 57 then some (code - 48 + 52)
  else if code = 43 then some 62
  else if code = 47 then some 63
  else none

/-! ## Encoding -/

/-- Three bytes as four symbols, and one or two bytes at the end as two or three with padding. -/
def encodeBytes : List UInt8 → List UInt8
  | [] => []
  | [a] => [symbol (a.toNat / 4), symbol (a.toNat % 4 * 16), pad, pad]
  | [a, b] =>
    [symbol (a.toNat / 4), symbol (a.toNat % 4 * 16 + b.toNat / 16), symbol (b.toNat % 16 * 4), pad]
  | a :: b :: c :: rest =>
    symbol (a.toNat / 4) :: symbol (a.toNat % 4 * 16 + b.toNat / 16) ::
      symbol (b.toNat % 16 * 4 + c.toNat / 64) :: symbol (c.toNat % 64) :: encodeBytes rest

def encode (bytes : List UInt8) : String :=
  String.ofList ((encodeBytes bytes).map fun byte => Char.ofNat byte.toNat)

/-! ## Decoding -/

/-- The symbols of the last group, with its padding counted; `offset` is where it starts. A padding
byte needs two symbols before it and padding only after it. -/
def lastSymbols (offset : Nat) (bytes : List UInt8) : Except Fault (List Nat × Nat) :=
  let symbols := bytes.takeWhile (· != pad)
  let tail := bytes.dropWhile (· != pad)
  match symbols.findIdx? (fun byte => (value? byte).isNone) with
  | some index => .error (.badSymbol (symbols.getD index 0) (offset + index))
  | none =>
    if tail.isEmpty then .ok (symbols.filterMap value?, 0)
    else if symbols.length < 2 ∨ tail.any (· != pad) then
      .error (.badSymbol pad (offset + symbols.length))
    else .ok (symbols.filterMap value?, tail.length)

/-- Decodes the last group of at most four bytes. -/
def decodeLast (offset : Nat) (bytes : List UInt8) : Except Fault (List UInt8) := do
  let (values, padding) ← lastSymbols offset bytes
  if !bytes.isEmpty && values.length < 2 then .error (.badLength (offset + values.length))
  else if (values.length + padding) % 4 ≠ 0 then .error .badPadding
  else
    let last := bytes.getD (values.length - 1) 0
    match values with
    | [a, b] =>
      if b % 16 = 0 then .ok [UInt8.ofNat (a * 4 + b / 16)]
      else .error (.badLastSymbol last (offset + 1))
    | [a, b, c] =>
      if c % 4 = 0 then .ok [UInt8.ofNat (a * 4 + b / 16), UInt8.ofNat (b % 16 * 16 + c / 4)]
      else .error (.badLastSymbol last (offset + 2))
    | [a, b, c, d] =>
      .ok [UInt8.ofNat (a * 4 + b / 16), UInt8.ofNat (b % 16 * 16 + c / 4),
        UInt8.ofNat (c % 4 * 64 + d)]
    | _ => .ok []

/-- The value of a byte that must be a symbol. -/
def symbolAt (byte : UInt8) (offset : Nat) : Except Fault Nat :=
  match value? byte with
  | some value => .ok value
  | none => .error (.badSymbol byte offset)

/-- Decodes groups of four bytes; only the last group may hold padding. -/
def decodeGroups (offset : Nat) : List UInt8 → Except Fault (List UInt8)
  | a :: b :: c :: d :: e :: rest => do
    let a ← symbolAt a offset
    let b ← symbolAt b (offset + 1)
    let c ← symbolAt c (offset + 2)
    let d ← symbolAt d (offset + 3)
    let decoded ← decodeGroups (offset + 4) (e :: rest)
    return UInt8.ofNat (a * 4 + b / 16) :: UInt8.ofNat (b % 16 * 16 + c / 4) ::
      UInt8.ofNat (c % 4 * 64 + d) :: decoded
  | bytes => decodeLast offset bytes

/-- Decodes bytes. A last byte outside the alphabet that makes the length one more than a whole
number of groups is reported before anything else. -/
def decodeBytes (bytes : List UInt8) : Except Fault (List UInt8) :=
  match bytes.getLast? with
  | some last =>
    if bytes.length % 4 = 1 ∧ last ≠ pad ∧ value? last = none then
      .error (.badSymbol last (bytes.length - 1))
    else decodeGroups 0 bytes
  | none => decodeGroups 0 bytes

/-- The bytes that a text encodes. -/
def decode (text : String) : Except Fault (List UInt8) :=
  decodeBytes (utf8 text)

end LoanBook.Text.Base64
