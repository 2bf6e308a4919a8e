import LoanBook.Power
import LoanBook.Text.Base64

/-!
# Identifiers of loans and parties

An identifier is sixteen bytes, ordered as a big-endian number and written in base64. Loans and
parties have identifiers of different types. `Identifier.ofClock` lays out a time-ordered
identifier of version 7: milliseconds first, then a count of what was made since.
-/

namespace LoanBook

/-- What an identifier names. -/
inductive IdentifierKind where
  | loan
  | party
deriving DecidableEq

def IdentifierKind.label : IdentifierKind → String
  | loan => "LoanId"
  | party => "PartyId"

/-- Sixteen bytes that name a loan or a party. -/
structure Identifier (kind : IdentifierKind) where
  bytes : List UInt8
  length_eq : bytes.length = 16
deriving DecidableEq

abbrev LoanId := Identifier .loan

abbrev PartyId := Identifier .party

/-- Why a text names nothing: it is no base64, or it is not sixteen bytes. -/
inductive IdentifierFault where
  | encoding (fault : Text.Base64.Fault)
  | length (found : Nat)
deriving DecidableEq

def IdentifierFault.message : IdentifierFault → String
  | encoding fault => fault.message
  | length found => "invalid length: expected 16 bytes, found " ++ toString found

namespace Identifier

variable {kind : IdentifierKind}

/-- The identifier with the given bytes, if there are sixteen of them. -/
def ofBytes? (bytes : List UInt8) : Option (Identifier kind) :=
  if length_eq : bytes.length = 16 then some ⟨bytes, length_eq⟩ else none

/-- The bytes read as one big-endian number. -/
def number (identifier : Identifier kind) : Nat :=
  identifier.bytes.foldl (fun value byte => value * 256 + byte.toNat) 0

/-- Identifiers are ordered byte by byte, which is the order of their numbers. -/
instance : LE (Identifier kind) := ⟨fun left right => left.number ≤ right.number⟩

instance : LT (Identifier kind) := ⟨fun left right => left.number < right.number⟩

instance (left right : Identifier kind) : Decidable (left ≤ right) :=
  inferInstanceAs (Decidable (left.number ≤ right.number))

instance (left right : Identifier kind) : Decidable (left < right) :=
  inferInstanceAs (Decidable (left.number < right.number))

/-- The text of an identifier, 24 characters of base64. -/
def toText (identifier : Identifier kind) : String :=
  Text.Base64.encode identifier.bytes

/-- The identifier that a text names. -/
def ofText (text : String) : Except IdentifierFault (Identifier kind) :=
  match Text.Base64.decode text with
  | .error fault => .error (.encoding fault)
  | .ok bytes =>
    match ofBytes? bytes with
    | some identifier => .ok identifier
    | none => .error (.length bytes.length)

/-- The identifier that a text names, without a reason when there is none. -/
def ofText? (text : String) : Option (Identifier kind) :=
  (ofText text).toOption

/-- The low bytes of a number, most significant first. -/
def bigEndian (number : Nat) : (count : Nat) → List UInt8
  | 0 => []
  | count + 1 => UInt8.ofNat (number / 256 ^ count) :: bigEndian number count

@[simp] theorem length_bigEndian (number count : Nat) : (bigEndian number count).length = count := by
  induction count with
  | zero => rfl
  | succ count ih => simp [bigEndian, ih]

/-- A time-ordered identifier: 48 bits of milliseconds, the version, and a count of up to 74 bits
around the variant bits. -/
def ofClock (milliseconds count : Nat) : Identifier kind where
  bytes :=
    bigEndian milliseconds 6 ++
      bigEndian (0x7000 + count / 2 ^ 62 % 2 ^ 12) 2 ++
      bigEndian (0x80 + count / 2 ^ 56 % 2 ^ 6) 1 ++
      bigEndian count 7
  length_eq := by simp

/-- The version nibble of an identifier. -/
def version (identifier : Identifier kind) : Nat :=
  (identifier.bytes.getD 6 0).toNat / 16

/-- The two variant bits of an identifier. -/
def variant (identifier : Identifier kind) : Nat :=
  (identifier.bytes.getD 8 0).toNat / 64

/-- A byte in two hexadecimal digits. -/
def hexByte (byte : UInt8) : List Char :=
  [Nat.digitChar (byte.toNat / 16), Nat.digitChar (byte.toNat % 16)]

def hex (identifier : Identifier kind) : String :=
  String.ofList (identifier.bytes.flatMap hexByte)

/-- The bytes in hexadecimal, hyphenated after four, six, eight and ten of them. -/
def hyphenated (identifier : Identifier kind) : String :=
  let digits := identifier.bytes.flatMap hexByte
  String.ofList (digits.take 8 ++ '-' :: (digits.drop 8).take 4 ++ '-' :: (digits.drop 12).take 4 ++
    '-' :: (digits.drop 16).take 4 ++ '-' :: digits.drop 20)

end Identifier

end LoanBook
