import LoanBook.Calendar.Instant
import LoanBook.Signature.Ed25519
import LoanBook.Text.Base64

/-!
# Attestations

An attestation is a time in whole seconds, sealed: the seal is the signer's public key followed by
its signature of the decimal text of the time, so an attestation can be checked on its own. An
`AuditSigner` stamps instants and recognises its own stamps; what a ledger needs of one is stated
by `AuditSigner.IsSound`. `AuditSigner.ofSeed` is the signer with an Ed25519 key, and
`AuditSigner.restamping` one with such a key that is sound whatever its signatures are worth.
-/

namespace LoanBook

open Calendar (Instant)
open Signature (Ed25519.SigningKey)

/-- A sealed time, in seconds since 1970-01-01. -/
structure Attestation where
  timestamp : Int64
  sealBytes : List UInt8
deriving DecidableEq

/-- Why an attestation is refused. -/
inductive SignatureFault where
  | sealLength (found : Nat)
  | foreignKey
  | signature (fault : Signature.Ed25519.Fault)
deriving DecidableEq

def SignatureFault.message : SignatureFault → String
  | sealLength found => "seal length " ++ toString found
  | foreignKey => "attestation signed by a different key"
  | signature .badPoint => "signature error: Cannot decompress Edwards point"
  | signature .badScalar => "signature error: Cannot use scalar with high-bit set"
  | signature .badEquation => "signature error: Verification equation was not satisfied"

namespace Attestation

/-- The instant of an attestation, if the calendar has it. -/
def instant? (attestation : Attestation) : Option Instant :=
  Instant.ofUnixSeconds? attestation.timestamp.toInt

/-- The signed text: the time in decimal digits. -/
def message (timestamp : Int64) : List UInt8 :=
  Text.Base64.utf8 (toString timestamp.toInt)

/-- The public key of a seal as bytes and as a point, and the signature, if the length is right
and the key is a point. -/
def openSeal (attestation : Attestation) :
    Except SignatureFault (List UInt8 × Signature.Edwards.Point × List UInt8) :=
  if attestation.sealBytes.length = 96 then
    let key := attestation.sealBytes.take 32
    match Signature.Edwards.Point.decode? key with
    | some point => .ok (key, point, attestation.sealBytes.drop 32)
    | none => .error (.signature .badPoint)
  else .error (.sealLength attestation.sealBytes.length)

/-- Checks an attestation under a key that its seal may have to hold; without one, under the key
of its own seal. -/
def check (expected : Option (List UInt8)) (attestation : Attestation) : Except SignatureFault Unit :=
  match attestation.openSeal with
  | .error fault => .error fault
  | .ok (key, point, signature) =>
    if expected.any (· != key) then .error .foreignKey
    else
      match Signature.Ed25519.verify key point (message attestation.timestamp) signature with
      | .ok () => .ok ()
      | .error fault => .error (.signature fault)

end Attestation

/-- Someone who stamps instants and checks stamps. -/
structure AuditSigner where
  stampAt : Instant → Attestation
  check : Attestation → Except SignatureFault Unit

namespace AuditSigner

/-- A signer recognises every stamp of its own. -/
def IsSound (signer : AuditSigner) : Prop :=
  ∀ time, signer.check (signer.stampAt time) = .ok ()

/-- The stamp of a signing key: its public key and its signature. -/
def stampWith (key : Ed25519.SigningKey) (time : Instant) : Attestation :=
  let timestamp := Int64.ofInt time.unixSeconds
  ⟨timestamp, key.publicKey ++ key.sign (Attestation.message timestamp)⟩

/-- The signer with the key of a seed. -/
def ofSeed (seed : List UInt8) : AuditSigner :=
  let key := Ed25519.SigningKey.ofSeed seed
  { stampAt := stampWith key
    check := Attestation.check (some key.publicKey) }

/-- A signer who recognises a stamp of its own by making it again, and checks other attestations by
their signatures. -/
def restamping (key : Ed25519.SigningKey) : AuditSigner where
  stampAt := stampWith key
  check attestation :=
    if attestation.sealBytes =
        key.publicKey ++ key.sign (Attestation.message attestation.timestamp) then .ok ()
    else attestation.check (some key.publicKey)

theorem isSound_restamping (key : Ed25519.SigningKey) : (restamping key).IsSound :=
  fun _ => if_pos rfl

end AuditSigner

end LoanBook
