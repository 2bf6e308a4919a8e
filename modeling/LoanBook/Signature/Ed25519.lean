import LoanBook.Signature.Edwards
import LoanBook.Signature.Sha512

/-!
# Ed25519 signatures

Signing with a seed of 32 bytes and verifying with a public key of 32 bytes. Verification
recomputes the first half of the signature and compares bytes, so it accepts keys of small order
and refuses a first half that is not written canonically; the second half must be below the order
of the group.
-/

namespace LoanBook.Signature.Ed25519

open Edwards

/-- Why a signature is refused. -/
inductive Fault where
  | badPoint
  | badScalar
  | badEquation
deriving DecidableEq

/-- The hash of some bytes as a number below the order of the group. -/
def hashScalar (message : List UInt8) : Nat :=
  Point.ofLittleEndian (Sha512.hash message) % groupOrder

/-- A signing key: its secret scalar, the bytes that its nonces start from, and its public key. -/
structure SigningKey where
  secret : Nat
  nonceSeed : List UInt8
  publicKey : List UInt8

/-- The key of a seed: half of its hash, with its low bits cleared and its length fixed, is the
secret scalar. -/
def SigningKey.ofSeed (seed : List UInt8) : SigningKey :=
  let digest := Sha512.hash seed
  let low := Point.ofLittleEndian (digest.take 32) % 2 ^ 254
  let secret := low - low % 8 + 2 ^ 254
  { secret
    nonceSeed := digest.drop 32
    publicKey := (Point.scale secret Point.base).encode }

def SigningKey.sign (key : SigningKey) (message : List UInt8) : List UInt8 :=
  let nonce := hashScalar (key.nonceSeed ++ message)
  let commitment := (Point.scale nonce Point.base).encode
  let challenge := hashScalar (commitment ++ key.publicKey ++ message)
  commitment ++ Point.littleEndian ((nonce + challenge * key.secret) % groupOrder) 32

/-- Checks a signature of 64 bytes under a public key that decodes to the given point. -/
def verify (publicKey : List UInt8) (point : Point) (message signature : List UInt8) :
    Except Fault Unit :=
  let commitment := signature.take 32
  let response := Point.ofLittleEndian (signature.drop 32)
  if groupOrder ≤ response then .error .badScalar
  else
    let challenge := hashScalar (commitment ++ publicKey ++ message)
    if (Point.combine response Point.base challenge point.negate).encode = commitment then .ok ()
    else .error .badEquation

end LoanBook.Signature.Ed25519
