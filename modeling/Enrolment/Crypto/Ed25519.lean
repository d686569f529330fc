import Enrolment.Crypto.Edwards
import Enrolment.Crypto.Sha512
/-!
Ed25519 signatures, and X25519 public keys for key agreement.

A signature is checked by computing its first half anew and comparing the bytes. Public keys of small
order, and those whose bytes are not the shortest form, are taken like others.
-/
namespace Enrolment.Crypto

/-- Clears the lowest three bits and the highest one of 32 bytes, and sets the second highest. -/
def clamp (bytes : Bytes) : Nat :=
  let n := ofLittleEndian (bytes.take 32)
  Nat.pow 2 254 + (n % Nat.pow 2 254 - n % 8)

def multiplier (message : Bytes) : Nat := ofLittleEndian (Sha512.digest message) % Point.order

namespace Ed25519

def secretMultiplier (seed : Bytes) : Nat := clamp (Sha512.digest seed)

def publicKey (seed : Bytes) : Bytes := (Point.base.scale (secretMultiplier seed)).compress

def sign (seed message : Bytes) : Bytes :=
  let nonce := multiplier ((Sha512.digest seed).drop 32 ++ message)
  let commitment := (Point.base.scale nonce).compress
  let challenge := multiplier (commitment ++ publicKey seed ++ message)
  commitment ++ littleEndian 32 ((nonce + challenge * secretMultiplier seed) % Point.order)

def verify (publicKey message signature : Bytes) : Bool :=
  let commitment := signature.take 32
  let response := ofLittleEndian (signature.drop 32)
  match Point.decompress? publicKey with
  | none => false
  | some key =>
    if signature.length ≠ 64 || Point.order ≤ response then false
    else
      let challenge := multiplier (commitment ++ publicKey ++ message)
      ((Point.base.scale response).add (key.neg.scale challenge)).compress = commitment

end Ed25519

namespace X25519

/-- The public key to a secret: the Montgomery coordinate (1 + y)/(1 - y) of a multiple of the base. -/
def publicKey (secret : Bytes) : Bytes :=
  let p := Point.base.scale (clamp secret)
  littleEndian 32 ((p.z + p.y) * (p.z - p.y).inverse).value

end X25519
end Enrolment.Crypto
