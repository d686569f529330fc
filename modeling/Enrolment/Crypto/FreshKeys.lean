import Enrolment.Crypto.Ed25519
import Enrolment.KeyFactory
import Enrolment.Text.Base64
/-!
Keys made from random bytes. Identity keys sign; signed prekeys and last-resort prekeys agree on keys
and are signed with the identity key.
-/
namespace Enrolment.Crypto

/-- Random bytes still to be used, and the time that new keys are dated with. -/
structure Entropy where
  pool : Bytes
  now : Timestamp
  deriving DecidableEq, Inhabited

namespace Entropy

def draw (count : Nat) (e : Entropy) : Except Fault { bytes : Bytes // bytes.length = count } × Entropy :=
  if enough : count ≤ e.pool.length then
    (.ok ⟨e.pool.take count, by simp [enough]⟩, { e with pool := e.pool.drop count })
  else (.error (.of (.keySource "system randomness unavailable")), e)

def drawNumber (bound : Nat) (e : Entropy) : Except Fault UInt32 × Entropy :=
  let (bytes, e) := e.draw 4
  (bytes.map fun b => UInt32.ofNat (ofLittleEndian b.val % bound + 1), e)

end Entropy

/-- Signs with the private identity key, which is a seed of 32 bytes. -/
def signWith (identity : IdentityKeys) (message : Bytes) : Except Fault Bytes :=
  if identity.privateKey.length = 32 then .ok (Ed25519.sign identity.privateKey message)
  else .error (.during (.of .keyLength) .readingPrivateKey)

def agreementKey (id : PreKeyId) (identity : IdentityKeys) (e : Entropy) : Except Fault SignedPreKey × Entropy :=
  match e.draw 32 with
  | (.error f, e) => (.error f, e)
  | (.ok secret, e) =>
    let publicKey := X25519.publicKey secret.val
    ((signWith identity publicKey).map fun signature => ⟨id, publicKey, secret.val, signature, e.now⟩, e)

/-- Prekey ids start in the lower half, so that a counter can go on for long before it wraps. -/
def freshKeys : KeyFactory Entropy
  | .identity, e =>
    let (seed, e) := e.draw 32
    (seed.map fun seed => ⟨Ed25519.publicKey seed.val, seed.val⟩, e)
  | .signedPreKey id identity, e => agreementKey id identity e
  | .lastResortPreKey id identity, e =>
    let (key, e) := agreementKey id identity e
    (key.map fun key => ⟨key, true⟩, e)
  | .preKeyId, e =>
    let (n, e) := e.drawNumber (PreKeyId.max / 2)
    (n.map PreKeyId.mk, e)
  | .registrationId, e =>
    let (n, e) := e.drawNumber RegistrationId.max
    (n.map RegistrationId.mk, e)
  | .password, e =>
    let (bytes, e) := e.draw 18
    (bytes.map fun b => Text.base64 b.val, e)
  | .profileKey, e =>
    let (bytes, e) := e.draw 32
    (bytes.map fun b => ⟨b.val, b.property⟩, e)

end Enrolment.Crypto
