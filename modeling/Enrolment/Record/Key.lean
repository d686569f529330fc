import Enrolment.Identity
import Enrolment.Timestamp
/-!
Key records of one namespace: the identity keys, signed prekeys, the last-resort prekey, and the
ledger of prekey ids. Descriptions of records never show a private key.
-/
namespace Enrolment

structure IdentityKeys where
  publicKey : Bytes
  privateKey : Bytes
  deriving DecidableEq, Inhabited

structure SignedPreKey where
  id : PreKeyId
  publicKey : Bytes
  privateKey : Bytes
  signature : Bytes
  createdAt : Timestamp
  deriving DecidableEq, Inhabited

structure LastResortPreKey where
  key : SignedPreKey
  lastResort : Bool
  deriving DecidableEq, Inhabited

/-- Which prekey ids a namespace uses next, which are in use, and whether the service has the signed
prekey. -/
structure PreKeyLedger where
  nextSigned : Option PreKeyId
  activeSigned : Option PreKeyId
  nextLastResort : Option PreKeyId
  activeLastResort : Option PreKeyId
  signedRegistered : Bool
  deriving DecidableEq, Inhabited

namespace Text

def bytesInBrackets (bytes : Bytes) : String :=
  "[" ++ String.intercalate ", " (bytes.map fun b => decimalText b.toNat) ++ "]"

end Text

namespace IdentityKeys

def toJson (k : IdentityKeys) : Json :=
  .obj [("public_key", .ofBytes k.publicKey), ("private_key", .ofBytes k.privateKey)]

def ofJson? (j : Json) : Option IdentityKeys := do
  let f ← j.fields? ["public_key", "private_key"]
  let publicKey ← f.required? "public_key" Json.asBytes?
  let privateKey ← f.required? "private_key" Json.asBytes?
  return ⟨publicKey, privateKey⟩

def description (k : IdentityKeys) : String :=
  "IdentityKeyPair \x7b public_key: " ++ Text.bytesInBrackets k.publicKey ++
    ", private_key: \"<redacted>\" \x7d"

end IdentityKeys

namespace SignedPreKey

def toJson (k : SignedPreKey) : Json :=
  .obj [("id", k.id.toJson), ("public_key", .ofBytes k.publicKey), ("private_key", .ofBytes k.privateKey),
    ("signature", .ofBytes k.signature), ("created_at", .str k.createdAt.toText)]

def ofJson? (j : Json) : Option SignedPreKey := do
  let f ← j.fields? ["id", "public_key", "private_key", "signature", "created_at"]
  let id ← f.required? "id" PreKeyId.ofJson?
  let publicKey ← f.required? "public_key" Json.asBytes?
  let privateKey ← f.required? "private_key" Json.asBytes?
  let signature ← f.required? "signature" Json.asBytes?
  let createdAt ← f.required? "created_at" fun j => j.asString?.bind Timestamp.ofText?
  return ⟨id, publicKey, privateKey, signature, createdAt⟩

def description (k : SignedPreKey) : String :=
  "SignedKeyRecord \x7b id: PreKeyId(" ++ k.id.toText ++ "), public_key: " ++
    Text.bytesInBrackets k.publicKey ++ ", signature: " ++ Text.bytesInBrackets k.signature ++
    ", created_at: " ++ k.createdAt.toText ++ ", .. \x7d"

end SignedPreKey

namespace LastResortPreKey

def toJson (k : LastResortPreKey) : Json :=
  .obj [("key", k.key.toJson), ("last_resort", .bool k.lastResort)]

def ofJson? (j : Json) : Option LastResortPreKey := do
  let f ← j.fields? ["key", "last_resort"]
  let key ← f.required? "key" SignedPreKey.ofJson?
  let lastResort ← f.required? "last_resort" Json.asBool?
  return ⟨key, lastResort⟩

end LastResortPreKey

namespace PreKeyLedger

def initial : PreKeyLedger := ⟨none, none, none, none, false⟩

def toJson (l : PreKeyLedger) : Json :=
  .obj [("next_signed_pre_key_id", .option PreKeyId.toJson l.nextSigned),
    ("active_signed_pre_key_id", .option PreKeyId.toJson l.activeSigned),
    ("next_kyber_pre_key_id", .option PreKeyId.toJson l.nextLastResort),
    ("last_resort_kyber_pre_key_id", .option PreKeyId.toJson l.activeLastResort),
    ("signed_pre_key_registered", .bool l.signedRegistered)]

def ofJson? (j : Json) : Option PreKeyLedger := do
  let f ← j.fields? ["next_signed_pre_key_id", "active_signed_pre_key_id", "next_kyber_pre_key_id",
    "last_resort_kyber_pre_key_id", "signed_pre_key_registered"]
  let nextSigned ← f.optional? "next_signed_pre_key_id" PreKeyId.ofJson?
  let activeSigned ← f.optional? "active_signed_pre_key_id" PreKeyId.ofJson?
  let nextLastResort ← f.optional? "next_kyber_pre_key_id" PreKeyId.ofJson?
  let activeLastResort ← f.optional? "last_resort_kyber_pre_key_id" PreKeyId.ofJson?
  let signedRegistered ← f.required? "signed_pre_key_registered" Json.asBool?
  return ⟨nextSigned, activeSigned, nextLastResort, activeLastResort, signedRegistered⟩

end PreKeyLedger
end Enrolment
