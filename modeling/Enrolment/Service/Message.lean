import Enrolment.Identity
import Enrolment.PhoneNumber
import Enrolment.Text.Base64
/-!
The messages of the account service: proving control of a number, and publishing prekeys.
-/
namespace Enrolment.Service

structure AccountAttributes where
  registrationId : RegistrationId
  pniRegistrationId : RegistrationId
  fetchesMessages : Bool
  registrationLock : Option String
  discoverableByPhoneNumber : Bool
  deriving DecidableEq, Inhabited

/-- Asks for the account of a number. A verification session or a recovery password proves control
of it. -/
structure VerifyRequest where
  number : PhoneNumber
  sessionId : Option String
  recoveryPassword : Option String
  attributes : AccountAttributes
  skipDeviceTransfer : Bool
  pushToken : Option String
  deriving DecidableEq, Inhabited

structure VerifyResponse where
  aci : Aci
  pni : Pni
  number : PhoneNumber
  storageCapable : Bool
  reregistration : Bool
  deriving DecidableEq, Inhabited

/-- A prekey as it is published, keys and signatures in base 64. -/
structure PublishedKey where
  keyId : PreKeyId
  publicKey : String
  signature : String
  deriving DecidableEq, Inhabited

/-- The signed prekey and the last-resort prekey of one namespace. -/
structure PreKeyUpload where
  identityKey : String
  signedPreKey : PublishedKey
  lastResortPreKey : PublishedKey
  deriving DecidableEq, Inhabited

structure Credentials where
  username : String
  password : String
  deriving DecidableEq, Inhabited

def present (name : String) : Option String → List (String × Json)
  | some s => [(name, .str s)]
  | none => []

namespace AccountAttributes

def toJson (a : AccountAttributes) : Json :=
  .obj ([("registrationId", a.registrationId.toJson), ("pniRegistrationId", a.pniRegistrationId.toJson),
    ("fetchesMessages", .bool a.fetchesMessages)] ++ present "registrationLock" a.registrationLock ++
    [("discoverableByPhoneNumber", .bool a.discoverableByPhoneNumber)])

def ofJson? (j : Json) : Option AccountAttributes := do
  let f ← j.fields? ["registrationId", "pniRegistrationId", "fetchesMessages", "registrationLock",
    "discoverableByPhoneNumber"]
  let registrationId ← f.required? "registrationId" RegistrationId.ofJson?
  let pniRegistrationId ← f.required? "pniRegistrationId" RegistrationId.ofJson?
  let fetchesMessages ← f.required? "fetchesMessages" Json.asBool?
  let registrationLock ← f.defaulted? "registrationLock" none (Json.asOption? Json.asString?)
  let discoverable ← f.required? "discoverableByPhoneNumber" Json.asBool?
  return ⟨registrationId, pniRegistrationId, fetchesMessages, registrationLock, discoverable⟩

end AccountAttributes

namespace VerifyRequest

def toJson (r : VerifyRequest) : Json :=
  .obj ([("number", r.number.toJson)] ++ present "sessionId" r.sessionId ++
    present "recoveryPassword" r.recoveryPassword ++
    [("accountAttributes", r.attributes.toJson), ("skipDeviceTransfer", .bool r.skipDeviceTransfer)] ++
    present "pushToken" r.pushToken)

def ofJson? (j : Json) : Option VerifyRequest := do
  let f ← j.fields? ["number", "sessionId", "recoveryPassword", "accountAttributes",
    "skipDeviceTransfer", "pushToken"]
  let number ← f.required? "number" PhoneNumber.ofJson?
  let sessionId ← f.defaulted? "sessionId" none (Json.asOption? Json.asString?)
  let recoveryPassword ← f.defaulted? "recoveryPassword" none (Json.asOption? Json.asString?)
  let attributes ← f.required? "accountAttributes" AccountAttributes.ofJson?
  let skipDeviceTransfer ← f.required? "skipDeviceTransfer" Json.asBool?
  let pushToken ← f.defaulted? "pushToken" none (Json.asOption? Json.asString?)
  return ⟨number, sessionId, recoveryPassword, attributes, skipDeviceTransfer, pushToken⟩

end VerifyRequest

namespace VerifyResponse

def toJson (r : VerifyResponse) : Json :=
  .obj [("uuid", r.aci.toJson), ("pni", r.pni.toJson), ("number", r.number.toJson),
    ("storageCapable", .bool r.storageCapable), ("reregistration", .bool r.reregistration)]

def ofJson? (j : Json) : Option VerifyResponse := do
  let f ← j.fields? ["uuid", "pni", "number", "storageCapable", "reregistration"]
  let aci ← f.required? "uuid" Aci.ofJson?
  let pni ← f.required? "pni" Pni.ofJson?
  let number ← f.required? "number" PhoneNumber.ofJson?
  let storageCapable ← f.defaulted? "storageCapable" false Json.asBool?
  let reregistration ← f.defaulted? "reregistration" false Json.asBool?
  return ⟨aci, pni, number, storageCapable, reregistration⟩

end VerifyResponse

namespace PublishedKey

def of (id : PreKeyId) (publicKey signature : Bytes) : PublishedKey :=
  ⟨id, Text.base64 publicKey, Text.base64 signature⟩

def toJson (k : PublishedKey) : Json :=
  .obj [("keyId", k.keyId.toJson), ("publicKey", .str k.publicKey), ("signature", .str k.signature)]

def ofJson? (j : Json) : Option PublishedKey := do
  let f ← j.fields? ["keyId", "publicKey", "signature"]
  let keyId ← f.required? "keyId" PreKeyId.ofJson?
  let publicKey ← f.required? "publicKey" Json.asString?
  let signature ← f.required? "signature" Json.asString?
  return ⟨keyId, publicKey, signature⟩

end PublishedKey

namespace PreKeyUpload

def of (identity : Bytes) (signedPreKey lastResortPreKey : PublishedKey) : PreKeyUpload :=
  ⟨Text.base64 identity, signedPreKey, lastResortPreKey⟩

def toJson (u : PreKeyUpload) : Json :=
  .obj [("identityKey", .str u.identityKey), ("signedPreKey", u.signedPreKey.toJson),
    ("pqLastResortPreKey", u.lastResortPreKey.toJson)]

def ofJson? (j : Json) : Option PreKeyUpload := do
  let f ← j.fields? ["identityKey", "signedPreKey", "pqLastResortPreKey"]
  let identityKey ← f.required? "identityKey" Json.asString?
  let signedPreKey ← f.required? "signedPreKey" PublishedKey.ofJson?
  let lastResortPreKey ← f.required? "pqLastResortPreKey" PublishedKey.ofJson?
  return ⟨identityKey, signedPreKey, lastResortPreKey⟩

end PreKeyUpload
end Enrolment.Service
