import Enrolment.Service.Failure
import Enrolment.Service.Message
import Enrolment.Proofs.Record.RoundTrip
/-!
The messages of the account service are read back from the documents that they are written as. A text
that a message leaves out is read as absent.
-/
namespace Enrolment.Service

open Json

theorem FailureCode.faithful : Faithful FailureCode.toJson FailureCode.ofJson? :=
  ⟨fun c => by cases c <;> decide, fun _ => rfl⟩

theorem Failure.ofJson?_toJson (f : Failure) : ofJson? f.toJson = some f := by
  have read : f.toJson.fields? ["code", "message"] =
      some ⟨true, [("code", f.code.toJson), ("message", .str f.message)]⟩ := rfl
  rw [ofJson?, read, Option.bind_eq_bind, Option.bind_some, Fields.required?_of_lookup rfl,
    Fields.required?_of_lookup rfl, FailureCode.faithful.decode_encode]
  rfl

theorem Failure.isPlain_toJson (f : Failure) : f.toJson.isPlain = true := by
  simp [Json.isPlain, nestingLimit, toJson, isPlainTo, areMembersPlainTo, FailureCode.toJson]

/-! ## Proving control of a number -/

/-- A text that is left out of a record where there is none. -/
private theorem defaulted?_of_present {f : Fields} {name : String} {o : Option String}
    (found : f.values.lookup name = o.map .str) : f.defaulted? name none (asOption? asString?) = some o := by
  rw [Fields.defaulted?, found]
  cases o <;> rfl

theorem AccountAttributes.ofJson?_toJson (a : AccountAttributes) : ofJson? a.toJson = some a := by
  obtain ⟨registrationId, pniRegistrationId, fetchesMessages, registrationLock, discoverable⟩ := a
  obtain ⟨values, read, first, second, fetches, lock, found⟩ : ∃ values,
      (toJson ⟨registrationId, pniRegistrationId, fetchesMessages, registrationLock, discoverable⟩).fields?
        ["registrationId", "pniRegistrationId", "fetchesMessages", "registrationLock", "discoverableByPhoneNumber"] =
          some ⟨true, values⟩ ∧
      values.lookup "registrationId" = some registrationId.toJson ∧
      values.lookup "pniRegistrationId" = some pniRegistrationId.toJson ∧
      values.lookup "fetchesMessages" = some (.bool fetchesMessages) ∧
      values.lookup "registrationLock" = registrationLock.map .str ∧
      values.lookup "discoverableByPhoneNumber" = some (.bool discoverable) := by
    cases registrationLock <;> exact ⟨_, rfl, rfl, rfl, rfl, rfl, rfl⟩
  rw [ofJson?, read, Option.bind_eq_bind, Option.bind_some, Fields.required?_of_lookup first,
    Fields.required?_of_lookup second, Fields.required?_of_lookup fetches, defaulted?_of_present lock,
    Fields.required?_of_lookup found, RegistrationId.faithful.decode_encode, RegistrationId.faithful.decode_encode]
  rfl

theorem AccountAttributes.isPlainTo_toJson (a : AccountAttributes) : a.toJson.isPlainTo 2 = true := by
  have first := RegistrationId.faithful.plain a.registrationId
  have second := RegistrationId.faithful.plain a.pniRegistrationId
  obtain ⟨registrationId, pniRegistrationId, fetchesMessages, registrationLock, discoverable⟩ := a
  cases registrationLock <;>
    simp [toJson, present, isPlainTo, areMembersPlainTo, first, second]

theorem VerifyRequest.ofJson?_toJson (r : VerifyRequest) : ofJson? r.toJson = some r := by
  obtain ⟨number, sessionId, recoveryPassword, attributes, skipDeviceTransfer, pushToken⟩ := r
  obtain ⟨values, read, known, session, recovery, account, skip, token⟩ : ∃ values,
      (toJson ⟨number, sessionId, recoveryPassword, attributes, skipDeviceTransfer, pushToken⟩).fields?
        ["number", "sessionId", "recoveryPassword", "accountAttributes", "skipDeviceTransfer", "pushToken"] =
          some ⟨true, values⟩ ∧
      values.lookup "number" = some number.toJson ∧
      values.lookup "sessionId" = sessionId.map .str ∧
      values.lookup "recoveryPassword" = recoveryPassword.map .str ∧
      values.lookup "accountAttributes" = some attributes.toJson ∧
      values.lookup "skipDeviceTransfer" = some (.bool skipDeviceTransfer) ∧
      values.lookup "pushToken" = pushToken.map .str := by
    cases sessionId <;> cases recoveryPassword <;> cases pushToken <;>
      exact ⟨_, rfl, rfl, rfl, rfl, rfl, rfl, rfl⟩
  rw [ofJson?, read, Option.bind_eq_bind, Option.bind_some, Fields.required?_of_lookup known,
    defaulted?_of_present session, defaulted?_of_present recovery, Fields.required?_of_lookup account,
    Fields.required?_of_lookup skip, defaulted?_of_present token, PhoneNumber.faithful.decode_encode,
    AccountAttributes.ofJson?_toJson]
  rfl

theorem VerifyRequest.isPlain_toJson (r : VerifyRequest) : r.toJson.isPlain = true := by
  have number := isPlainTo_of_le (show 1 ≤ 126 by decide) (PhoneNumber.faithful.plain r.number)
  have attributes := isPlainTo_of_le (show 2 ≤ 126 by decide) r.attributes.isPlainTo_toJson
  obtain ⟨_, sessionId, recoveryPassword, _, _, pushToken⟩ := r
  cases sessionId <;> cases recoveryPassword <;> cases pushToken <;>
    simp [Json.isPlain, nestingLimit, toJson, present, isPlainTo, areMembersPlainTo, number, attributes]

theorem VerifyResponse.ofJson?_toJson (r : VerifyResponse) : ofJson? r.toJson = some r := by
  have read : r.toJson.fields? ["uuid", "pni", "number", "storageCapable", "reregistration"] =
      some ⟨true, [("uuid", r.aci.toJson), ("pni", r.pni.toJson), ("number", r.number.toJson),
        ("storageCapable", .bool r.storageCapable), ("reregistration", .bool r.reregistration)]⟩ := rfl
  rw [ofJson?, read, Option.bind_eq_bind, Option.bind_some, Fields.required?_of_lookup rfl,
    Fields.required?_of_lookup rfl, Fields.required?_of_lookup rfl, Fields.defaulted?_of_lookup rfl,
    Fields.defaulted?_of_lookup rfl, Aci.faithful.decode_encode, Pni.faithful.decode_encode,
    PhoneNumber.faithful.decode_encode]
  rfl

theorem VerifyResponse.isPlain_toJson (r : VerifyResponse) : r.toJson.isPlain = true := by
  simp [Json.isPlain, nestingLimit, toJson, isPlainTo, areMembersPlainTo, Aci.toJson, Pni.toJson, Uuid.toJson,
    PhoneNumber.toJson]

/-! ## Publishing prekeys -/

theorem PublishedKey.ofJson?_toJson (k : PublishedKey) : ofJson? k.toJson = some k := by
  have read : k.toJson.fields? ["keyId", "publicKey", "signature"] =
      some ⟨true, [("keyId", k.keyId.toJson), ("publicKey", .str k.publicKey), ("signature", .str k.signature)]⟩ := rfl
  rw [ofJson?, read, Option.bind_eq_bind, Option.bind_some, Fields.required?_of_lookup rfl,
    Fields.required?_of_lookup rfl, Fields.required?_of_lookup rfl, PreKeyId.faithful.decode_encode]
  rfl

theorem PublishedKey.isPlainTo_toJson (k : PublishedKey) : k.toJson.isPlainTo 2 = true := by
  have keyId := PreKeyId.faithful.plain k.keyId
  simp [toJson, isPlainTo, areMembersPlainTo, keyId]

theorem PreKeyUpload.ofJson?_toJson (u : PreKeyUpload) : ofJson? u.toJson = some u := by
  have read : u.toJson.fields? ["identityKey", "signedPreKey", "pqLastResortPreKey"] =
      some ⟨true, [("identityKey", .str u.identityKey), ("signedPreKey", u.signedPreKey.toJson),
        ("pqLastResortPreKey", u.lastResortPreKey.toJson)]⟩ := rfl
  rw [ofJson?, read, Option.bind_eq_bind, Option.bind_some, Fields.required?_of_lookup rfl,
    Fields.required?_of_lookup rfl, Fields.required?_of_lookup rfl, PublishedKey.ofJson?_toJson,
    PublishedKey.ofJson?_toJson]
  rfl

theorem PreKeyUpload.isPlain_toJson (u : PreKeyUpload) : u.toJson.isPlain = true := by
  have signed := isPlainTo_of_le (show 2 ≤ 126 by decide) u.signedPreKey.isPlainTo_toJson
  have lastResort := isPlainTo_of_le (show 2 ≤ 126 by decide) u.lastResortPreKey.isPlainTo_toJson
  simp [Json.isPlain, nestingLimit, toJson, isPlainTo, areMembersPlainTo, signed, lastResort]

end Enrolment.Service
