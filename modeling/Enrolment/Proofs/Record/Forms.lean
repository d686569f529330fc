import Enrolment.Proofs.Service.RoundTrip
/-!
Every type that is written as a JSON text, and the two directions of its form.

A value is never lost on the way through its text, but for a time in a leap second that does not end its
minute: it comes back as the second after. A text need not come back, because readers pass over members
that they do not know and take arrays for records, but the value it stands for does.
-/
namespace Enrolment

open Json

structure Form where
  Value : Type
  encode : Value → Json
  decode? : Json → Option Value

namespace Form

def write (f : Form) (v : f.Value) : String := (f.encode v).render

def read? (f : Form) (text : String) : Option f.Value := (Json.document? text).bind f.decode?

def reread? (f : Form) (text : String) : Option f.Value := (f.read? text).bind fun v => f.read? (f.write v)

theorem read?_write_of_plain {f : Form} {v v' : f.Value} (back : f.decode? (f.encode v) = some v')
    (plain : (f.encode v).isPlain = true) : f.read? (f.write v) = some v' := by
  rw [read?, write, document?_render plain, Option.bind_some, back]

theorem read?_write_of_faithful {f : Form} (faithful : Faithful f.encode f.decode?) (v : f.Value) :
    f.read? (f.write v) = some v :=
  read?_write_of_plain (faithful.decode_encode v) (isPlainTo_of_le (by decide) (faithful.plain v))

theorem reread?_eq {f : Form} (back : ∀ j v, f.decode? j = some v → f.read? (f.write v) = some v) (text : String) :
    f.reread? text = f.read? text := by
  cases found : f.read? text with
  | none => simp only [reread?, found, Option.bind_none]
  | some v =>
    obtain ⟨j, -, decoded⟩ := Option.bind_eq_some_iff.1 found
    simp only [reread?, found, Option.bind_some, back j v decoded]

end Form

/-- The types that are written as JSON texts, whether for the service, the store or a report. -/
inductive Written where
  | recipientId | groupId | deviceId | registrationId | preKeyId
  | space | aci | pni | serviceId
  | phoneNumber | profileKey | discoverability
  | failureCode | failure
  | accountAttributes | verifyRequest | verifyResponse | publishedKey | preKeyUpload
  | preKeyLedger | identityKeys | signedPreKey | lastResortPreKey
  | peerAddress | session | group | registeredState | recipient | job
  deriving DecidableEq

namespace Written

def form : Written → Form
  | recipientId => ⟨RecipientId, RecipientId.toJson, RecipientId.ofJson?⟩
  | groupId => ⟨GroupId, GroupId.toJson, GroupId.ofJson?⟩
  | deviceId => ⟨DeviceId, DeviceId.toJson, DeviceId.ofJson?⟩
  | registrationId => ⟨RegistrationId, RegistrationId.toJson, RegistrationId.ofJson?⟩
  | preKeyId => ⟨PreKeyId, PreKeyId.toJson, PreKeyId.ofJson?⟩
  | space => ⟨Namespace, Namespace.toJson, Namespace.ofJson?⟩
  | aci => ⟨Aci, Aci.toJson, Aci.ofJson?⟩
  | pni => ⟨Pni, Pni.toJson, Pni.ofJson?⟩
  | serviceId => ⟨ServiceId, ServiceId.toJson, ServiceId.ofJson?⟩
  | phoneNumber => ⟨PhoneNumber, PhoneNumber.toJson, PhoneNumber.ofJson?⟩
  | profileKey => ⟨ProfileKey, ProfileKey.toJson, ProfileKey.ofJson?⟩
  | discoverability => ⟨Discoverability, Discoverability.toJson, Discoverability.ofJson?⟩
  | failureCode => ⟨Service.FailureCode, Service.FailureCode.toJson, Service.FailureCode.ofJson?⟩
  | failure => ⟨Service.Failure, Service.Failure.toJson, Service.Failure.ofJson?⟩
  | accountAttributes =>
    ⟨Service.AccountAttributes, Service.AccountAttributes.toJson, Service.AccountAttributes.ofJson?⟩
  | verifyRequest => ⟨Service.VerifyRequest, Service.VerifyRequest.toJson, Service.VerifyRequest.ofJson?⟩
  | verifyResponse => ⟨Service.VerifyResponse, Service.VerifyResponse.toJson, Service.VerifyResponse.ofJson?⟩
  | publishedKey => ⟨Service.PublishedKey, Service.PublishedKey.toJson, Service.PublishedKey.ofJson?⟩
  | preKeyUpload => ⟨Service.PreKeyUpload, Service.PreKeyUpload.toJson, Service.PreKeyUpload.ofJson?⟩
  | preKeyLedger => ⟨PreKeyLedger, PreKeyLedger.toJson, PreKeyLedger.ofJson?⟩
  | identityKeys => ⟨IdentityKeys, IdentityKeys.toJson, IdentityKeys.ofJson?⟩
  | signedPreKey => ⟨SignedPreKey, SignedPreKey.toJson, SignedPreKey.ofJson?⟩
  | lastResortPreKey => ⟨LastResortPreKey, LastResortPreKey.toJson, LastResortPreKey.ofJson?⟩
  | peerAddress => ⟨PeerAddress, PeerAddress.toJson, PeerAddress.ofJson?⟩
  | session => ⟨Session, Session.toJson, Session.ofJson?⟩
  | group => ⟨Group, Group.toJson, Group.ofJson?⟩
  | registeredState => ⟨RegisteredState, RegisteredState.toJson, RegisteredState.ofJson?⟩
  | recipient => ⟨Recipient, Recipient.toJson, Recipient.ofJson?⟩
  | job => ⟨Job, Job.toJson, Job.ofJson?⟩

/-- What a text shows of a value. Only the times of keys may differ. -/
def shown : (w : Written) → w.form.Value → w.form.Value
  | signedPreKey => SignedPreKey.civil
  | lastResortPreKey => LastResortPreKey.civil
  | _ => id

/-- Every time in a value is one that clocks show. -/
def IsCivil : (w : Written) → w.form.Value → Prop
  | signedPreKey => fun k : SignedPreKey => k.createdAt.IsCivil
  | lastResortPreKey => fun k : LastResortPreKey => k.key.createdAt.IsCivil
  | _ => fun _ => True

theorem shown_eq_self_iff : ∀ (w : Written) (v : w.form.Value), w.shown v = v ↔ w.IsCivil v
  | signedPreKey => fun _ => SignedPreKey.civil_eq_self_iff
  | lastResortPreKey => fun _ => LastResortPreKey.civil_eq_self_iff
  | recipientId | groupId | deviceId | registrationId | preKeyId | space | aci | pni | serviceId | phoneNumber
  | profileKey | discoverability | failureCode | failure | accountAttributes | verifyRequest | verifyResponse
  | publishedKey | preKeyUpload | preKeyLedger | identityKeys | peerAddress | session | group | registeredState
  | recipient | job => fun _ => iff_of_true rfl trivial

private theorem isCivil_of_decode? : ∀ (w : Written) {j : Json} {v : w.form.Value}, w.form.decode? j = some v → w.IsCivil v
  | signedPreKey => fun read => SignedPreKey.isCivil_of_ofJson? read
  | lastResortPreKey => fun read => LastResortPreKey.isCivil_of_ofJson? read
  | recipientId | groupId | deviceId | registrationId | preKeyId | space | aci | pni | serviceId | phoneNumber
  | profileKey | discoverability | failureCode | failure | accountAttributes | verifyRequest | verifyResponse
  | publishedKey | preKeyUpload | preKeyLedger | identityKeys | peerAddress | session | group | registeredState
  | recipient | job => fun _ => trivial

open Form in
private theorem read?_write : ∀ (w : Written) (v : w.form.Value), w.form.read? (w.form.write v) = some (w.shown v)
  | recipientId => read?_write_of_faithful RecipientId.faithful
  | groupId => read?_write_of_faithful GroupId.faithful
  | deviceId => read?_write_of_faithful DeviceId.faithful
  | registrationId => read?_write_of_faithful RegistrationId.faithful
  | preKeyId => read?_write_of_faithful PreKeyId.faithful
  | space => read?_write_of_faithful Namespace.faithful
  | aci => read?_write_of_faithful Aci.faithful
  | pni => read?_write_of_faithful Pni.faithful
  | serviceId => read?_write_of_faithful ServiceId.faithful
  | phoneNumber => read?_write_of_faithful PhoneNumber.faithful
  | profileKey => read?_write_of_faithful ProfileKey.faithful
  | discoverability => read?_write_of_faithful Discoverability.faithful
  | failureCode => read?_write_of_faithful Service.FailureCode.faithful
  | failure => fun f => read?_write_of_plain (Service.Failure.ofJson?_toJson f) f.isPlain_toJson
  | accountAttributes => fun a =>
    read?_write_of_plain (Service.AccountAttributes.ofJson?_toJson a) (isPlainTo_of_le (by decide) a.isPlainTo_toJson)
  | verifyRequest => fun r => read?_write_of_plain (Service.VerifyRequest.ofJson?_toJson r) r.isPlain_toJson
  | verifyResponse => fun r => read?_write_of_plain (Service.VerifyResponse.ofJson?_toJson r) r.isPlain_toJson
  | publishedKey => fun k =>
    read?_write_of_plain (Service.PublishedKey.ofJson?_toJson k) (isPlainTo_of_le (by decide) k.isPlainTo_toJson)
  | preKeyUpload => fun u => read?_write_of_plain (Service.PreKeyUpload.ofJson?_toJson u) u.isPlain_toJson
  | preKeyLedger => read?_write_of_faithful PreKeyLedger.faithful
  | identityKeys => fun k => read?_write_of_plain (IdentityKeys.ofJson?_toJson k) k.isPlain_toJson
  | signedPreKey => fun k =>
    read?_write_of_plain (SignedPreKey.ofJson?_toJson k) (isPlainTo_of_le (by decide) k.isPlainTo_toJson)
  | lastResortPreKey => fun k => read?_write_of_plain (LastResortPreKey.ofJson?_toJson k) k.isPlain_toJson
  | peerAddress => fun a => read?_write_of_plain (PeerAddress.ofJson?_toJson a) a.isPlain_toJson
  | session => fun s => read?_write_of_plain (Session.ofJson?_toJson s) s.isPlain_toJson
  | group => fun g => read?_write_of_plain (Group.ofJson?_toJson g) g.isPlain_toJson
  | registeredState => read?_write_of_faithful RegisteredState.faithful
  | recipient => fun r => read?_write_of_plain (Recipient.ofJson?_toJson r) r.isPlain_toJson
  | job => read?_write_of_faithful Job.faithful

/-- A value is read back from its text, with the times as the text shows them, which is to say just as it was
unless a leap second in it does not end its minute. So a text that was read means the same once its value has
been written anew. -/
theorem read_back (w : Written) :
    (∀ v : w.form.Value, w.form.read? (w.form.write v) = some (w.shown v) ∧ (w.shown v = v ↔ w.IsCivil v)) ∧
      ∀ text : String, w.form.reread? text = w.form.read? text := by
  refine ⟨fun v => ⟨read?_write w v, shown_eq_self_iff w v⟩, Form.reread?_eq fun j v decoded => ?_⟩
  have civil := isCivil_of_decode? w decoded
  rw [read?_write, (shown_eq_self_iff w v).2 civil]

/-- A key made within a leap second after 22:13:19 is read back as made at 22:13:20. -/
theorem not_read_back_of_leap :
    let k : SignedPreKey := ⟨⟨1⟩, [5], [6], [7], ⟨⟨2023, 11, 14, 22, 13, 19, 1500000000⟩, by decide⟩⟩
    let later : SignedPreKey := ⟨⟨1⟩, [5], [6], [7], ⟨⟨2023, 11, 14, 22, 13, 20, 500000000⟩, by decide⟩⟩
    signedPreKey.form.read? (signedPreKey.form.write k) = some later ∧ later ≠ k := by
  intro k later
  have civil : k.civil = later := by decide
  exact ⟨(read?_write signedPreKey k).trans (congrArg some civil), by decide⟩

end Written
end Enrolment
