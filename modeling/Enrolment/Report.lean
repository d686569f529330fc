import Enrolment.Client.Membership
import Enrolment.Client.Registration
/-!
How results and errors are told as documents. Keys and states are told in hexadecimal digits, and an
error by its kind and what belongs to it.
-/
namespace Enrolment.Report

def hex (bytes : Bytes) : Json := .str (Text.hexOfBytes bytes)

def error (kind : String) (members : List (String × Json)) : Json := .obj (("error", .str kind) :: members)

def panic (message : String) : Json := error "panic" [("message", .str message)]

/-! ## Records -/

def identityKeys (k : IdentityKeys) : Json :=
  .obj [("public_key", hex k.publicKey), ("private_key", hex k.privateKey)]

def signedPreKey (k : SignedPreKey) : Json :=
  .obj [("id", k.id.toJson), ("public_key", hex k.publicKey), ("private_key", hex k.privateKey),
    ("signature", hex k.signature), ("created_at", .str k.createdAt.toText)]

def lastResortPreKey (k : LastResortPreKey) : Json :=
  .obj [("key", signedPreKey k.key), ("last_resort", .bool k.lastResort)]

def session (s : Session) : Json :=
  .obj [("current", .option hex s.current), ("previous", .list hex s.previous), ("has_current", .bool s.hasCurrent)]

def recipient (r : Recipient) : Json :=
  .obj [("id", r.id.toJson), ("aci", .option Aci.toJson r.aci), ("pni", .option Pni.toJson r.pni),
    ("e164", .option PhoneNumber.toJson r.number), ("registered", r.registered.toJson),
    ("profile_sharing", .bool r.profileSharing), ("profile_key", .option (fun k => hex k.bytes) r.profileKey)]

def jobSpec (s : JobSpec) : Json :=
  .obj [("job", s.job.toJson), ("max_attempts", .nat s.maxAttempts.toNat), ("retry_ms", .nat s.retryInterval)]

def queueEntry : QueueEntry → Json
  | .single spec => .obj [("single", jobSpec spec)]
  | .chain specs => .obj [("chain", .list jobSpec specs)]

def serviceCall : Service.Request → Json
  | .verify request credentials =>
    .obj [("call", .str "verify"), ("request", request.toJson), ("username", .str credentials.username),
      ("password", .str credentials.password)]
  | .publish space upload credentials =>
    .obj [("call", .str "set_pre_keys"), ("kind", space.toJson), ("upload", upload.toJson),
      ("username", .str credentials.username), ("password", .str credentials.password)]

def completionInputs (i : CompletionInputs) : Json :=
  .obj [("registered", .bool i.registered), ("profile_name_set", .bool i.profileNameSet), ("has_pin", .bool i.hasPin),
    ("opted_out", .bool i.optedOut), ("already_complete", .bool i.alreadyComplete),
    ("decision", .bool i.shouldComplete)]

/-! ## Errors -/

def invalidNumber (e : InvalidPhoneNumber) : Json := error "InvalidE164" [("message", .str e.message)]

def fault (f : Fault) : Json := error "Store" [("message", .str f.message)]

def networkError (e : Service.NetworkError) : Json :=
  let code := ("code", Json.option Service.FailureCode.toJson e.code?)
  match e with
  | .invalidUrl _ => error "InvalidUrl" [code]
  | .transport path _ => error "Transport" [("path", .str path), code]
  | .rejected path status _ =>
    error "Rejected" [("path", .str path), ("status", .nat status), code, ("message", .str e.message)]
  | .deprecated => error "Deprecated" [code, ("message", .str e.message)]

/-- A failed attempt: its full text is left out where it ends in a tag. -/
def registrationError (e : Client.RegistrationError) : Json :=
  let told (kind : String) (f : Fault) : Json :=
    error kind ([("step", .option (fun s => .str s.name) e.step?), ("source", .str f.message)] ++
      (if f.cause.isForeign then [] else [("message", .str e.message)]))
  match e with
  | .unproven => error "InvalidRequest" [("message", .str e.message)]
  | .network cause => error "Network" [("network", networkError cause)]
  | .preparation cause => told "Preparation" cause
  | .stopped _ cause => told "Partial" cause

def busy (e : Lock.BusyError) : Json :=
  let rest := [("owner", Json.str e.owner), ("retryable", .bool true), ("message", .str e.message)]
  match e with
  | .timeout _ waited => error "Timeout" (("waited_ms", .nat waited) :: rest)
  | .interrupted _ => error "Interrupted" rest

def groupError (e : Client.GroupError) : Json :=
  match e with
  | .busy b => error "Busy" [("retryable", .bool e.isRetryable), ("busy", busy b)]
  | .store f => error "GroupStore" [("retryable", .bool e.isRetryable), ("message", .str f.message)]
  | .violation _ | .revisionOverflow | .attemptOverflow => panic e.message

def refusal : Lock.Refusal → Json
  | .acquire (.timedOut owner) => error "TimedOut" [("owner", .option .str owner)]
  | .acquire (.interrupted owner) => error "Interrupted" [("owner", .option .str owner)]
  | .busy e => busy e
  | .violation v => panic (v.message Lock.GroupLock.lockName)

/-! ## The account -/

open Activity Store

/-- Something that is read from the store, or why it cannot be read. -/
def reading {α : Type} (encode : α → Json) (a : Activity Fault α) : Plan effects Json := do
  match ← a.run with
  | .ok a => return encode a
  | .error f => return fault f

def slot {α : Type} (s : Slot α) : Plan effects Json := reading (Json.option s.encode) (get? s)

def flag (s : Slot Bool) : Plan effects Json := reading .bool (getOr s false)

def keysOf (space : Namespace) : Plan effects Json := do
  return .obj [("registration_id", ← slot (Account.registrationId space)),
    ("pre_keys", ← reading PreKeyLedger.toJson (Client.preKeys space)),
    ("identity", ← reading (Json.option fun k => hex k.publicKey) (store (.identityKeys space)))]

def account : Plan effects Json := do
  return .obj [("aci_keys", ← keysOf .aci), ("pni_keys", ← keysOf .pni), ("aci", ← slot Account.aci),
    ("pni", ← slot Account.pni), ("e164", ← slot Account.number),
    ("service_password", ← slot Account.servicePassword), ("push_token", ← slot Account.pushToken),
    ("device_id", ← slot Account.deviceId), ("registered", ← flag Account.registered),
    ("profile_key", ← reading (Json.option fun k => hex k.bytes) (get? Account.profileKey)),
    ("complete", ← flag Account.complete), ("profile_name", ← slot Account.profileName),
    ("profile_name_set", ← reading .bool Client.isProfileNameSet), ("has_pin", ← flag Account.pinSet),
    ("opted_out", ← flag Account.pinOptedOut), ("recovery_password", ← slot Account.recoveryPassword),
    ("registration_lock", ← flag Account.registrationLock),
    ("discoverability", ← reading Discoverability.toJson (getOr Account.discoverability .undecided)),
    ("sender_keys", ← reading Json.nat (store .senderKeyCount))]

end Enrolment.Report
