import Enrolment.Fault
import Enrolment.Record.Key
/-!
The values that describe the account, each under a key of its own and in a form of its own.
-/
namespace Enrolment.Store

structure Slot (α : Type) where
  key : String
  encode : α → Json
  decode? : Json → Option α

namespace Slot

variable {α : Type}

def text (key : String) : Slot String := ⟨key, .str, Json.asString?⟩

def flag (key : String) : Slot Bool := ⟨key, .bool, Json.asBool?⟩

/-- What a stored document means; it may not be there. -/
def interpret (slot : Slot α) : Option Json → Except Fault (Option α)
  | none => .ok none
  | some j =>
    match slot.decode? j with
    | some a => .ok (some a)
    | none => .error (.during (.ofMedium .json) (.decodingValue slot.key))

end Slot

/-! ## The account -/

namespace Account

def aci : Slot Aci := ⟨"account.aci", Aci.toJson, Aci.ofJson?⟩

def pni : Slot Pni := ⟨"account.pni", Pni.toJson, Pni.ofJson?⟩

def number : Slot PhoneNumber := ⟨"account.e164", PhoneNumber.toJson, PhoneNumber.ofJson?⟩

def servicePassword : Slot String := .text "account.service_password"

def pushToken : Slot String := .text "account.push_token"

def deviceId : Slot DeviceId := ⟨"account.device_id", DeviceId.toJson, DeviceId.ofJson?⟩

def registered : Slot Bool := .flag "account.registered"

def profileKey : Slot ProfileKey := ⟨"account.profile_key", ProfileKey.toJson, ProfileKey.ofJson?⟩

def registrationId (space : Namespace) : Slot RegistrationId :=
  ⟨"account." ++ space.name ++ ".registration_id", RegistrationId.toJson, RegistrationId.ofJson?⟩

def preKeys (space : Namespace) : Slot PreKeyLedger :=
  ⟨"account." ++ space.name ++ ".pre_keys", PreKeyLedger.toJson, PreKeyLedger.ofJson?⟩

/-- Set once, when the enrolment is complete. -/
def complete : Slot Bool := .flag "registration.complete"

def profileName : Slot String := .text "profile.given_name"

def pinSet : Slot Bool := .flag "svr.pin_set"

def pinOptedOut : Slot Bool := .flag "svr.opted_out"

def recoveryPassword : Slot String := .text "svr.recovery_password"

def registrationLock : Slot Bool := .flag "svr.registration_lock_enabled"

def discoverability : Slot Discoverability :=
  ⟨"phone_number_privacy.discoverability", Discoverability.toJson, Discoverability.ofJson?⟩

end Account
end Enrolment.Store
