import Enrolment.Identity
import Enrolment.PhoneNumber
/-!
Recipients: the people that messages go to, among them the account itself.
-/
namespace Enrolment

inductive RegisteredState where
  | unknown
  | registered
  | notRegistered
  deriving DecidableEq, Inhabited, Repr

namespace RegisteredState

def all : List RegisteredState := [unknown, registered, notRegistered]

def name : RegisteredState → String
  | unknown => "unknown"
  | registered => "registered"
  | notRegistered => "not_registered"

def ofName? (name : String) : Option RegisteredState := (all.map fun s => (s.name, s)).lookup name

def toJson (s : RegisteredState) : Json := .str s.name

def ofJson? : Json → Option RegisteredState := Json.asVariant? (all.map fun s => (s.name, s))

end RegisteredState

structure Recipient where
  id : RecipientId
  aci : Option Aci
  pni : Option Pni
  number : Option PhoneNumber
  registered : RegisteredState
  profileSharing : Bool
  profileKey : Option ProfileKey
  deriving DecidableEq, Inhabited

namespace Recipient

def new (id : RecipientId) : Recipient := ⟨id, none, none, none, .unknown, false, none⟩

def toJson (r : Recipient) : Json :=
  .obj [("id", r.id.toJson), ("aci", .option Aci.toJson r.aci), ("pni", .option Pni.toJson r.pni),
    ("e164", .option PhoneNumber.toJson r.number), ("registered", r.registered.toJson),
    ("profile_sharing", .bool r.profileSharing), ("profile_key", .option ProfileKey.toJson r.profileKey)]

def ofJson? (j : Json) : Option Recipient := do
  let f ← j.fields? ["id", "aci", "pni", "e164", "registered", "profile_sharing", "profile_key"]
  let id ← f.required? "id" RecipientId.ofJson?
  let aci ← f.optional? "aci" Aci.ofJson?
  let pni ← f.optional? "pni" Pni.ofJson?
  let number ← f.optional? "e164" PhoneNumber.ofJson?
  let state ← f.required? "registered" RegisteredState.ofJson?
  let profileSharing ← f.required? "profile_sharing" Json.asBool?
  let profileKey ← f.optional? "profile_key" ProfileKey.ofJson?
  return ⟨id, aci, pni, number, state, profileSharing, profileKey⟩

end Recipient
end Enrolment
