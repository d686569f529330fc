import Enrolment.Json.Record
import Enrolment.Uuid
/-!
What an account and its keys are known by: service identifiers in two namespaces, and the numbers
given to recipients, groups, devices, registrations and prekeys.
-/
namespace Enrolment

/-- The two namespaces that an account owns keys in: the account's own identifier, and the one that
stands behind its phone number. -/
inductive Namespace where
  | aci
  | pni
  deriving DecidableEq, Inhabited, Repr

namespace Namespace

/-- Both namespaces, in the order in which work goes through them. -/
def all : List Namespace := [.aci, .pni]

def name : Namespace → String
  | aci => "aci"
  | pni => "pni"

def toJson (n : Namespace) : Json := .str n.name

def ofJson? : Json → Option Namespace := Json.asVariant? [("aci", aci), ("pni", pni)]

end Namespace

def Uuid.toJson (u : Uuid) : Json := .str u.toText

def Uuid.ofJson? : Json → Option Uuid
  | .str s => Uuid.ofText? s
  | _ => none

structure Aci where
  uuid : Uuid
  deriving DecidableEq, Inhabited

structure Pni where
  uuid : Uuid
  deriving DecidableEq, Inhabited

namespace Aci

def toJson (a : Aci) : Json := a.uuid.toJson

def ofJson? (j : Json) : Option Aci := (Uuid.ofJson? j).map Aci.mk

end Aci

namespace Pni

def toJson (p : Pni) : Json := p.uuid.toJson

def ofJson? (j : Json) : Option Pni := (Uuid.ofJson? j).map Pni.mk

end Pni

inductive ServiceId where
  | aci (id : Aci)
  | pni (id : Pni)
  deriving DecidableEq, Inhabited

namespace ServiceId

def space : ServiceId → Namespace
  | aci _ => .aci
  | pni _ => .pni

def uuid : ServiceId → Uuid
  | aci id => id.uuid
  | pni id => id.uuid

def of : Namespace → Uuid → ServiceId
  | .aci, u => .aci ⟨u⟩
  | .pni, u => .pni ⟨u⟩

def toText : ServiceId → String
  | aci id => id.uuid.toText
  | pni id => "PNI:" ++ id.uuid.toText

def toJson (s : ServiceId) : Json := .obj [("kind", s.space.toJson), ("uuid", s.uuid.toJson)]

def ofJson? (j : Json) : Option ServiceId := do
  let f ← j.fields? ["kind", "uuid"]
  let space ← f.required? "kind" Namespace.ofJson?
  let uuid ← f.required? "uuid" Uuid.ofJson?
  return of space uuid

end ServiceId

/-! ## Numbers -/

def Json.asUInt32? (j : Json) : Option UInt32 := (j.asNat? UInt32.size).map UInt32.ofNat

def Json.asInt64? (j : Json) : Option Int64 := (j.asInt? Int64.minValue.toInt (Int64.maxValue.toInt + 1)).map Int64.ofInt

structure RecipientId where
  value : Int64
  deriving DecidableEq, Inhabited

structure GroupId where
  value : Int64
  deriving DecidableEq, Inhabited

structure DeviceId where
  value : UInt32
  deriving DecidableEq, Inhabited

structure RegistrationId where
  value : UInt32
  deriving DecidableEq, Inhabited

structure PreKeyId where
  value : UInt32
  deriving DecidableEq, Inhabited

def DeviceId.primary : DeviceId := ⟨1⟩

/-- Registration ids are 14-bit values. -/
def RegistrationId.max : Nat := 16380

/-- Prekey ids live in a 24-bit space shared with the service. -/
def PreKeyId.max : Nat := 0xFFFFFF

/-- Counters run up to the largest id and then start again from one. -/
def PreKeyId.next (id : PreKeyId) : PreKeyId :=
  if PreKeyId.max ≤ id.value.toNat then ⟨1⟩ else ⟨id.value + 1⟩

namespace RecipientId

def toJson (id : RecipientId) : Json := .int id.value.toInt

def ofJson? (j : Json) : Option RecipientId := j.asInt64?.map mk

end RecipientId

namespace GroupId

def toJson (id : GroupId) : Json := .int id.value.toInt

def ofJson? (j : Json) : Option GroupId := j.asInt64?.map mk

end GroupId

namespace DeviceId

def toJson (id : DeviceId) : Json := .nat id.value.toNat

def ofJson? (j : Json) : Option DeviceId := j.asUInt32?.map mk

end DeviceId

namespace RegistrationId

def toJson (id : RegistrationId) : Json := .nat id.value.toNat

def ofJson? (j : Json) : Option RegistrationId := j.asUInt32?.map mk

end RegistrationId

namespace PreKeyId

def toText (id : PreKeyId) : String := Text.decimalText id.value.toNat

def toJson (id : PreKeyId) : Json := .nat id.value.toNat

def ofJson? (j : Json) : Option PreKeyId := j.asUInt32?.map mk

end PreKeyId

/-! ## Profile keys and discoverability -/

structure ProfileKey where
  bytes : Bytes
  length_eq : bytes.length = 32
  deriving DecidableEq

namespace ProfileKey

def ofBytes? (bytes : Bytes) : Option ProfileKey :=
  if h : bytes.length = 32 then some ⟨bytes, h⟩ else none

def repeated (b : UInt8) : ProfileKey := ⟨List.replicate 32 b, List.length_replicate⟩

instance : Inhabited ProfileKey := ⟨repeated 0⟩

def toJson (k : ProfileKey) : Json := .ofBytes k.bytes

def ofJson? (j : Json) : Option ProfileKey := j.asBytes?.bind ofBytes?

end ProfileKey

inductive Discoverability where
  | undecided
  | discoverable
  | notDiscoverable
  deriving DecidableEq, Inhabited, Repr

namespace Discoverability

def name : Discoverability → String
  | undecided => "undecided"
  | discoverable => "discoverable"
  | notDiscoverable => "not_discoverable"

def toJson (d : Discoverability) : Json := .str d.name

def ofJson? : Json → Option Discoverability :=
  Json.asVariant? [("undecided", undecided), ("discoverable", discoverable),
    ("not_discoverable", notDiscoverable)]

end Discoverability
end Enrolment
