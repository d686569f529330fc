import Enrolment.Identity
/-!
Sessions with the devices of peers. A session is a current state, if there is one, and the states
before it, newest first.
-/
namespace Enrolment

structure PeerAddress where
  serviceId : ServiceId
  deviceId : DeviceId
  deriving DecidableEq, Inhabited

structure Session where
  current : Option Bytes
  previous : List Bytes
  deriving DecidableEq, Inhabited

namespace PeerAddress

def toJson (a : PeerAddress) : Json :=
  .obj [("service_id", a.serviceId.toJson), ("device_id", a.deviceId.toJson)]

def ofJson? (j : Json) : Option PeerAddress := do
  let f ← j.fields? ["service_id", "device_id"]
  let serviceId ← f.required? "service_id" ServiceId.ofJson?
  let deviceId ← f.required? "device_id" DeviceId.ofJson?
  return ⟨serviceId, deviceId⟩

end PeerAddress

namespace Session

def empty : Session := ⟨none, []⟩

def hasCurrent (s : Session) : Bool := s.current.isSome

def states (s : Session) : List Bytes := s.current.toList ++ s.previous

def archive (s : Session) : Session := ⟨none, s.states⟩

def push (s : Session) (state : Bytes) : Session := ⟨some state, s.states⟩

theorem states_archive (s : Session) : s.archive.states = s.states := rfl

theorem states_push (s : Session) (state : Bytes) : (s.push state).states = state :: s.states := rfl

def toJson (s : Session) : Json :=
  .obj [("current", .option Json.ofBytes s.current), ("previous", .list Json.ofBytes s.previous)]

def ofJson? (j : Json) : Option Session := do
  let f ← j.fields? ["current", "previous"]
  let current ← f.optional? "current" Json.asBytes?
  let previous ← f.required? "previous" (Json.asList? Json.asBytes?)
  return ⟨current, previous⟩

end Session
end Enrolment
