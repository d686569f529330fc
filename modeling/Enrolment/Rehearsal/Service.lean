import Enrolment.Service.Request
/-!
An account service for rehearsals. It answers as a script says, and remembers what it was asked.
-/
namespace Enrolment.Rehearsal

open Service

inductive Reply (α : Type) where
  | usual
  | answer (a : α)
  | rejected (status : Nat) (message : String)
  | deprecated
  deriving DecidableEq, Inhabited

structure ServiceScript where
  verifications : List (Reply VerifyResponse)
  publications : List (Reply Unit)
  calls : List Request
  deriving DecidableEq, Inhabited

namespace ServiceScript

def empty : ServiceScript := ⟨[], [], []⟩

/-- The usual answer: two identifiers that never change, and the number that was asked for. -/
def usualResponse (number : PhoneNumber) : VerifyResponse :=
  ⟨⟨⟨0x000000000000400080000000000000a1⟩⟩, ⟨⟨0x000000000000400080000000000000b1⟩⟩, number, false, false⟩

def reply {α : Type} (path : String) (usual : α) : Option (Reply α) → Except NetworkError α
  | none | some .usual => .ok usual
  | some (.answer a) => .ok a
  | some (.rejected status message) => .error (.rejected path status ⟨.ofStatus status, message⟩)
  | some .deprecated => .error .deprecated

def service : AccountService ServiceScript
  | .verify request credentials, s =>
    (reply "/v1/registration" (usualResponse request.number) s.verifications.head?,
      { s with verifications := s.verifications.drop 1,
               calls := s.calls ++ [.verify request credentials] })
  | .publish space upload credentials, s =>
    (reply "/v2/keys" () s.publications.head?,
      { s with publications := s.publications.drop 1,
               calls := s.calls ++ [.publish space upload credentials] })

end ServiceScript
end Enrolment.Rehearsal
