import Enrolment.Fault
import Enrolment.Record.Key
/-!
What a source of keys is asked for.
-/
namespace Enrolment

inductive KeyRequest where
  | identity
  | signedPreKey (id : PreKeyId) (identity : IdentityKeys)
  | lastResortPreKey (id : PreKeyId) (identity : IdentityKeys)
  | preKeyId
  | registrationId
  | password
  | profileKey
  deriving DecidableEq, Inhabited

@[reducible] def KeyRequest.Result : KeyRequest → Type
  | identity => IdentityKeys
  | signedPreKey _ _ => SignedPreKey
  | lastResortPreKey _ _ => LastResortPreKey
  | preKeyId => PreKeyId
  | registrationId => RegistrationId
  | password => String
  | profileKey => ProfileKey

/-- A source of keys with a state of its own. -/
abbrev KeyFactory (κ : Type) := (request : KeyRequest) → κ → Except Fault request.Result × κ

end Enrolment
