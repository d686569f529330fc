import Enrolment.Service.Message
import Enrolment.Service.NetworkError
/-!
What the account service is asked for.
-/
namespace Enrolment.Service

inductive Request where
  | verify (request : VerifyRequest) (credentials : Credentials)
  | publish (space : Namespace) (upload : PreKeyUpload) (credentials : Credentials)
  deriving DecidableEq, Inhabited

@[reducible] def Request.Result : Request → Type
  | verify _ _ => VerifyResponse
  | publish _ _ _ => Unit

abbrev AccountService (σ : Type) := (request : Request) → σ → Except NetworkError request.Result × σ

end Enrolment.Service
