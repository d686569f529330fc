import Enrolment.Service.Failure
import Enrolment.Url
/-!
Why a call to the account service brought no answer, or not the one that was asked for.
-/
namespace Enrolment.Service

inductive NetworkError where
  | invalidUrl (cause : UrlError)
  | transport (path : String) (detail : String)
  | rejected (path : String) (status : Nat) (failure : Failure)
  | deprecated
  deriving DecidableEq, Inhabited

namespace NetworkError

def code? : NetworkError → Option FailureCode
  | rejected _ _ failure => some failure.code
  | deprecated => some .deprecated
  | _ => none

def message : NetworkError → String
  | invalidUrl cause => "invalid server url: " ++ cause.message
  | transport path detail => "request to " ++ path ++ " failed: " ++ detail
  | rejected path status failure =>
    path ++ " rejected with status " ++ Text.decimalText status ++ ": " ++ failure.toText
  | deprecated => "this client build is deprecated and must be updated"

end NetworkError
end Enrolment.Service
