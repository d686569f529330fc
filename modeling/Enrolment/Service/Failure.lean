import Enrolment.Json.Record
/-!
Why the account service refuses a request: a code, which a status stands for, and a message.
-/
namespace Enrolment.Service

inductive FailureCode where
  | unauthorized
  | forbidden
  | notFound
  | validation
  | rateLimited
  | registrationLocked
  | deprecated
  | internal
  deriving DecidableEq, Inhabited, Repr

/-- The status that tells a client that its build is no longer accepted. -/
def deprecatedStatus : Nat := 499

namespace FailureCode

def all : List FailureCode :=
  [unauthorized, forbidden, notFound, validation, rateLimited, registrationLocked, deprecated, internal]

def ofStatus (status : Nat) : FailureCode :=
  if status = 401 then unauthorized
  else if status = 403 then forbidden
  else if status = 404 then notFound
  else if status = 400 ∨ status = 422 then validation
  else if status = 413 ∨ status = 429 then rateLimited
  else if status = 423 then registrationLocked
  else if status = deprecatedStatus then deprecated
  else internal

def name : FailureCode → String
  | unauthorized => "unauthorized"
  | forbidden => "forbidden"
  | notFound => "not_found"
  | validation => "validation"
  | rateLimited => "rate_limited"
  | registrationLocked => "registration_locked"
  | deprecated => "deprecated"
  | internal => "internal"

def title : FailureCode → String
  | unauthorized => "Unauthorized"
  | forbidden => "Forbidden"
  | notFound => "NotFound"
  | validation => "Validation"
  | rateLimited => "RateLimited"
  | registrationLocked => "RegistrationLocked"
  | deprecated => "Deprecated"
  | internal => "Internal"

def toJson (c : FailureCode) : Json := .str c.name

def ofJson? : Json → Option FailureCode := Json.asVariant? (all.map fun c => (c.name, c))

end FailureCode

structure Failure where
  code : FailureCode
  message : String
  deriving DecidableEq, Inhabited, Repr

namespace Failure

def toText (f : Failure) : String := f.code.title ++ ": " ++ f.message

def toJson (f : Failure) : Json := .obj [("code", f.code.toJson), ("message", .str f.message)]

def ofJson? (j : Json) : Option Failure := do
  let f ← j.fields? ["code", "message"]
  let code ← f.required? "code" FailureCode.ofJson?
  let message ← f.required? "message" Json.asString?
  return ⟨code, message⟩

end Failure
end Enrolment.Service
