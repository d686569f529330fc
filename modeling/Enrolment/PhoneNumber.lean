import Enrolment.Json.Record
import Enrolment.Text.Blank
/-!
Phone numbers in the international form: a plus sign and 8 to 15 digits. The type holds no other
text, and reading trims blanks around it.
-/
namespace Enrolment

/-- The grammar, in ASCII digits only. -/
def isPhoneNumber : List Char → Bool
  | '+' :: digits => 8 ≤ digits.length && digits.length ≤ 15 && digits.all Text.isDigit
  | _ => false

structure PhoneNumber where
  text : String
  wellFormed : isPhoneNumber text.toList = true
  deriving DecidableEq

structure InvalidPhoneNumber where
  given : String
  deriving DecidableEq, Repr

def InvalidPhoneNumber.message (e : InvalidPhoneNumber) : String :=
  "phone number must be in E.164 form, got '" ++ e.given ++ "'"

namespace PhoneNumber

instance : Inhabited PhoneNumber := ⟨⟨"+00000000", by decide +kernel⟩⟩

def parse (raw : String) : Except InvalidPhoneNumber PhoneNumber :=
  if h : isPhoneNumber (Text.trim raw).toList = true then .ok ⟨Text.trim raw, h⟩
  else .error ⟨raw⟩

def toJson (n : PhoneNumber) : Json := .str n.text

def ofJson? (j : Json) : Option PhoneNumber :=
  match j with
  | .str s => (parse s).toOption
  | _ => none

end PhoneNumber
end Enrolment
