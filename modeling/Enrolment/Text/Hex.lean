import Enrolment.Text.Digits
/-!
Byte strings, and their form as pairs of lower-case hexadecimal digits.
-/
namespace Enrolment

abbrev Bytes := List UInt8

namespace Text

def hexOfBytes (bytes : Bytes) : String :=
  String.ofList (bytes.flatMap fun b => hexFixed 2 b.toNat)

def bytesOfHexChars : List Char → Option Bytes
  | [] => some []
  | high :: low :: rest => do
    let h ← hexValue? high
    let l ← hexValue? low
    let bytes ← bytesOfHexChars rest
    return UInt8.ofNat (16 * h + l) :: bytes
  | _ => none

/-- The bytes that pairs of digits stand for; an odd digit or another character is refused. -/
def bytesOfHex? (text : String) : Option Bytes := bytesOfHexChars text.toList

end Text
end Enrolment
