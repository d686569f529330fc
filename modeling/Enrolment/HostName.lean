import Enrolment.HostName.Joining
import Enrolment.HostName.Mapping
import Enrolment.HostName.Punycode
/-!
Names of hosts in the form in which they are looked up: small letters of ASCII, where a label that has
others is encoded behind `xn--`.

A name is mapped and composed and then taken apart into labels. A label that comes encoded has to be the
encoding of a label that could be written.
-/
namespace Enrolment.HostName

def encodedMark : List Char := "xn--".toList

/-- How many characters a label may have for it to be encoded. -/
def encodingLimit : Nat := 1000

/-- How many characters an encoded label may have behind its mark. -/
def decodingLimit : Nat := 2000

def isAscii (s : List Char) : Bool := s.all (·.toNat < 128)

def isForbidden (c : Char) : Bool := c.toNat ≤ 32 || c.toNat = 127 || "%#/:<>?@[\\]^|".toList.contains c

def isLabel (label : List Char) : Bool :=
  isAscii label ||
    (label.length ≤ encodingLimit && !(label.head?.map isMark).getD false && joinersFit [] label)

def written? (label : List Char) : Option (List Char) :=
  if encodedMark.isPrefixOf label then
    let code := label.drop encodedMark.length
    if decodingLimit < code.length || code.getLast? = some '-' || !isAscii code then none
    else
      match Punycode.decode? code with
      | some label =>
        if !isAscii label && isKept label && composed label = label && !label.any isForbidden && !label.contains '.' &&
            isLabel label then
          some label
        else none
      | none => none
  else if isLabel label then some label else none

def encoded (label : List Char) : List Char :=
  if isAscii label then label else encodedMark ++ Punycode.encode label

/-- Whether nothing has to be done to a name: it has small letters, digits, dots and hyphens, and no
label looks encoded. -/
def isPlain (name : List Char) : Bool :=
  name.all (fun c => c.isLower || Text.isDigit c || c = '.' || c = '-') &&
    !(Text.splitOn '.' name).any encodedMark.isPrefixOf

def ofChars? (name : List Char) : Option (List Char) :=
  if isPlain name then some name
  else do
    let mapped ← map? name
    let labels ← (Text.splitOn '.' (composed mapped)).mapM written?
    if labels.any (·.any isForbidden) || !directionsAgree labels then none
    else some (['.'].intercalate (labels.map encoded))

end Enrolment.HostName
