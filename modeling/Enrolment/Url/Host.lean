import Enrolment.HostName
import Enrolment.Text.Percent
/-!
Hosts in web addresses: names, numbers of four parts, and bracketed numbers of eight. The schemes of the
web compare names and numbers in one form; other schemes keep the host as it is written.
-/
namespace Enrolment

inductive UrlError where
  | emptyHost
  | invalidDomain
  | invalidPort
  | invalidIpv4
  | invalidIpv6
  | invalidDomainCharacter
  | relativeWithoutBase
  | relativeToOpaquePath
  deriving DecidableEq, Inhabited, Repr

def UrlError.message : UrlError → String
  | emptyHost => "empty host"
  | invalidDomain => "invalid international domain name"
  | invalidPort => "invalid port number"
  | invalidIpv4 => "invalid IPv4 address"
  | invalidIpv6 => "invalid IPv6 address"
  | invalidDomainCharacter => "invalid domain character"
  | relativeWithoutBase => "relative URL without a base"
  | relativeToOpaquePath => "relative URL with a cannot-be-a-base base"

namespace Url

/-! ## Numbers of four parts -/

/-- A part of a four-part number: decimal, octal after a zero, hexadecimal after `0x`. -/
def ipv4Part? (part : List Char) : Option Nat :=
  let (base, digits) := match part with
    | '0' :: 'x' :: rest => (16, rest)
    | '0' :: 'X' :: rest => (16, rest)
    | '0' :: d :: rest => (8, d :: rest)
    | digits => (10, digits)
  if part.isEmpty then none
  else digits.foldlM (fun n c => do
    let d ← Text.hexValue? c
    if d < base then some (base * n + d) else none) 0

def endsInNumber (name : List Char) : Bool :=
  let decides (part : List Char) : Bool :=
    (!part.isEmpty && part.all Text.isDigit) || (ipv4Part? part).isSome
  match (Text.splitOn '.' name).reverse with
  | [] :: part :: _ => decides part
  | [] :: [] => false
  | part :: _ => decides part
  | [] => false

/-- The number of four parts; the last one may fill the places of those left out. -/
def ipv4? (name : List Char) : Option Nat := do
  let parts := Text.splitOn '.' name
  let parts := if parts.getLast? = some [] then parts.dropLast else parts
  if 4 < parts.length then none
  else
    let numbers ← parts.mapM ipv4Part?
    let last ← numbers.getLast?
    let front := numbers.dropLast
    if front.any (255 < ·) || Nat.pow 256 (4 - front.length) ≤ last then none
    else some (front.foldr (fun n rest => n * Nat.pow 256 3 + rest / 256) (last * Nat.pow 256 front.length))

def ipv4Text (n : Nat) : String :=
  String.intercalate "." ([n / 16777216 % 256, n / 65536 % 256, n / 256 % 256, n % 256].map Text.decimalText)

/-! ## Numbers of eight groups -/

def octet? (part : List Char) : Option Nat := do
  let n ← Text.natural? part
  if n < 256 && Text.decimal n = part then some n else none

/-- The groups of sixteen bits between colons; the last two may be written as a number of four parts. -/
def ipv6Groups? : List (List Char) → Option (List Nat)
  | [] => some []
  | [part] =>
    if part.contains '.' then do
      match ← (Text.splitOn '.' part).mapM octet? with
      | [a, b, c, d] => some [a * 256 + b, c * 256 + d]
      | _ => none
    else if part.isEmpty || 4 < part.length then none
    else (Text.hexNatural? part).map ([·])
  | part :: parts =>
    if part.isEmpty || 4 < part.length then none
    else do
      let n ← Text.hexNatural? part
      let rest ← ipv6Groups? parts
      return n :: rest

def groupsOf? (part : List Char) : Option (List Nat) :=
  if part.isEmpty then some [] else ipv6Groups? (Text.splitOn ':' part)

def splitAtGap : List Char → Option (List Char × List Char)
  | ':' :: ':' :: rest => some ([], rest)
  | c :: rest => (splitAtGap rest).map fun (before, after) => (c :: before, after)
  | [] => none

/-- Eight groups, or fewer with a gap of zeros that is written as two colons. -/
def ipv6? (name : List Char) : Option (List Nat) :=
  match splitAtGap name with
  | none => do
    let groups ← groupsOf? name
    if groups.length = 8 then some groups else none
  | some (before, after) => do
    let before ← if before.contains '.' then none else groupsOf? before
    let after ← groupsOf? after
    let missing := 8 - (before.length + after.length)
    if missing = 0 then none else some (before ++ List.replicate missing 0 ++ after)

def leadingZeros (groups : List Nat) : Nat := (groups.takeWhile (· = 0)).length

def longestZeros : List Nat → Nat × Nat
  | [] => (0, 0)
  | n :: rest =>
    let here := leadingZeros (n :: rest)
    let (start, length) := longestZeros rest
    if length ≤ here then (0, here) else (start + 1, length)

def groupsText (groups : List Nat) : String :=
  String.intercalate ":" (groups.map fun n => String.ofList (Text.hexNumeral n))

/-- The groups between brackets. The longest run of zeros is left out, if it is more than one. -/
def ipv6Text (groups : List Nat) : String :=
  let (start, length) := longestZeros groups
  if length < 2 then "[" ++ groupsText groups ++ "]"
  else "[" ++ groupsText (groups.take start) ++ "::" ++ groupsText (groups.drop (start + length)) ++ "]"

def bracketed (host : List Char) : Except UrlError String :=
  match host.reverse with
  | ']' :: inner =>
    match ipv6? (inner.reverse.drop 1) with
    | some groups => .ok (ipv6Text groups)
    | none => .error .invalidIpv6
  | _ => .error .invalidIpv6

/-! ## Hosts -/

def webHost (host : List Char) : Except UrlError String :=
  if host.head? = some '[' then bracketed host
  else
    match (Text.ofUtf8? (Text.percentDecode (Text.utf8 (String.ofList host)))).bind fun text =>
        HostName.ofChars? text.toList with
    | none => .error .invalidDomain
    | some name =>
      if name.isEmpty then .error .emptyHost
      else if endsInNumber name then
        match ipv4? name with
        | some n => .ok (ipv4Text n)
        | none => .error .invalidIpv4
      else .ok (String.ofList name)

def forbiddenInHost (c : Char) : Bool :=
  c.toNat = 0 || c = '\t' || c = '\n' || c = '\r' || " #/:<>?@[\\]^|".toList.contains c

def isVisibleAscii (c : Char) : Bool := 32 ≤ c.toNat && c.toNat < 127

def opaqueHost (host : List Char) : Except UrlError String :=
  if host.head? = some '[' then bracketed host
  else if host.any forbiddenInHost then .error .invalidDomainCharacter
  else .ok (String.ofList (Text.percentEncode isVisibleAscii host))

end Url
end Enrolment
