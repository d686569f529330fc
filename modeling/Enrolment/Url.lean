import Enrolment.Url.Host
/-!
Web addresses: which texts are one, where their host and port stand, and what an absolute path refers to
on them.

An address has a scheme. The schemes of the web have a host; other schemes have one after two slashes, or
hold a path with no hierarchy, to which nothing can be relative. Files have a path with or without a
host, and a path that starts with the letter of a drive stays on that drive.
-/
namespace Enrolment

structure Authority where
  /-- The name and the password of a user, encoded. An empty password is none. -/
  username : String
  password : String
  host : String
  /-- The port, where it is not the usual one. -/
  port : Option Nat
  deriving DecidableEq, Inhabited

structure Url where
  scheme : String
  authority : Option Authority
  opaquePath : Bool
  path : String
  deriving DecidableEq, Inhabited

namespace Authority

def ofHost (host : String) : Authority := ⟨"", "", host, none⟩

def hasUser (a : Authority) : Bool := !a.username.isEmpty || !a.password.isEmpty

def toText (a : Authority) : String :=
  let user := a.username ++ (if a.password.isEmpty then "" else ":" ++ a.password)
  let port := match a.port with
    | some port => ":" ++ Text.decimalText port
    | none => ""
  (if a.hasUser then user ++ "@" else "") ++ a.host ++ port

end Authority

namespace Url

def webSchemes : List (String × Nat) := [("http", 80), ("https", 443), ("ws", 80), ("wss", 443), ("ftp", 21)]

/-! ## Authorities -/

/-- What comes before the host, up to the last at sign of the authority, and what comes after. -/
def splitUser (endsAuthority : Char → Bool) (s : List Char) : Option (List Char) × List Char :=
  let authority := s.takeWhile fun c => !endsAuthority c
  if authority.contains '@' then
    let host := (authority.reverse.takeWhile (· ≠ '@')).reverse
    let user := authority.take (authority.length - host.length - 1)
    (some user, s.drop (user.length + 1))
  else (none, s)

def plainInUser (c : Char) : Bool := isVisibleAscii c && !" \"<>\x60#?\x7b\x7d/:;=@[\\]^|".toList.contains c

/-- Splits off the host, whose colons count only outside brackets. -/
def takeHost (endsAuthority : Char → Bool) : Bool → List Char → List Char × List Char
  | _, [] => ([], [])
  | inBrackets, c :: rest =>
    if (c = ':' && !inBrackets) || endsAuthority c then ([], c :: rest)
    else
      let (host, after) := takeHost endsAuthority (if c = '[' then true else if c = ']' then false else inBrackets) rest
      (c :: host, after)

def takePort : Nat → List Char → Except UrlError (Nat × List Char)
  | port, [] => .ok (port, [])
  | port, c :: rest =>
    if Text.isDigit c then
      let port := 10 * port + Text.digitValue c
      if 65535 < port then .error .invalidPort else takePort port rest
    else if c = '/' || c = '\\' || c = '?' || c = '#' then .ok (port, c :: rest)
    else .error .invalidPort

def takeAuthority (scheme : String) (s : List Char) : Except UrlError (Authority × List Char) := do
  let usual := webSchemes.lookup scheme
  let web := usual.isSome
  let endsAuthority (c : Char) : Bool := c = '/' || c = '?' || c = '#' || (web && c = '\\')
  let (user, s) := splitUser endsAuthority s
  if user = some [] && (s.head?.map endsAuthority).getD false then throw .emptyHost
  let user := user.getD []
  let encode (part : List Char) : String := String.ofList (Text.percentEncode plainInUser part)
  let (host, after) := takeHost endsAuthority false s
  if web && host.isEmpty then throw .emptyHost
  let host ← if web then webHost host else opaqueHost host
  let authority : Authority :=
    ⟨encode (user.takeWhile (· ≠ ':')), encode ((user.dropWhile (· ≠ ':')).drop 1), host, none⟩
  if host.isEmpty && (authority.hasUser || after.head? = some ':') then throw .emptyHost
  match after with
  | ':' :: digits =>
    let (port, after) ← takePort 0 digits
    let written := (digits.head?.map Text.isDigit).getD false && some port ≠ usual
    return (if written then { authority with port } else authority, after)
  | after => return (authority, after)

/-! ## Paths -/

def pathOf (s : List Char) : String := String.ofList (s.takeWhile fun c => c ≠ '?' && c ≠ '#')

def isDrive : List Char → Bool
  | [c, mark] => c.isAlpha && (mark = ':' || mark = '|')
  | _ => false

def dots (name : List Char) : Option Nat :=
  match String.ofList (name.map Char.toLower) with
  | "." | "%2e" => some 1
  | ".." | ".%2e" | "%2e." | "%2e%2e" => some 2
  | _ => none

/-- Follows the names of a file's path; what has been followed is given backwards. A step up does not
leave a drive, and a drive that comes first is written with a colon. -/
def followNames : List (List Char) → List (List Char) → List (List Char)
  | followed, [] => followed.reverse
  | followed, name :: rest =>
    let ending := if rest.isEmpty then [[]] else []
    match dots name with
    | some 1 => followNames (ending ++ followed) rest
    | some _ =>
      followNames (ending ++ (if (followed.head?.map isDrive).getD false then followed else followed.drop 1)) rest
    | none =>
      if followed.isEmpty && isDrive name then followNames [name.take 1 ++ [':']] rest
      else followNames (name :: followed) rest

def fileNames (s : List Char) : List (List Char) :=
  let path := (s.takeWhile fun c => c ≠ '?' && c ≠ '#').map fun c => if c = '\\' then '/' else c
  let path := match path with
    | '/' :: rest => rest
    | path => path
  (followNames [] (Text.splitOn '/' path)).dropWhile (·.isEmpty)

def driveOf? (names : List (List Char)) : Option (List Char) :=
  names.head?.filter fun name => isDrive name && name.getLast? = some ':'

/-- A file on a host, if there is one. A path on a drive is on no host. -/
def ofFile (host : String) (s : List Char) : Url :=
  let names := fileNames s
  ⟨"file", some (.ofHost (if (driveOf? names).isSome then "" else host)), false, String.ofList ('/' :: ['/'].intercalate names)⟩

def parseFile (s : List Char) : Except UrlError Url := do
  let isSlash (c : Char) : Bool := c = '/' || c = '\\'
  match s with
  | a :: b :: rest =>
    if isSlash a && isSlash b then
      let host := rest.takeWhile fun c => !isSlash c && c ≠ '?' && c ≠ '#'
      if host.isEmpty || isDrive host then return ofFile "" rest
      else
        let name ← webHost host
        return ofFile (if name = "localhost" then "" else name) (rest.drop host.length)
    else return ofFile "" s
  | s => return ofFile "" s

/-! ## Addresses -/

def isSchemeChar (c : Char) : Bool := c.isAlphanum || c = '+' || c = '-' || c = '.'

def takeScheme? (s : List Char) : Option (String × List Char) :=
  match s with
  | c :: _ =>
    if c.isAlpha then
      match s.dropWhile isSchemeChar with
      | ':' :: rest => some (String.ofList ((s.takeWhile isSchemeChar).map Char.toLower), rest)
      | _ => none
    else none
  | [] => none

/-- Reads an address. Blanks around it count for nothing, and neither do tabs and line ends in it. -/
def parse (text : String) : Except UrlError Url := do
  let outside (c : Char) : Bool := c.toNat ≤ 32
  let s := ((text.toList.dropWhile outside).reverse.dropWhile outside).reverse
  let s := s.filter fun c => c ≠ '\t' && c ≠ '\n' && c ≠ '\r'
  match takeScheme? s with
  | none => throw .relativeWithoutBase
  | some (scheme, rest) =>
    if scheme = "file" then parseFile rest
    else if (webSchemes.lookup scheme).isSome then
      let (authority, after) ← takeAuthority scheme (rest.dropWhile fun c => c = '/' || c = '\\')
      return ⟨scheme, some authority, false, if after.head? = some '/' then pathOf after else "/" ++ pathOf after⟩
    else
      match rest with
      | '/' :: '/' :: after =>
        let (authority, after) ← takeAuthority scheme after
        return ⟨scheme, some authority, false, pathOf after⟩
      | '/' :: _ => return ⟨scheme, none, false, pathOf rest⟩
      | _ => return ⟨scheme, none, true, pathOf rest⟩

def drivePath (u : Url) : String :=
  match driveOf? ((Text.splitOn '/' u.path.toList).drop 1) with
  | some drive => if u.scheme = "file" then "/" ++ String.ofList drive else ""
  | none => ""

def resolve (base : Url) (path : String) : Except UrlError Url :=
  if base.opaquePath then .error .relativeToOpaquePath else .ok { base with path := base.drivePath ++ path }

def host (u : Url) : String := (u.authority.map (·.host)).getD ""

def toText (u : Url) : String :=
  u.scheme ++ ":" ++ (match u.authority with | some a => "//" ++ a.toText | none => "") ++ u.path

end Url
end Enrolment
